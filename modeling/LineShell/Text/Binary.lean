import LineShell.Text.Decimal

/-
  Fractional numbers with 53 binary digits, and their decimal
  forms.

  A number is the one closest to what is written, and a form
  has the digits closest to the number; of two that are
  equally close, the even one is taken.

  Main declarations:
    * `Text.roundedQuotient`
    * `Text.Binary`
    * `Text.Binary.ofFraction`
    * `Text.Binary.fixed`
    * `Text.Binary.scientific`
    * `Text.Binary.shortest`
-/

------------------------------------------------------------
-- Rounding
------------------------------------------------------------

namespace LineShell

namespace Text

/-
  The whole number closest to a quotient; a half goes to the
  even one.
-/
def roundedQuotient
    (numerator denominator : Nat) : Nat :=
  let q := numerator / denominator
  let twice := 2 * (numerator % denominator)
  if twice < denominator then
    q
  else if denominator < twice then
    q + 1
  else
    q + q % 2

/- The number of binary digits of a number. -/
def bitLength
    (n : Nat) : Nat :=
  if n = 0 then 0 else n.log2 + 1

end Text

end LineShell

------------------------------------------------------------
-- Numbers
------------------------------------------------------------

namespace LineShell

namespace Text

/- A digit sequence times a power of two, or a larger number. -/
inductive Binary where
  | finite (digits : Nat) (exponent : Int)
  | infinite
  deriving DecidableEq, Repr

namespace Binary

/- The least exponent. -/
def leastExponent : Int :=
  -1074

/- The number closest to a fraction. -/
def ofFraction
    (numerator denominator : Nat) : Binary :=
  if numerator = 0 then
    finite 0 0
  else
    let size : Int :=
      (bitLength numerator : Int) - bitLength denominator
    let round (exponent : Int) : Nat :=
      if 0 ≤ exponent then
        roundedQuotient numerator
          (denominator * Nat.pow 2 exponent.toNat)
      else
        roundedQuotient (numerator * Nat.pow 2 (-exponent).toNat)
          denominator
    let low := max (size - 54) leastExponent
    let exponent :=
      if Nat.pow 2 54 ≤ round low then
        max (low + 2) leastExponent
      else if Nat.pow 2 53 ≤ round low then
        max (low + 1) leastExponent
      else
        low
    let digits := round exponent
    if 1024 < (bitLength digits : Int) + exponent then
      infinite
    else
      finite digits exponent

/- The number as a fraction. -/
def fraction
    (digits : Nat)
    (exponent : Int) : Nat × Nat :=
  if 0 ≤ exponent then
    (digits * Nat.pow 2 exponent.toNat, 1)
  else
    (digits, Nat.pow 2 (-exponent).toNat)

end Binary

end Text

end LineShell

------------------------------------------------------------
-- Decimal Forms
------------------------------------------------------------

namespace LineShell

namespace Text

namespace Binary

/- A numeral with at least so many digits. -/
def paddedNumeral
    (width n : Nat) : Text :=
  let digits := ofNat n
  List.replicate (width - digits.length) '0' ++ digits

/- Digits with a point before the last few of them. -/
def pointed
    (places : Nat)
    (keepsPoint : Bool)
    (digits : Text) : Text :=
  let whole := digits.take (digits.length - places)
  let rest := digits.drop (digits.length - places)
  if rest.isEmpty && !keepsPoint then
    whole
  else
    whole ++ '.' :: rest

/- A fraction with so many places after the point. -/
def fixed
    (places : Nat)
    (keepsPoint : Bool)
    (numerator denominator : Nat) : Text :=
  let n :=
    roundedQuotient (numerator * Nat.pow 10 places)
      denominator
  pointed places keepsPoint (paddedNumeral (places + 1) n)

/-
  The power of ten at the first digit of a fraction that is
  not zero.  The first argument bounds the search.
-/
def decimalExponent
    (numerator denominator : Nat) : Int :=
  if denominator ≤ numerator then
    ((ofNat (numerator / denominator)).length : Int) - 1
  else
    let n := (ofNat (denominator / numerator)).length
    if denominator ≤ numerator * Nat.pow 10 (n - 1) then
      1 - (n : Int)
    else
      -(n : Int)

/-
  The first digits of a fraction with so many after the first,
  and the power of ten at the first of them.
-/
def leadingDigits
    (places numerator denominator : Nat) : Nat × Int :=
  if numerator = 0 then
    (0, 0)
  else
    let power := decimalExponent numerator denominator
    let shift := power - places
    let digits :=
      if 0 ≤ shift then
        roundedQuotient numerator
          (denominator * Nat.pow 10 shift.toNat)
      else
        roundedQuotient (numerator * Nat.pow 10 (-shift).toNat)
          denominator
    if digits = Nat.pow 10 (places + 1) then
      (Nat.pow 10 places, power + 1)
    else
      (digits, power)

/- A power of ten as it is written after digits. -/
def powerText
    (power : Int) : Text :=
  (if power < 0 then ['e', '-'] else ['e', '+']) ++
    paddedNumeral 2 power.natAbs

/- A fraction as digits times a power of ten. -/
def scientific
    (places : Nat)
    (keepsPoint : Bool)
    (numerator denominator : Nat) : Text :=
  let (digits, power) :=
    leadingDigits places numerator denominator
  pointed places keepsPoint
    (paddedNumeral (places + 1) digits) ++ powerText power

/- A form without the zeros at the end of its places. -/
def withoutZeros
    (t : Text) : Text :=
  if t.contains '.' then
    let kept := (t.reverse.dropWhile (· == '0')).reverse
    if endsWith '.' kept then kept.dropLast else kept
  else
    t

/-
  A fraction with so many digits, written with a power of ten
  if that is very small or too large for the digits.
-/
def shortest
    (precision : Nat)
    (keepsZeros : Bool)
    (numerator denominator : Nat) : Text :=
  let places := max precision 1 - 1
  let (digits, power) :=
    leadingDigits places numerator denominator
  let trim (t : Text) :=
    if keepsZeros then t else withoutZeros t
  if power < -4 ∨ (places : Int) < power then
    trim (pointed places keepsZeros
      (paddedNumeral (places + 1) digits)) ++ powerText power
  else
    trim (fixed (places - power).toNat keepsZeros numerator
      denominator)

end Binary

end Text

end LineShell
