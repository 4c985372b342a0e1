import LineShell.Posix.Sh.Arithmetic

/-
  Reading the arguments of commands: options and numbers.

  Main declarations:
    * `Posix.Sh.readOptions`
    * `Posix.Sh.decimal?`
    * `Posix.Sh.numberArgument`
-/

------------------------------------------------------------
-- Options
------------------------------------------------------------

namespace LineShell

namespace Posix

namespace Sh

/-
  Whether an option is allowed, and whether it takes an
  argument.  Options that do have a colon after them.
-/
def allowedOption?
    (c : Char) : Text → Option Bool
  | [] => none
  | [d] => if c = d then some false else none
  | d :: ':' :: rest =>
      if c = d then some true else allowedOption? c rest
  | d :: rest =>
      if c = d then some false else allowedOption? c rest

/- Read the letters of one argument, and what follows it. -/
def readLetters
    (allowed : Text)
    (following : List Text) :
    Text → Act (List (Char × Text) × List Text)
  | [] => return ([], following)
  | c :: letters => do
      match allowedOption? c allowed with
      | none => fail ("Illegal option -".toList ++ [c])
      | some false =>
          let (options, rest) ←
            readLetters allowed following letters
          return ((c, []) :: options, rest)
      | some true =>
          if !letters.isEmpty then
            return ([(c, letters)], following)
          else
            match following with
            | [] =>
                fail ("No arg for -".toList ++ [c] ++ " option")
            | argument :: rest => return ([(c, argument)], rest)

/-
  The options that arguments begin with, and the others.  The
  first argument bounds the number of steps.
-/
def readOptionsWithin
    (allowed : Text) :
    Nat → List Text → Act (List (Char × Text) × List Text)
  | 0, args => return ([], args)
  | fuel + 1, args =>
      match args with
      | ['-', '-'] :: rest => return ([], rest)
      | ('-' :: c :: letters) :: rest => do
          let (first, rest) ←
            readLetters allowed rest (c :: letters)
          let (later, rest) ←
            readOptionsWithin allowed fuel rest
          return (first ++ later, rest)
      | _ => return ([], args)

/- The options that arguments begin with, and the others. -/
def readOptions
    (allowed : Text)
    (args : List Text) :
    Act (List (Char × Text) × List Text) :=
  readOptionsWithin allowed (args.length + 1) args

end Sh

end Posix

end LineShell

------------------------------------------------------------
-- Numbers
------------------------------------------------------------

namespace LineShell

namespace Posix

namespace Sh

/-
  The decimal number that a text is, with white space around
  it and a sign in front of it, if it has at most 64 bits.
-/
def decimal?
    (t : Text) : Option Int :=
  let given :=
    ((t.dropWhile isSpace).reverse.dropWhile isSpace).reverse
  let (sign, digits) : Int × Text :=
    match given with
    | '-' :: rest => (-1, rest)
    | '+' :: rest => (1, rest)
    | _ => (1, given)
  if !Text.isNumeral digits then
    none
  else
    let n := sign * Text.numeralValue digits
    let limit : Int := Nat.pow 2 63
    if -limit ≤ n ∧ n < limit then some n else none

/- Complain about something that is no number. -/
def illegalNumber
    (t : Text) : Act α :=
  fail ("Illegal number: " ++ t)

/- The number that an argument is; it is not negative. -/
def numberArgument
    (t : Text) : Act Nat :=
  match decimal? t with
  | some n =>
      if 0 ≤ n ∧ n ≤ 2147483647 then
        return n.toNat
      else
        illegalNumber t
  | none => illegalNumber t

end Sh

end Posix

end LineShell
