import LineShell.Fault

/-
  Exit statuses: reading one from an argument, and turning
  the ending of a child into one.

  Main declarations:
    * `ExitStatus.parse`
    * `ExitStatus.normalize`
-/

------------------------------------------------------------
-- Reading
------------------------------------------------------------

namespace LineShell

namespace ExitStatus

/- The longest numeral that is read, in digits. -/
def digitLimit : Nat :=
  4300

/- The largest status that an argument may give. -/
def largest : Nat :=
  255

/- A numeral of so many digits is too long to be read. -/
def tooLong
    (digits : Nat) : Fault :=
  .value <|
    "Exceeds the limit (" ++ Text.ofNat digitLimit ++
      " digits) for integer string conversion: value has " ++
      Text.ofNat digits ++
      " digits; use sys.set_int_max_str_digits() " ++
      "to increase the limit"

/- The argument of the named command is no status. -/
def notNumeric
    (name argument : Text) : Fault :=
  .badArgument name argument
    (some "numeric argument required")

/-
  Read an unsigned 8-bit decimal status.  A numeral beyond the
  digit limit is refused before its value is known.
-/
def parse
    (name argument : Text) : Except Fault Nat :=
  if !Text.isNumeral argument then
    .error (notNumeric name argument)
  else if digitLimit < argument.length then
    .error (tooLong argument.length)
  else if largest < Text.numeralValue argument then
    .error (notNumeric name argument)
  else
    .ok (Text.numeralValue argument)

end ExitStatus

end LineShell

------------------------------------------------------------
-- Endings of Children
------------------------------------------------------------

namespace LineShell

namespace ExitStatus

/-
  The status of a child: a negative number -N stands for death
  by signal N and is reported as 128 + N.
-/
def normalize
    (status : Int) : Int :=
  if status < 0 then
    128 - status
  else
    status

end ExitStatus

end LineShell
