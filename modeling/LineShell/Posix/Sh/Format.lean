import LineShell.Posix.Sh.Arguments
import LineShell.Text.Binary
import LineShell.Text.Quoted

/-
  Writing texts with escapes, and arguments put into a format.

  Main declarations:
    * `Posix.Sh.unescape`
    * `Posix.Sh.echo`
    * `Posix.Sh.Directive`
    * `Posix.Sh.printf`
-/

------------------------------------------------------------
-- Escapes
------------------------------------------------------------

namespace LineShell

namespace Posix

namespace Sh

/- The character that a letter after a backslash stands for. -/
def escapeLetter? :
    Char → Option Char
  | '\\' => some '\\'
  | 'a' => some '\x07'
  | 'b' => some '\x08'
  | 'e' => some '\x1b'
  | 'f' => some '\x0c'
  | 'n' => some '\n'
  | 'r' => some '\r'
  | 't' => some '\t'
  | 'v' => some '\x0b'
  | _ => none

/- Whether a character is an octal digit. -/
def isOctal
    (c : Char) : Bool :=
  '0' ≤ c && c ≤ '7'

/- The octet of octal digits. -/
def octalOctet
    (digits : Text) : Char :=
  Char.ofNat (valueOf 8 digits % 256)

/-
  The character of an escape whose backslash was read, and
  what follows it.
-/
def takeEscape
    (t : Text) : Char × Text :=
  match t with
  | [] => ('\\', [])
  | c :: rest =>
      if isOctal c then
        let digits := (t.take 3).takeWhile isOctal
        (octalOctet digits, t.drop digits.length)
      else
        match escapeLetter? c with
        | some d => (d, rest)
        | none => ('\\', t)

/-
  A text with its escapes replaced, and whether it ends early:
  after the escape `\c` nothing more is written.  The first
  argument bounds the number of steps.
-/
def unescapeWithin :
    Nat → Text → Text × Bool
  | 0, _ => ([], false)
  | _, [] => ([], false)
  | _, '\\' :: 'c' :: _ => ([], true)
  | fuel + 1, '\\' :: '0' :: rest =>
      let digits := (rest.take 3).takeWhile isOctal
      let (t, early) :=
        unescapeWithin fuel (rest.drop digits.length)
      (octalOctet digits :: t, early)
  | fuel + 1, '\\' :: rest =>
      let (c, after) := takeEscape rest
      let (t, early) := unescapeWithin fuel after
      (c :: t, early)
  | fuel + 1, c :: rest =>
      let (t, early) := unescapeWithin fuel rest
      (c :: t, early)

/- A text with its escapes replaced, and whether it ends early. -/
def unescape
    (t : Text) : Text × Bool :=
  unescapeWithin (t.length + 1) t

/- Write the arguments with spaces between them. -/
def echo
    (args : List Text) : Act Nat := do
  let (args, ending) : List Text × Text :=
    match args with
    | ['-', 'n'] :: rest => (rest, [])
    | _ => (args, ['\n'])
  let (text, early) := unescape (Text.unwords args)
  put (text ++ if early then [] else ending)
  return 0

end Sh

end Posix

end LineShell

------------------------------------------------------------
-- Directives
------------------------------------------------------------

namespace LineShell

namespace Posix

namespace Sh

/- How an argument is put into a format. -/
structure Directive where
  flags : Text
  width : Nat := 0
  precision : Option Nat := none

namespace Directive

/- Whether a directive has a flag. -/
def has
    (directive : Directive)
    (flag : Char) : Bool :=
  directive.flags.contains flag

/- A text with blanks before or after it. -/
def padded
    (directive : Directive)
    (t : Text) : Text :=
  let blanks := List.replicate (directive.width - t.length) ' '
  if directive.has '-' then t ++ blanks else blanks ++ t

/- Digits after a sign, padded with blanks or zeros. -/
def signed
    (directive : Directive)
    (mayPadZeros : Bool)
    (sign digits : Text) : Text :=
  if directive.has '0' && !directive.has '-' &&
      mayPadZeros then
    let zeros :=
      directive.width - sign.length - digits.length
    sign ++ List.replicate zeros '0' ++ digits
  else
    directive.padded (sign ++ digits)

/- The sign of a number that can be negative. -/
def sign
    (directive : Directive)
    (isNegative : Bool) : Text :=
  if isNegative then
    ['-']
  else if directive.has '+' then
    ['+']
  else if directive.has ' ' then
    [' ']
  else
    []

/- The digits of a number, at least so many as asked for. -/
def digits
    (directive : Directive)
    (base n : Nat) : Text :=
  let digits := Nat.toDigits base n
  match directive.precision with
  | some 0 => if n = 0 then [] else digits
  | some least =>
      List.replicate (least - digits.length) '0' ++ digits
  | none => digits

/- A text, as much of it as asked for. -/
def text
    (directive : Directive)
    (t : Text) : Text :=
  match directive.precision with
  | some most => directive.padded (t.take most)
  | none => directive.padded t

/- A decimal number. -/
def decimal
    (directive : Directive)
    (n : Int) : Text :=
  directive.signed directive.precision.isNone
    (directive.sign (n < 0)) (directive.digits 10 n.natAbs)

/- A number that is not negative, by the letter of its base. -/
def unsigned
    (directive : Directive)
    (letter : Char)
    (n : Nat) : Text :=
  let isAlternative := directive.has '#'
  let mayPadZeros := directive.precision.isNone
  if letter = 'u' then
    directive.signed mayPadZeros [] (directive.digits 10 n)
  else if letter = 'o' then
    let digits := directive.digits 8 n
    let isOpen := isAlternative && digits.head? != some '0'
    directive.signed mayPadZeros []
      (if isOpen then '0' :: digits else digits)
  else
    let lead : Text :=
      if isAlternative && n != 0 then ['0', 'x'] else []
    let shown :=
      directive.signed mayPadZeros lead
        (directive.digits 16 n)
    if letter = 'X' then shown.map Char.toUpper else shown

/- A fraction, by the letter of its form. -/
def fraction
    (directive : Directive)
    (letter : Char)
    (isNegative : Bool)
    (number : Text.Binary) : Text :=
  let sign := directive.sign isNegative
  let precision := directive.precision.getD 6
  let keeps := directive.has '#'
  let shown :=
    match number with
    | .infinite => directive.padded (sign ++ "inf")
    | .finite digits exponent =>
        let (n, d) := Text.Binary.fraction digits exponent
        let lower := letter.toLower
        directive.signed true sign <|
          if lower = 'f' then
            Text.Binary.fixed precision keeps n d
          else if lower = 'e' then
            Text.Binary.scientific precision keeps n d
          else
            Text.Binary.shortest precision keeps n d
  if letter.isUpper then shown.map Char.toUpper else shown

end Directive

end Sh

end Posix

end LineShell

------------------------------------------------------------
-- Numbers in Arguments
------------------------------------------------------------

namespace LineShell

namespace Posix

namespace Sh

/- A format at work: what is written and left, and the status. -/
structure Formatting where
  args : List Text
  output : Text := []
  status : Nat := 0
  isOver : Bool := false

/- Formatting with the state of a script at hand. -/
abbrev Formatted :=
  StateT Formatting Act

namespace Formatted

/- Write. -/
def write
    (t : Text) : Formatted Unit :=
  modify fun f => { f with output := f.output ++ t }

/- Take the next argument, if there is one. -/
def argument? : Formatted (Option Text) := do
  let f ← get
  match f.args with
  | [] => return none
  | t :: rest =>
      set { f with args := rest }
      return some t

/- Report a number that is not as it should be. -/
def report
    (message : Text) : Formatted Unit := do
  let _ ← (warn message : Act Unit)
  modify fun f => { f with status := 1 }

/-
  Check that a number was read up to the end of an argument,
  and is not too large.
-/
def check
    (given rest : Text)
    (isTooLarge : Bool) : Formatted Unit := do
  if !rest.isEmpty then
    if rest.length = given.length then
      report (given ++ ": expected numeric value")
    else
      report (given ++ ": not completely converted")
  else if isTooLarge then
    report (given ++ ": Numerical result out of range")

/- Whether a number is negative, and what follows the sign. -/
def takeSign
    (t : Text) : Bool × Text :=
  match t.dropWhile isSpace with
  | '-' :: rest => (true, rest)
  | '+' :: rest => (false, rest)
  | rest => (false, rest)

/- The whole number that the next argument is. -/
def integer
    (isSigned : Bool) : Formatted Int := do
  match ← argument? with
  | none => return 0
  | some given =>
      match given with
      | '\x27' :: rest => return (rest.headD nul).toNat
      | '"' :: rest => return (rest.headD nul).toNat
      | _ =>
          let (isNegative, digits) := takeSign given
          let (n, after) := takeNumeral digits
          let rest :=
            if (digitsOf 10 digits).isEmpty then given
            else after
          let most : Nat :=
            if !isSigned then Nat.pow 2 64 - 1
            else if isNegative then Nat.pow 2 63
            else Nat.pow 2 63 - 1
          check given rest (most < n)
          let kept := min n most
          if isNegative && (isSigned || n ≤ most) then
            return -(kept : Int)
          else
            return kept

/- The fraction that digits with a point and a power are. -/
def takeFraction
    (t : Text) : (Nat × Nat) × Text :=
  let whole := t.takeWhile Char.isDigit
  let after := t.drop whole.length
  let (places, after) : Text × Text :=
    match after with
    | '.' :: rest =>
        let places := rest.takeWhile Char.isDigit
        if whole.isEmpty && places.isEmpty then
          ([], after)
        else
          (places, rest.drop places.length)
    | _ => ([], after)
  let n := Text.numeralValue (whole ++ places)
  let scaled (power : Int) : Nat × Nat :=
    let power := power - places.length
    if 0 ≤ power then
      (n * Nat.pow 10 (min power 400).toNat, 1)
    else
      (n, Nat.pow 10 (min (-power) 2000).toNat)
  let hasDigits := !(whole ++ places).isEmpty
  match after with
  | e :: rest =>
      if hasDigits && (e = 'e' || e = 'E') then
        let (isNegative, digits) : Bool × Text :=
          match rest with
          | '-' :: rest => (true, rest)
          | '+' :: rest => (false, rest)
          | _ => (false, rest)
        let power := digits.takeWhile Char.isDigit
        if power.isEmpty then
          (scaled 0, after)
        else
          let value : Int := Text.numeralValue power
          (scaled (if isNegative then -value else value),
            digits.drop power.length)
      else
        (scaled 0, after)
  | [] => (scaled 0, after)

/- The fraction that the next argument is, with its sign. -/
def fraction : Formatted (Bool × Text.Binary) := do
  match ← argument? with
  | none => return (false, .finite 0 0)
  | some given =>
      match given with
      | '\x27' :: rest =>
          return (false, .ofFraction (rest.headD nul).toNat 1)
      | '"' :: rest =>
          return (false, .ofFraction (rest.headD nul).toNat 1)
      | _ =>
          let (isNegative, digits) := takeSign given
          let lower := (digits.take 3).map Char.toLower
          if lower = "inf".toList then
            return (isNegative, .infinite)
          let ((n, d), after) := takeFraction digits
          let rest :=
            if after.length = digits.length then given
            else after
          let number := Text.Binary.ofFraction n d
          check given rest (number = .infinite)
          return (isNegative, number)

end Formatted

end Sh

end Posix

end LineShell

------------------------------------------------------------
-- Formats
------------------------------------------------------------

namespace LineShell

namespace Posix

namespace Sh

namespace Formatted

/- Complain about a format, and write what there is so far. -/
def complain
    (message : Text) : Formatted α := do
  let f ← get
  let failed : Act α := do
    setStatus 2
    warn message
    put f.output
    throw .failed
  failed

/- Put the next argument in place of a directive. -/
def convert
    (directive : Directive)
    (spelling : Text)
    (letter : Char) : Formatted Unit := do
  if letter = 'b' then
    let (text, early) := unescape ((← argument?).getD [])
    write (directive.text text)
    modify fun f => { f with isOver := early }
  else if letter = 's' then
    write (directive.text ((← argument?).getD []))
  else if letter = 'c' then
    let t := (← argument?).getD []
    write (directive.padded [t.headD nul])
  else if letter = 'd' || letter = 'i' then
    write (directive.decimal (← integer true))
  else if "ouxX".toList.contains letter then
    let n ← integer false
    write (directive.unsigned letter (n % Nat.pow 2 64).toNat)
  else if "eEfFgG".toList.contains letter then
    let (isNegative, number) ← fraction
    write (directive.fraction letter isNegative number)
  else
    complain (spelling ++ ": invalid directive")

/-
  A number in a directive, which an argument can give instead;
  the answer has what follows it.
-/
def measure
    (t : Text) : Formatted (Option Int × Text) := do
  match t with
  | '*' :: rest => return (some (← integer true), rest)
  | _ =>
      let digits := t.takeWhile Char.isDigit
      let rest := t.drop digits.length
      if digits.isEmpty then
        return (none, rest)
      else
        return (some (Text.numeralValue digits), rest)

/- One directive after its sign; the answer is what follows. -/
def directive
    (t : Text) : Formatted Text := do
  let flags := t.takeWhile ("#-+ 0".toList.contains ·)
  let (width, rest) ← measure (t.drop flags.length)
  let (precision, rest) : Option Int × Text ←
    match rest with
    | '.' :: rest => do
        let (precision, rest) ← measure rest
        pure (some (precision.getD 0), rest)
    | _ => pure (none, rest)
  match rest with
  | [] => complain "missing format character"
  | letter :: after =>
      let spelling := '%' :: t.take (t.length - after.length)
      let width := width.getD 0
      convert
        { flags := if width < 0 then '-' :: flags else flags
          width := width.natAbs
          precision := precision.bind fun n =>
            if n < 0 then none else some n.toNat }
        spelling letter
      return after

/-
  One pass over a format.  The first argument bounds the
  number of steps.
-/
def pass :
    Nat → Text → Formatted Unit
  | 0, _ => return
  | fuel + 1, t => do
      match t with
      | [] => return
      | '\\' :: rest =>
          let (c, after) := takeEscape rest
          write [c]
          pass fuel after
      | '%' :: '%' :: rest =>
          write ['%']
          pass fuel rest
      | '%' :: rest =>
          let after ← directive rest
          if !(← get).isOver then
            pass fuel after
      | c :: rest =>
          write [c]
          pass fuel rest

/-
  A format is used again while it takes arguments and some are
  left.  The first argument bounds the number of passes.
-/
def passes
    (template : Text) : Nat → Formatted Unit
  | 0 => return
  | fuel + 1 => do
      let before := (← get).args.length
      pass (template.length + 1) template
      let f ← get
      if !f.isOver && !f.args.isEmpty &&
          f.args.length ≠ before then
        passes template fuel

end Formatted

/- Write arguments put into a format. -/
def printf
    (args : List Text) : Act Nat := do
  let (_, args) ← readOptions [] args
  match args with
  | [] => fail "usage: printf format [arg ...]"
  | template :: args =>
      let (_, f) ←
        (Formatted.passes template (args.length + 1)).run
          { args := args }
      put f.output
      return f.status

end Sh

end Posix

end LineShell
