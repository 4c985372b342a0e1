import LineShell.Text.Basic
import LineShell.Text.Printable

/-
  Quoted texts, as log records and error messages show them.

  A text stands between single quotes, or between double
  quotes if it holds a single quote and no double quote.
  The quote in use and the backslash are escaped, and so is
  every character that is not printable.

  Main declarations:
    * `Text.hexDigits`
    * `Text.octalDigits`
    * `Text.escapeChar`
    * `Text.quoted`
    * `Text.quotedList`
-/

------------------------------------------------------------
-- Escapes
------------------------------------------------------------

namespace LineShell

namespace Text

/- The lower-case hexadecimal digit of a number below 16. -/
def hexDigit
    (n : Nat) : Char :=
  if n < 10 then
    Char.ofNat (n + '0'.toNat)
  else
    Char.ofNat (n - 10 + 'a'.toNat)

/- The last `width` hexadecimal digits of a number. -/
def hexDigits :
    Nat → Nat → Text
  | 0, _ => []
  | width + 1, n =>
      hexDigits width (n / 16) ++ [hexDigit (n % 16)]

/- The last `width` octal digits of a number. -/
def octalDigits :
    Nat → Nat → Text
  | 0, _ => []
  | width + 1, n =>
      octalDigits width (n / 8) ++ [hexDigit (n % 8)]

/- The shortest numeric escape that can hold the character. -/
def numericEscape
    (c : Char) : Text :=
  if c.toNat ≤ 0xFF then
    "\\x" ++ hexDigits 2 c.toNat
  else if c.toNat ≤ 0xFFFF then
    "\\u" ++ hexDigits 4 c.toNat
  else
    "\\U" ++ hexDigits 8 c.toNat

/- One character as it stands between quotes. -/
def escapeChar
    (quote c : Char) : Text :=
  if c = quote ∨ c = '\\' then
    ['\\', c]
  else if c = '\n' then
    "\\n"
  else if c = '\r' then
    "\\r"
  else if c = '\t' then
    "\\t"
  else if isPrintable c then
    [c]
  else
    numericEscape c

end Text

end LineShell

------------------------------------------------------------
-- Quoted Texts
------------------------------------------------------------

namespace LineShell

namespace Text

/- The quote that a text is written with. -/
def quoteMark
    (t : Text) : Char :=
  if t.contains '\x27' && !t.contains '"' then
    '"'
  else
    '\x27'

/- A text between quotes. -/
def quoted
    (t : Text) : Text :=
  let quote := quoteMark t
  quote :: t.flatMap (escapeChar quote) ++ [quote]

/- A list of quoted texts between brackets. -/
def quotedList
    (items : List Text) : Text :=
  "[" ++ commaSeparated (items.map quoted) ++ "]"

end Text

end LineShell
