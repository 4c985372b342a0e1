import LineShell.Text.Basic

/-
  Texts as the host stores them, octet by octet.

  A text of octets has one character below 256 for each byte
  of the UTF-8 encoding of a text.

  Main declarations:
    * `Text.octetsOf`
    * `Text.octets`
    * `Text.ofOctets`
-/

------------------------------------------------------------
-- Encoding
------------------------------------------------------------

namespace LineShell

namespace Text

/- The last six of some bits, as an octet that continues. -/
def continuation
    (bits : Nat) : Char :=
  Char.ofNat (0x80 + bits % 0x40)

/- The octets of a character. -/
def octetsOf
    (c : Char) : Text :=
  let n := c.toNat
  if n < 0x80 then
    [c]
  else if n < 0x800 then
    [Char.ofNat (0xC0 + n / 0x40), continuation n]
  else if n < 0x10000 then
    [Char.ofNat (0xE0 + n / 0x1000),
      continuation (n / 0x40), continuation n]
  else
    [Char.ofNat (0xF0 + n / 0x40000),
      continuation (n / 0x1000), continuation (n / 0x40),
      continuation n]

/- The octets of a text. -/
def octets
    (t : Text) : Text :=
  t.flatMap octetsOf

end Text

end LineShell

------------------------------------------------------------
-- Decoding
------------------------------------------------------------

namespace LineShell

namespace Text

/- The character that stands for octets that encode nothing. -/
def replacement : Char :=
  Char.ofNat 0xFFFD

/-
  What an octet begins: how many octets have to follow, and
  the bits that it gives.
-/
def lead?
    (n : Nat) : Option (Nat × Nat) :=
  if n < 0x80 then
    some (0, n)
  else if n < 0xC0 then
    none
  else if n < 0xE0 then
    some (1, n - 0xC0)
  else if n < 0xF0 then
    some (2, n - 0xE0)
  else if n < 0xF8 then
    some (3, n - 0xF0)
  else
    none

/-
  The text that octets encode, where some are still owed to a
  character of which some bits are known.
-/
def decodeFrom
    (owed bits : Nat) : Text → Text
  | [] => if owed = 0 then [] else [replacement]
  | c :: rest =>
      let n := c.toNat
      if owed = 0 then
        match lead? n with
        | none => replacement :: decodeFrom 0 0 rest
        | some (0, bits) =>
            Char.ofNat bits :: decodeFrom 0 0 rest
        | some (owed, bits) => decodeFrom owed bits rest
      else if n / 0x40 = 2 then
        let bits := bits * 0x40 + n % 0x40
        if owed = 1 then
          Char.ofNat bits :: decodeFrom 0 0 rest
        else
          decodeFrom (owed - 1) bits rest
      else
        match lead? n with
        | none =>
            replacement :: replacement :: decodeFrom 0 0 rest
        | some (0, bits) =>
            replacement :: Char.ofNat bits ::
              decodeFrom 0 0 rest
        | some (owed, bits) =>
            replacement :: decodeFrom owed bits rest

/- The text that octets encode. -/
def ofOctets
    (t : Text) : Text :=
  decodeFrom 0 0 t

end Text

end LineShell
