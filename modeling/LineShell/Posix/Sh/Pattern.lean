import LineShell.Text.Basic

/-
  Patterns that texts are compared with.

  A star stands for any text, a question mark for one
  character, and brackets for one of several; quoted
  characters stand for themselves.

  Main declarations:
    * `Posix.Sh.Glyph`
    * `Posix.Sh.Pattern`
    * `Posix.Sh.Pattern.fits`
    * `Posix.Sh.Pattern.withoutStart`
    * `Posix.Sh.Pattern.withoutEnd`
-/

------------------------------------------------------------
-- Glyphs
------------------------------------------------------------

namespace LineShell

namespace Posix

namespace Sh

/- A character of a pattern; a quoted one means itself. -/
structure Glyph where
  isQuoted : Bool
  char : Char
  deriving DecidableEq, Repr

/- A pattern. -/
abbrev Pattern :=
  List Glyph

namespace Pattern

/- The text that a pattern is made of. -/
def text
    (pattern : Pattern) : Text :=
  pattern.map (·.char)

/-
  A pattern in which backslashes that mean something are gone,
  and what follows them means itself.
-/
def settled :
    Pattern → Pattern
  | ⟨false, '\\'⟩ :: glyph :: rest =>
      ⟨true, glyph.char⟩ :: settled rest
  | glyph :: rest => glyph :: settled rest
  | [] => []

end Pattern

end Sh

end Posix

end LineShell

------------------------------------------------------------
-- Classes
------------------------------------------------------------

namespace LineShell

namespace Posix

namespace Sh

namespace Pattern

/- The classes of characters that have names. -/
def classOf? :
    String → Option (Char → Bool)
  | "alnum" => some Char.isAlphanum
  | "alpha" => some Char.isAlpha
  | "blank" => some fun c => c == ' ' || c == '\t'
  | "cntrl" => some fun c => c.toNat < 32 || c.toNat == 127
  | "digit" => some Char.isDigit
  | "graph" => some fun c => 32 < c.toNat && c.toNat < 127
  | "lower" => some Char.isLower
  | "print" => some fun c => 32 ≤ c.toNat && c.toNat < 127
  | "punct" => some fun c =>
      32 < c.toNat && c.toNat < 127 && !c.isAlphanum
  | "space" => some fun c =>
      c == ' ' || (9 ≤ c.toNat && c.toNat ≤ 13)
  | "upper" => some Char.isUpper
  | "xdigit" => some fun c =>
      c.isDigit || ('a' ≤ c && c ≤ 'f') ||
        ('A' ≤ c && c ≤ 'F')
  | _ => none

/-
  The class that a pattern begins with after its brackets were
  opened, and what follows it.
-/
def takeClass?
    (pattern : Pattern) : Option ((Char → Bool) × Pattern) :=
  match pattern with
  | ⟨false, '['⟩ :: ⟨false, ':'⟩ :: rest =>
      let name := (text rest).takeWhile Char.isAlpha
      match rest.drop name.length with
      | ⟨_, ':'⟩ :: ⟨_, ']'⟩ :: after =>
          (classOf? (String.ofList name)).map (·, after)
      | _ => none
  | _ => none

/-
  Whether a character is one of those up to the bracket that
  closes them, and what follows it.  Nothing comes of brackets
  that are not closed.
-/
def oneOf
    (c : Char) : Nat → Bool → Pattern → Option (Bool × Pattern)
  | 0, _, _ => none
  | fuel + 1, isFirst, pattern =>
      match takeClass? pattern with
      | some (test, rest) => do
          let (found, after) ← oneOf c fuel false rest
          return (test c || found, after)
      | none =>
          match pattern with
          | [] => none
          | low :: rest =>
              if low = ⟨false, ']'⟩ && !isFirst then
                some (false, rest)
              else
                match rest with
                | ⟨false, '-'⟩ :: high :: after =>
                    if high = ⟨false, ']'⟩ then do
                      let (found, after) ← oneOf c fuel false rest
                      return (c == low.char || found, after)
                    else do
                      let (found, after) ←
                        oneOf c fuel false after
                      return ((low.char ≤ c && c ≤ high.char) ||
                        found, after)
                | _ => do
                    let (found, after) ← oneOf c fuel false rest
                    return (c == low.char || found, after)

/-
  Whether a character fits the brackets that were opened, and
  what follows them.
-/
def bracket?
    (c : Char)
    (pattern : Pattern) : Option (Bool × Pattern) :=
  let fuel := pattern.length + 1
  match pattern with
  | ⟨false, '!'⟩ :: rest =>
      (oneOf c fuel true rest).map fun (found, after) =>
        (!found, after)
  | _ => oneOf c fuel true pattern

end Pattern

end Sh

end Posix

end LineShell

------------------------------------------------------------
-- Fitting
------------------------------------------------------------

namespace LineShell

namespace Posix

namespace Sh

namespace Pattern

/-
  Whether a text fits a pattern.  The first argument bounds
  the number of steps.
-/
def fitsWithin :
    Nat → Pattern → Text → Bool
  | 0, _, _ => false
  | _, [], t => t.isEmpty
  | fuel + 1, ⟨false, '*'⟩ :: rest, t =>
      fitsWithin fuel rest t ||
        match t with
        | [] => false
        | _ :: later =>
            fitsWithin fuel (⟨false, '*'⟩ :: rest) later
  | _, _ :: _, [] => false
  | fuel + 1, ⟨false, '?'⟩ :: rest, _ :: later =>
      fitsWithin fuel rest later
  | fuel + 1, ⟨false, '['⟩ :: rest, c :: later =>
      match bracket? c rest with
      | some (found, after) =>
          found && fitsWithin fuel after later
      | none => c == '[' && fitsWithin fuel rest later
  | fuel + 1, glyph :: rest, c :: later =>
      c == glyph.char && fitsWithin fuel rest later

/- Whether a text fits a pattern. -/
def fits
    (pattern : Pattern)
    (t : Text) : Bool :=
  let settled := pattern.settled
  fitsWithin (settled.length + t.length + 1) settled t

/- Whether something in a pattern does not mean itself. -/
def isActive
    (pattern : Pattern) : Bool :=
  pattern.settled.any fun glyph =>
    !glyph.isQuoted && "*?[".toList.contains glyph.char

/- The first length in a list such that a part of it fits. -/
def firstFitting
    (pattern : Pattern)
    (part : Nat → Text)
    (lengths : List Nat) : Option Nat :=
  lengths.find? fun n => pattern.fits (part n)

/- What a text holds before its first nul. -/
def untilNul
    (t : Text) : Text :=
  t.takeWhile (· != nul)

/- The lengths up to that of a text, in the order of trial. -/
def trialLengths
    (longestFirst : Bool)
    (t : Text) : List Nat :=
  if longestFirst then
    (List.range (t.length + 1)).reverse
  else
    List.range ((untilNul t).length + 1)

/-
  A text without a start that fits, as short as possible or as
  long as possible.  A part that is compared ends at its nul.
-/
def withoutStart
    (pattern : Pattern)
    (longest : Bool)
    (t : Text) : Text :=
  let lengths := trialLengths longest t
  match pattern.firstFitting (untilNul <| t.take ·) lengths with
  | some n => t.drop n
  | none => t

/-
  A text without an end that fits, as short as possible or as
  long as possible.  A part that is compared ends at its nul.
-/
def withoutEnd
    (pattern : Pattern)
    (longest : Bool)
    (t : Text) : Text :=
  let lengths := trialLengths (!longest) t
  match pattern.firstFitting (untilNul <| t.drop ·) lengths with
  | some n => t.take n
  | none => t

end Pattern

end Sh

end Posix

end LineShell
