import LineShell.Posix.Sh.Pattern
import LineShell.Posix.Sh.State

/-
  Cutting what words expand to into fields.

  Only what comes from unquoted parameters and substitutions
  is cut, at the separators that the script has set.  White
  space among them counts once however long it is, and not at
  all at the beginning.

  Main declarations:
    * `Posix.Sh.Atom`
    * `Posix.Sh.Separators`
    * `Posix.Sh.fields`
-/

------------------------------------------------------------
-- Atoms
------------------------------------------------------------

namespace LineShell

namespace Posix

namespace Sh

/-
  What a word expands to: a character of the word, a character
  at which it may be cut, the end of what was put in for one
  parameter or substitution or for all parameters one by one,
  a mark that there is a field though it may be empty, and a
  cut between two fields.
-/
inductive Atom where
  | keep (glyph : Glyph)
  | loose (c : Char)
  | edge (ofAll : Bool)
  | mark
  | cut
  deriving DecidableEq, Repr

namespace Atom

/- Atoms that mean themselves and are not cut. -/
def quoted
    (t : Text) : List Atom :=
  t.map fun c => keep ⟨true, c⟩

/- Atoms of something that was put in and may be cut. -/
def putIn
    (t : Text) : List Atom :=
  t.map loose ++ [edge false]

/- The glyph of an atom that is one. -/
def glyph? :
    Atom → Option Glyph
  | keep glyph => some glyph
  | loose c => some ⟨false, c⟩
  | _ => none

end Atom

/- The pattern that atoms make when they are not cut. -/
def patternOf
    (atoms : List Atom) : Pattern :=
  atoms.filterMap Atom.glyph?

/- The text that atoms make when they are not cut. -/
def textOf
    (atoms : List Atom) : Text :=
  (patternOf atoms).text

end Sh

end Posix

end LineShell

------------------------------------------------------------
-- Cutting
------------------------------------------------------------

namespace LineShell

namespace Posix

namespace Sh

/- The characters at which fields are cut. -/
structure Separators where
  all : Text

namespace Separators

/- Whether a character is white space that separates. -/
def isSpace
    (separators : Separators)
    (c : Char) : Bool :=
  c == nul ||
    (separators.all.contains c && standardSeparators.contains c)

/- Whether a character separates, and is not white space. -/
def isMark
    (separators : Separators)
    (c : Char) : Bool :=
  separators.all.contains c && !separators.isSpace c

/- Whether a character separates. -/
def includes
    (separators : Separators)
    (c : Char) : Bool :=
  separators.isSpace c || separators.isMark c

end Separators

/-
  What came before the next atom: nothing or a field that is
  being read, or separators, of which one may still come that
  is not white space.
-/
inductive Before where
  | field (glyphs : Option Pattern)
  | separators (mayMark : Bool)

namespace Before

/- The field that is being read, if there is one. -/
def reading :
    Before → Option Pattern
  | field glyphs => glyphs
  | separators _ => none

end Before

/-
  The fields that atoms make, given what came before, and
  whether parameters were put in one by one right before.
  After these every separator ends a field.
-/
def fieldsFrom
    (separators : Separators)
    (isAfterAll : Bool)
    (before : Before) : List Atom → List Pattern
  | [] => before.reading.toList
  | .keep glyph :: rest =>
      let field := before.reading.getD [] ++ [glyph]
      fieldsFrom separators isAfterAll (.field (some field))
        rest
  | .mark :: rest =>
      fieldsFrom separators isAfterAll
        (.field (some (before.reading.getD []))) rest
  | .cut :: rest =>
      before.reading.toList ++
        fieldsFrom separators isAfterAll (.field none) rest
  | .edge isAfterAll :: rest =>
      fieldsFrom separators isAfterAll (.field before.reading)
        rest
  | .loose c :: rest =>
      if isAfterAll && separators.includes c then
        before.reading.getD [] ::
          fieldsFrom separators isAfterAll (.field none) rest
      else if separators.isSpace c then
        match before with
        | .field none =>
            fieldsFrom separators isAfterAll (.field none) rest
        | .field (some field) =>
            field ::
              fieldsFrom separators isAfterAll
                (.separators true) rest
        | .separators mayMark =>
            fieldsFrom separators isAfterAll
              (.separators mayMark) rest
      else if separators.isMark c then
        match before with
        | .separators true =>
            fieldsFrom separators isAfterAll
              (.separators false) rest
        | _ =>
            before.reading.getD [] ::
              fieldsFrom separators isAfterAll
                (.separators false) rest
      else
        let field := before.reading.getD [] ++ [⟨false, c⟩]
        fieldsFrom separators isAfterAll (.field (some field))
          rest

/- The fields that atoms make. -/
def fields
    (separators : Separators)
    (atoms : List Atom) : List Pattern :=
  fieldsFrom separators false (.field none) atoms

end Sh

end Posix

end LineShell
