import LineShell.Errno

/-
  The first line of a script, which names the program that
  interprets it.

  Only so many octets of a file are looked at.  The line may
  be longer than that if the name is whole; what follows the
  name is then cut off.

  Main declarations:
    * `Posix.interpreterIn`
    * `Posix.interpreter?`
-/

------------------------------------------------------------
-- Lines
------------------------------------------------------------

namespace LineShell

namespace Posix

/- Whether a character separates words in a first line. -/
def isBlank
    (c : Char) : Bool :=
  c == ' ' || c == '\t'

/- A line without blanks at its ends. -/
def withoutBlanks
    (line : Text) : Text :=
  ((line.reverse.dropWhile isBlank).reverse).dropWhile isBlank

/-
  The interpreter that a line names, and the one argument that
  the line may give it.  Each of them ends at a NUL.
-/
def interpreterIn
    (line : Text) : Option (Text × Option Text) :=
  let words := withoutBlanks line
  let name := words.takeWhile fun c =>
    !isBlank c && c != nul
  let rest := words.drop name.length
  if words.isEmpty then
    none
  else if (rest.head?).any isBlank then
    let argument := rest.dropWhile isBlank
    some (name, some (argument.takeWhile (· != nul)))
  else
    some (name, none)

end Posix

end LineShell

------------------------------------------------------------
-- Files
------------------------------------------------------------

namespace LineShell

namespace Posix

/- How many octets of a file are looked at. -/
def openingLength : Nat :=
  256

/- The octets that are looked at; nothing stands as NULs. -/
def opening
    (octets : Text) : Text :=
  (octets ++ List.replicate openingLength nul).take
    openingLength

/-
  The interpreter that a file names, and the one argument that
  it may give it.  A line that does not end within the opening
  has to end the name there, and lacks the last octet.
-/
def interpreter?
    (octets : Text) : Option (Text × Option Text) :=
  match opening octets with
  | '#' :: '!' :: rest =>
      let line := rest.takeWhile fun c =>
        c != '\n' && c != nul
      if rest[line.length]? = some '\n' then
        interpreterIn line
      else
        let isWhole :=
          (rest.dropWhile isBlank).any fun c =>
            isBlank c || c == nul
        if isWhole then
          interpreterIn rest.dropLast
        else
          none
  | _ => none

end Posix

end LineShell
