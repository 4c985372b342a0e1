import LineShell.Posix.Sh.Syntax
import LineShell.Text.Decimal

/-
  Reading a script character by character.

  A backslash before a line feed joins two lines, nearly
  everywhere.  Lines are counted as they are read.

  Main declarations:
    * `Posix.Sh.Reader`
    * `Posix.Sh.SyntaxFault`
    * `Posix.Sh.Parse`
    * `Posix.Sh.Reader.joined`
    * `Posix.Sh.Parse.next`
-/

------------------------------------------------------------
-- Readers
------------------------------------------------------------

namespace LineShell

namespace Posix

namespace Sh

/-
  A document that was announced: its number, whether tabs at
  the beginning of its lines are dropped, the line that ends
  it, and whether nothing in it is special.
-/
structure Announced where
  number : Nat
  dropsTabs : Bool
  ending : Text
  isQuoted : Bool

/-
  An alias whose replacement is being read: its name, how much
  is left to read after it, and whether the word after it may
  be an alias too.
-/
structure Replacement where
  name : Text
  left : Nat
  isOpen : Bool

/-
  What is left of a script, the number of its line, a token
  that was put back, what was left before the last token, the
  documents that are announced, those that were read, and the
  aliases with those in use.
-/
structure Reader where
  rest : Text
  line : Nat := 1
  putBack : Option Token := none
  fromToken : Text := []
  announced : List Announced := []
  documents : List Word := []
  aliases : Table Text := []
  replaced : List Replacement := []

/- What is wrong with a script, and on which line. -/
structure SyntaxFault where
  line : Nat
  message : Text
  deriving DecidableEq, Repr

/- Reading something from a script. -/
abbrev Parse :=
  ExceptT SyntaxFault (StateM Reader)

namespace Reader

/-
  A text without line joins at its start, and how many there
  were.
-/
def joinsOf :
    Text → Nat × Text
  | '\\' :: '\n' :: rest =>
      let (n, t) := joinsOf rest
      (n + 1, t)
  | t => (0, t)

/- The reader after line joins at its start. -/
def joined
    (r : Reader) : Reader :=
  let (n, t) := joinsOf r.rest
  { r with rest := t, line := r.line + n }

end Reader

end Sh

end Posix

end LineShell

------------------------------------------------------------
-- Characters
------------------------------------------------------------

namespace LineShell

namespace Posix

namespace Sh

namespace Parse

/- Give up reading. -/
def fail
    (message : Text) : Parse α := do
  throw ⟨(← get).line, message⟩

/- The next character, which is not taken. -/
def peek : Parse (Option Char) := do
  modify Reader.joined
  return (← get).rest.head?

/- Take one character as it stands. -/
def takeRaw : Parse (Option Char) := do
  let r ← get
  match r.rest with
  | [] => return none
  | c :: rest =>
      let line := if c = '\n' then r.line + 1 else r.line
      set { r with rest := rest, line := line }
      return some c

/- Take the next character. -/
def next : Parse (Option Char) := do
  modify Reader.joined
  takeRaw

/- Take the next character; it begins no new line. -/
def nextInLine : Parse (Option Char) := do
  modify Reader.joined
  let line := (← get).line
  let c ← takeRaw
  modify fun r => { r with line := line }
  return c

/- Take the next character if it is the given one. -/
def accept
    (c : Char) : Parse Bool := do
  if (← peek) = some c then
    let _ ← next
    return true
  else
    return false

/-
  How many steps reading the rest can take.  Each character
  may be that of an alias.
-/
def bound : Parse Nat := do
  let r ← get
  let most := r.aliases.foldl (fun n entry => n + entry.2.length)
    1
  return (r.rest.length + 1) * most

/-
  Take characters that satisfy a test, at most so many as the
  first argument says.
-/
def takeWhileWithin
    (test : Char → Bool) : Nat → Parse Text
  | 0 => return []
  | fuel + 1 => do
      match ← peek with
      | some c =>
          if test c then
            let _ ← next
            return c :: (← takeWhileWithin test fuel)
          else
            return []
      | none => return []

/- Take characters that satisfy a test. -/
def takeWhile
    (test : Char → Bool) : Parse Text := do
  takeWhileWithin test (← bound)

end Parse

end Sh

end Posix

end LineShell

------------------------------------------------------------
-- Blanks
------------------------------------------------------------

namespace LineShell

namespace Posix

namespace Sh

/-
  A text without blanks, line joins and a comment at its
  start, and how many lines were joined.
-/
def blanksOf :
    Text → Nat × Text
  | ' ' :: rest => blanksOf rest
  | '\t' :: rest => blanksOf rest
  | '\\' :: '\n' :: rest =>
      let (n, t) := blanksOf rest
      (n + 1, t)
  | '#' :: rest => (0, rest.dropWhile (· != '\n'))
  | t => (0, t)

namespace Parse

/- Take blanks, line joins and a comment. -/
def skipBlanks : Parse Unit :=
  modify fun r =>
    let (n, t) := blanksOf r.rest
    { r with rest := t, line := r.line + n }

/-
  Forget the aliases whose replacements were read up to the
  next word, and tell whether it may be an alias for that.  A
  token that was put back is no such word.
-/
def leaveAliases : Parse Bool := do
  let r ← get
  if r.putBack.isSome then
    return false
  let left := (blanksOf r.rest).2.length
  let (ended, still) := r.replaced.partition (left ≤ ·.left)
  set { r with replaced := still }
  return ended.any (·.isOpen)

end Parse

end Sh

end Posix

end LineShell
