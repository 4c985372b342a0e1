import LineShell.Text.Basic

/-
  Command lines: one line feed may end a line, and every
  single space separates two words.  There is no quoting, so
  neighbouring spaces leave empty words between them.

  Main declarations:
    * `stripTerminator`
    * `splitWords`
    * `CommandLine`
    * `CommandLine.parse?`
    * `CommandLine.words`
    * `CommandLine.render`
-/

------------------------------------------------------------
-- Lines
------------------------------------------------------------

namespace LineShell

/- The line without the one line feed that may end it. -/
def stripTerminator
    (line : Text) : Text :=
  if Text.endsWith '\n' line then
    line.dropLast
  else
    line

/- The words of a text; the empty text has none. -/
def splitWords
    (t : Text) : List Text :=
  if t.isEmpty then
    []
  else
    t.splitOn ' '

end LineShell

------------------------------------------------------------
-- Command Lines
------------------------------------------------------------

namespace LineShell

/- A command name and its arguments. -/
structure CommandLine where
  name : Text
  args : List Text
  deriving DecidableEq, Repr

namespace CommandLine

/- The name followed by the arguments. -/
def words
    (command : CommandLine) : List Text :=
  command.name :: command.args

/- The command as one line without a terminator. -/
def render
    (command : CommandLine) : Text :=
  Text.unwords command.words

/- A command line from its words. -/
def ofWords? :
    List Text → Option CommandLine
  | [] => none
  | name :: args => some ⟨name, args⟩

/- Read one raw line; an empty line holds no command. -/
def parse?
    (line : Text) : Option CommandLine :=
  ofWords? (splitWords (stripTerminator line))

end CommandLine

end LineShell
