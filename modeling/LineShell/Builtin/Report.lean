import LineShell.World

/-
  How builtins report what is wrong.

  Main declarations:
    * `Report.error`
    * `Report.requireArgs`
    * `Report.directory`
-/

------------------------------------------------------------
-- Reports
------------------------------------------------------------

namespace LineShell

namespace Report

variable {φ δ : Type}

/- A message on standard error, after the command's name. -/
def error
    (name message : Text) : Action (World φ δ) Unit :=
  World.write .err (name ++ ": " ++ message ++ "\n")

/- A message on standard error as it is. -/
def bareError
    (message : Text) : Action (World φ δ) Unit :=
  World.write .err (message ++ "\n")

/-
  Whether a command got enough arguments.  If not, that is
  reported, with the usage unless it is empty.
-/
def requireArgs
    (name : Text)
    (args : List Text)
    (least : Int)
    (usage : Text) : Action (World φ δ) Bool := do
  if least ≤ args.length then
    return true
  error name "missing operand"
  if !usage.isEmpty then
    World.write .err ("usage: " ++ usage ++ "\n")
  return false

/-
  Any failure to enter a directory is reported alike, on
  standard output.
-/
def directory
    (name : Text)
    (path : Path) : Action (World φ δ) Int := do
  World.write .out
    (name ++ ": " ++ path ++ ": No such file or directory\n")
  return 1

end Report

end LineShell
