import LineShell.Posix.Process
import LineShell.Posix.Sh.Grammar

/-
  The state of a running script, and the elementary actions.

  A step can end the script; whatever ends it, the state up to
  there stays.

  Main declarations:
    * `Posix.Sh.Variable`
    * `Posix.Sh.State`
    * `Posix.Sh.Stop`
    * `Posix.Sh.Act`
    * `Posix.Sh.Calls`
-/

------------------------------------------------------------
-- State
------------------------------------------------------------

namespace LineShell

namespace Posix

namespace Sh

/- A variable; it can have properties without being set. -/
structure Variable where
  setting : Option Text := none
  isExported : Bool := false
  isReadOnly : Bool := false
  deriving DecidableEq, Repr

/-
  What the commands that follow are skipped up to: nothing,
  the end of loops, the next round of a loop, or the end of a
  function or script, which may be given a status.
-/
inductive Skipping where
  | none
  | leavingLoops (count : Nat)
  | continuing (count : Nat)
  | returning (isGiven : Bool)
  deriving DecidableEq, Repr

/-
  Where a command was found, and whether the script has gone
  to another directory since then.
-/
structure Location where
  path : Text
  isOld : Bool := false
  deriving DecidableEq, Repr

/-
  A process in the background: its place in the table, the
  number of the process and how many commands it was started
  for, how it ended, and whether it was waited for.
-/
structure Job where
  slot : Nat
  number : Nat
  size : Nat
  ending : Ending
  isWaited : Bool := false
  deriving DecidableEq, Repr

/-
  A running script: what all processes share and its own
  process, the number that it knows itself by, which parts of
  it that run as processes of their own have too, the name and
  the parameters, everything defined by commands, the options
  that are on, the last status, that before an action on a
  signal, and that of the last substitution, the line and name
  of the command, the lines up to which the script itself and
  the text that is run have been read, what is being skipped,
  how many loops and functions it is in, the variables to
  restore after each function, the actions on signals and the
  signals to act on, the working directory by the names that
  led there and by its path, the last background process and
  all of them, the latest first, where commands were found,
  how far the reading of options got, and whether writing
  failed.
-/
structure State where
  system : System
  process : Process
  number : Nat
  name : Text
  parameters : List Text := []
  settings : Table Variable := []
  functions : Table Command := []
  aliases : Table Text := []
  documents : List Word := []
  options : List Char := []
  status : Nat := 0
  savedStatus : Option Nat := none
  outputStatus : Nat := 0
  line : Nat := 0
  command : Option Text := none
  scriptLine : Nat := 1
  readLine : Nat := 1
  skipping : Skipping := .none
  loops : Nat := 0
  functionDepth : Nat := 0
  saved : List (Table (Option Variable)) := []
  traps : List (Nat × Text) := []
  pending : List Nat := []
  directory : Text := []
  physical : Text := []
  background : Option Nat := none
  jobs : List Job := []
  located : Table Location := []
  optionIndex : Nat := 1
  optionOffset : Option Nat := none
  outputFailed : Bool := false

/-
  Why a script does not go on: a command failed, it is over,
  or its process is no more.
-/
inductive Stop where
  | failed
  | finished
  | gone (ending : Ending)
  deriving DecidableEq, Repr

/- A step of a script. -/
abbrev Act :=
  ExceptT Stop (StateM State)

/-
  How a command is run: whether its status is tested, so that
  a failure is no reason to end, and whether it is the last of
  its process.
-/
structure Manner where
  isTested : Bool := false
  isLast : Bool := false
  deriving DecidableEq, Repr

/-
  What steps are made of that contain others: running a
  command, and running the program at a path.
-/
structure Calls where
  run : Command → Manner → Act Unit
  execute : Process → Text → System →
    Except Errno (Ending × System)

end Sh

end Posix

end LineShell

------------------------------------------------------------
-- Messages
------------------------------------------------------------

namespace LineShell

namespace Posix

namespace Sh

/- Change the processes' part of the state. -/
def onSystem
    (change : Process → System → System) : Act Unit :=
  modify fun s =>
    { s with system := change s.process s.system }

/- Set the last status. -/
def setStatus
    (status : Nat) : Act Unit :=
  modify fun s => { s with status := status }

/- Write to the standard error. -/
def tell
    (text : Text) : Act Unit :=
  onSystem fun p => p.say 2 text

/- Report what is wrong, with the name and line of a script. -/
def warn
    (message : Text) : Act Unit := do
  let s ← get
  let command : Text :=
    match s.command with
    | some command => command ++ ": "
    | none => []
  tell (s.name ++ ": " ++ Text.ofNat s.line ++ ": " ++
    command ++ message ++ "\n")

/- Report what is wrong, and fail. -/
def fail
    (message : Text)
    (status : Nat := 2) : Act α := do
  setStatus status
  warn message
  throw .failed

/- Report what is wrong with the text on a line, and fail. -/
def failOnLine
    (line : Nat)
    (message : Text) : Act α := do
  modify fun s => { s with line := line }
  fail ("Syntax error: ".toList ++ message)

/- Write to the standard output. -/
def put
    (text : Text) : Act Unit := do
  let s ← get
  if !text.isEmpty then
    match s.process.send 1 text s.system with
    | .ok system => set { s with system := system }
    | .error _ => set { s with outputFailed := true }

/- Whether an option is on. -/
def hasOption
    (letter : Char) : Act Bool := do
  return (← get).options.contains letter

end Sh

end Posix

end LineShell

------------------------------------------------------------
-- Variables
------------------------------------------------------------

namespace LineShell

namespace Posix

namespace Sh

/- What separates words where no variable says otherwise. -/
def standardSeparators : Text :=
  " \t\n"

namespace State

/- The variable of a name. -/
def entry?
    (s : State)
    (name : Text) : Option Variable :=
  Table.find? name s.settings

/- The value of a variable that is set. -/
def value?
    (s : State)
    (name : Text) : Option Text :=
  (s.entry? name).bind (·.setting)

/- What separates words, unless that is not set. -/
def separators
    (s : State) : Text :=
  (s.value? "IFS").getD standardSeparators

/- What stands between parameters that are joined. -/
def joint
    (s : State) : Text :=
  match s.value? "IFS" with
  | some separators => separators.take 1
  | none => [' ']

/- The variables that other programs see. -/
def exported
    (s : State) : Environment :=
  s.settings.filterMap fun (name, v) =>
    if v.isExported then
      v.setting.map (name, ·)
    else
      none

/- Replace a variable. -/
def setVariable
    (s : State)
    (name : Text)
    (v : Variable) : State :=
  { s with settings := Table.put name v s.settings }

end State

/-
  What the new value of a variable starts anew: the reading of
  options, or the search for commands.
-/
def restartFor
    (name value : Text) : Act Unit := do
  if name = "OPTIND" then
    if !Text.isNumeral value then
      fail ("Illegal number: " ++ value)
    let index := Text.numeralValue value
    modify fun s =>
      { s with optionIndex := max index 1, optionOffset := none }
  else if name = "PATH" then
    modify fun s => { s with located := [] }

/- Give a variable a value. -/
def assignVariable
    (name value : Text) : Act Unit := do
  let s ← get
  let v := (s.entry? name).getD {}
  if v.isReadOnly then
    fail (name ++ ": is read only")
  let isExported := v.isExported || s.options.contains 'a'
  set (s.setVariable name
    { v with setting := some value, isExported := isExported })
  restartFor name value

/- Let other programs see a variable. -/
def exportVariable
    (name : Text) : Act Unit :=
  modify fun s =>
    let v := (s.entry? name).getD {}
    s.setVariable name { v with isExported := true }

/- Keep a variable as it is. -/
def protectVariable
    (name : Text) : Act Unit :=
  modify fun s =>
    let v := (s.entry? name).getD {}
    s.setVariable name { v with isReadOnly := true }

/- Forget a variable. -/
def forgetVariable
    (name : Text) : Act Unit := do
  let s ← get
  if ((s.entry? name).getD {}).isReadOnly then
    fail (name ++ ": is read only")
  set { s with settings := Table.erase name s.settings }
  restartFor name []

end Sh

end Posix

end LineShell
