import LineShell.Builtin.Report
import LineShell.ExitStatus
import LineShell.Search

/-
  What each builtin does, given the name it was called by and
  its arguments.

  Main declarations:
    * `Builtin.changeDirectoryTo`
    * `Builtin.echoWords`
    * `Builtin.exitWith`
    * `Builtin.describeName`
    * `Builtin.run`
-/

------------------------------------------------------------
-- Changing the Directory
------------------------------------------------------------

namespace LineShell

namespace Builtin

variable {φ δ : Type}

/-
  The directory to go to: the first argument with its tilde
  expanded, or the home directory.
-/
def target?
    (environment : Environment) : List Text → Option Path
  | [] => environment.home
  | path :: _ => Path.expandHome environment.home path

/- Go to a directory; a refusal by the host is reported. -/
def enter
    (M : Machine φ δ)
    (name : Text)
    (path : Path) : Action (World φ δ) Int := do
  match ← Action.attempt (World.enterDirectory M path) with
  | .ok _ => return 0
  | .error fault =>
      if fault.isHost then
        World.log .directory
          ("chdir " ++ path ++ " failed: " ++ fault.message)
        Report.directory name path
      else
        Action.raise fault

/- Change the working directory. -/
def changeDirectoryTo
    (M : Machine φ δ)
    (name : Text)
    (args : List Text) : Action (World φ δ) Int := do
  match target? (← Action.get).environment args with
  | none =>
      World.write .out "cd: HOME not set\n"
      return 1
  | some path => enter M name path

/- Print the working directory; without one the shell ends. -/
def printWorkingDirectory
    (M : Machine φ δ) : Action (World φ δ) Int := do
  match ← Action.attempt (World.workingDirectory M) with
  | .ok path =>
      World.write .out (path ++ "\n")
      return 0
  | .error fault =>
      if fault.isSystem then
        Action.raise <|
          .fatal
            ("pwd: cannot get current directory: " ++
              fault.message)
            1
      else
        Action.raise fault

end Builtin

end LineShell

------------------------------------------------------------
-- Printing
------------------------------------------------------------

namespace LineShell

namespace Builtin

variable {φ δ : Type}

/- Every word with a space after it, then a line feed. -/
def echoWords :
    List Text → Action (World φ δ) Int
  | [] => do
      World.write .out "\n"
      return 0
  | word :: words => do
      World.write .out (word ++ " ")
      echoWords words

/- A greeting. -/
def greeting : Action (World φ δ) Int := do
  World.write .out "Hello, World!\n"
  return 0

end Builtin

end LineShell

------------------------------------------------------------
-- Leaving
------------------------------------------------------------

namespace LineShell

namespace Builtin

variable {φ δ : Type}

/-
  Ask to end the shell.  An argument that is no status is
  reported and the shell goes on.
-/
def exitWith
    (name : Text) : List Text → Action (World φ δ) Int
  | [] => Action.raise (.exit 0)
  | argument :: _ =>
      match ExitStatus.parse name argument with
      | .ok code => Action.raise (.exit code)
      | .error (.badArgument command given detail) => do
          Report.bareError
            (Fault.badArgument command given detail).message
          return 2
      | .error fault => Action.raise fault

end Builtin

end LineShell

------------------------------------------------------------
-- Describing a Name
------------------------------------------------------------

namespace LineShell

namespace Builtin

variable {φ δ : Type}

/- The executable of a name, in the current state. -/
def findExecutable
    (M : Machine φ δ)
    (name : Text) : Action (World φ δ) (Option Path) :=
  Action.inquire fun w =>
    Search.find M.files w.environment w.files name

/- Say how a name would be run. -/
def describeName
    (M : Machine φ δ)
    (name : Text) : Action (World φ δ) Int := do
  if (← Action.get).builtins.holds name then
    World.write .out (name ++ " is a shell builtin\n")
    return 0
  match ← findExecutable M name with
  | none =>
      World.write .out (name ++ ": not found\n")
      return 1
  | some path =>
      World.write .out (name ++ " is " ++ path ++ "\n")
      return 0

/- Say how the first argument would be run. -/
def describeFirst
    (M : Machine φ δ)
    (name : Text)
    (args : List Text) : Action (World φ δ) Int := do
  if ← Report.requireArgs name args 1 "type name" then
    describeName M (args.headD [])
  else
    return 1

end Builtin

end LineShell

------------------------------------------------------------
-- Running a Builtin
------------------------------------------------------------

namespace LineShell

namespace Script

variable {φ δ : Type}

/- Write texts in order, each to its stream. -/
def say :
    List (Channel × Text) → Action (World φ δ) Unit
  | [] => pure ()
  | (channel, text) :: writes => do
      World.write channel text
      say writes

/- Write, then return or fail. -/
def run
    (script : Script) : Action (World φ δ) Int := do
  say script.writes
  Action.ofExcept script.ending

end Script

namespace Builtin

variable {φ δ : Type}

/- Run a builtin under a name, with its arguments. -/
def run
    (M : Machine φ δ)
    (builtin : Builtin)
    (name : Text)
    (args : List Text) : Action (World φ δ) Int :=
  match builtin with
  | changeDirectory => changeDirectoryTo M name args
  | echo => echoWords args
  | exit => exitWith name args
  | greet => greeting
  | printDirectory => printWorkingDirectory M
  | describe => describeFirst M name args
  | added script => (script name args).run

end Builtin

end LineShell
