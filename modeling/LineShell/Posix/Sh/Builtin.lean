import LineShell.Posix.Sh.Condition
import LineShell.Posix.Sh.Control
import LineShell.Posix.Sh.Directory
import LineShell.Posix.Sh.Format
import LineShell.Posix.Sh.Invoke
import LineShell.Posix.Sh.Jobs
import LineShell.Posix.Sh.Reading
import LineShell.Posix.Sh.Redirection

/-
  The commands of the shell itself, by name.

  Main declarations:
    * `Posix.Sh.runNamed`
    * `Posix.Sh.runBuiltin`
-/

------------------------------------------------------------
-- Small Commands
------------------------------------------------------------

namespace LineShell

namespace Posix

namespace Sh

/- Describe a command. -/
def describeCommand
    (args : List Text) : Act Nat := do
  let (options, operands) ← readOptions "pvV" args
  let isVerbose := options.any (·.1 == 'V')
  let isBrief := options.any (·.1 == 'v')
  let searchPath :=
    if options.any (·.1 == 'p') then some standardSearchPath
    else none
  match operands with
  | name :: _ =>
      if isVerbose || isBrief then
        describeName isVerbose searchPath name
      else
        return 0
  | [] => return 0

/- Write how long processes took: no time at all. -/
def tellTimes : Act Nat := do
  put "0m0.000000s 0m0.000000s\n0m0.000000s 0m0.000000s\n"
  return 0

/- Write or set a limit: nothing is limited. -/
def limitResources
    (args : List Text) : Act Nat := do
  let (_, operands) ← readOptions "HSatfdscmlpnvwr" args
  match operands with
  | [] =>
      put "unlimited\n"
      return 0
  | [t] =>
      if Text.isNumeral t || t = "unlimited" then
        return 0
      else
        fail "bad number"
  | _ => fail "too many arguments"

end Sh

end Posix

end LineShell

------------------------------------------------------------
-- All Commands
------------------------------------------------------------

namespace LineShell

namespace Posix

namespace Sh

/- Run the command of a name; the answer is its status. -/
def runNamed
    (calls : Calls)
    (isTested : Bool)
    (name : Text)
    (args : List Text) : Act Nat :=
  match String.ofList name with
  | "." => sourceFile calls args
  | "[" => bracketTest args
  | "alias" => aliasNames args
  | "bg" => resumeJob args
  | "break" => leaveLoops .leavingLoops args
  | "cd" => changeDirectory args
  | "chdir" => changeDirectory args
  | "command" => describeCommand args
  | "continue" => leaveLoops .continuing args
  | "echo" => echo args
  | "eval" => evaluateText calls isTested args
  | "exec" => becomeCommand calls args
  | "exit" => leaveScript args
  | "export" =>
      declareVariables name (·.isExported) exportVariable args
  | "false" => return 1
  | "fg" => resumeJob args
  | "getopts" => readOption args
  | "hash" => locateCommands args
  | "jobs" => listJobs args
  | "kill" => sendSignals args
  | "local" => declareLocals args
  | "printf" => printf args
  | "pwd" => printDirectory args
  | "read" => readVariables args
  | "readonly" =>
      declareVariables name (·.isReadOnly) protectVariable args
  | "return" => returnFrom args
  | "set" => setOptions args
  | "shift" => shiftParameters args
  | "test" => test args
  | "times" => tellTimes
  | "trap" => setTraps args
  | "type" => describeNames true none args
  | "ulimit" => limitResources args
  | "umask" => setMask args
  | "unalias" => unaliasNames args
  | "unset" => unsetNames args
  | "wait" => waitFor args
  | _ => return 0

/- What a command leaves when it is over. -/
def leaveBuiltin
    (command : Option Text) : Act Unit :=
  modify fun s =>
    { s with command := command, outputFailed := false }

/-
  Run the command of a name; the answer is its status.  Only a
  special command that fails ends the script.
-/
def runBuiltin
    (calls : Calls)
    (isTested isLasting : Bool)
    (name : Text)
    (args : List Text) : Act Nat := do
  let command := (← get).command
  modify fun s =>
    { s with command := some name, outputFailed := false }
  match ← attempt (runNamed calls isTested name args) with
  | .ok status =>
      let hasFailed := (← get).outputFailed
      if hasFailed then
        warn (name ++ ": I/O error")
      leaveBuiltin command
      return if hasFailed then status ||| 1 else status
  | .error .failed =>
      leaveBuiltin command
      if isLasting then
        throw .failed
      else
        return (← get).status
  | .error stop =>
      leaveBuiltin command
      throw stop

end Sh

end Posix

end LineShell
