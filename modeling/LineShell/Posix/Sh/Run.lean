import LineShell.Posix.Sh.Call

/-
  Running commands.

  Every command of a pipeline runs as a process of its own,
  one after the other, and so do commands in the background,
  which are over before the script goes on.

  Main declarations:
    * `Posix.Sh.runCommand`
    * `Posix.Sh.runWithin`
-/

------------------------------------------------------------
-- Conditions and Loops
------------------------------------------------------------

namespace LineShell

namespace Posix

namespace Sh

/- Note the line that a command begins on. -/
def noteLine
    (line : Nat) : Act Unit :=
  modify fun s => { s with line := line }

/- Whether nothing is being skipped. -/
def goesOn : Act Bool := do
  return (← get).skipping = .none

/- Run a command; the answer is its status. -/
def statusAfter
    (calls : Calls)
    (manner : Manner)
    (command : Command) : Act Nat := do
  calls.run command manner
  return (← get).status

/- Run a command within a loop. -/
def inLoop
    (body : Act α) : Act α := do
  modify fun s => { s with loops := s.loops + 1 }
  let result ← body
  modify fun s => { s with loops := s.loops - 1 }
  return result

/-
  Run a body while or until a test succeeds; the answer is the
  status of the last round.  A number bounds the rounds.
-/
def loopWithin
    (calls : Calls)
    (manner : Manner)
    (untilTrue : Bool)
    (test body : Command) : Nat → Nat → Act Nat
  | 0, status => return status
  | fuel + 1, status => do
      let tested ← statusAfter calls { isTested := true } test
      let skipping := (← get).skipping
      match ← afterRound with
      | .leave =>
          return if skipping matches .returning _ then tested
            else status
      | .nextRound =>
          loopWithin calls manner untilTrue test body fuel status
      | .goOn =>
          if (tested = 0) = untilTrue then
            return status
          else
            let status ← statusAfter calls manner body
            match ← afterRound with
            | .leave => return status
            | _ =>
                loopWithin calls manner untilTrue test body fuel
                  status

/- Run a body for each of some values of a variable. -/
def eachOf
    (calls : Calls)
    (manner : Manner)
    (name : Text)
    (body : Command) : Nat → List Text → Act Nat
  | status, [] => return status
  | _, value :: values => do
      assignVariable name value
      let status ← statusAfter calls manner body
      match ← afterRound with
      | .leave => return status
      | _ => eachOf calls manner name body status values

/- Whether a text fits one of several patterns. -/
def fitsAny
    (calls : Calls)
    (text : Text) : List Word → Act Bool
  | [] => return false
  | word :: words => do
      if (← expandToPattern calls word).fits text then
        return true
      else
        fitsAny calls text words

/- Run the first of several cases that a text fits. -/
def firstCase
    (calls : Calls)
    (manner : Manner)
    (text : Text) :
    List (List Word × Option Command) → Act Nat
  | [] => return 0
  | (patterns, body) :: cases => do
      if ← fitsAny calls text patterns then
        match body with
        | some body => statusAfter calls manner body
        | none => return 0
      else
        firstCase calls manner text cases

end Sh

end Posix

end LineShell

------------------------------------------------------------
-- Processes
------------------------------------------------------------

namespace LineShell

namespace Posix

namespace Sh

/- What a process of its own does: one command, and no more. -/
def bodyOf
    (calls : Calls)
    (isTested : Bool)
    (command : Command) : Act Unit :=
  calls.run command { isTested := isTested, isLast := true }

/- Let a process be one in the background. -/
def detached
    (body : Act Unit) : Act Unit := do
  let s ← get
  let (id, system) := s.system.adopt
    { target := .nothing, reads := true, writes := false }
  let process := s.process.setDescriptor 0 (some id)
  set { s with
    system := system
    process :=
      { process with ignored := 2 :: 3 :: process.ignored } }
  body

/- Run some commands as a process in the background. -/
def inBackground
    (calls : Calls)
    (size : Nat)
    (body : Act Unit) : Act Nat := do
  let number := (← get).system.lastProcess + 1
  let ending ← inSubshell calls body
  modify fun s =>
    { s with
      background := some number
      jobs :=
        ⟨s.freeSlot, number, size, ending, false⟩ :: s.jobs }
  return 0

/-
  Remember where the command of a pipeline is, as far as its
  name needs no expansion.
-/
def locateBefore : Command → Act Unit
  | .simple _ _ (word :: _) _ => do
      let name := word.bare?.getD []
      if isName name then
        let s ← get
        noteLocation name (find s name s.searchPath)
  | _ => return

/-
  Run the commands of a pipeline, given the open file that the
  first one reads; the answer says how each one ended.
-/
def pipelineFrom
    (calls : Calls)
    (isTested : Bool)
    (input : Option Nat) :
    List Command → Act (List Ending)
  | [] => return []
  | command :: commands => do
      locateBefore command
      let s ← get
      let (pipe, system) := s.system.adopt
        { target := .waiting [], reads := true, writes := true }
      let output :=
        if commands.isEmpty then s.process.opened? 1
        else some pipe
      if !commands.isEmpty then
        set { s with system := system }
      let ending ← inSubshell calls do
        modify fun s =>
          let reading :=
            match input with
            | some id => s.process.setDescriptor 0 (some id)
            | none => s.process
          { s with process := reading.setDescriptor 1 output }
        bodyOf calls isTested command
      let later ←
        pipelineFrom calls isTested (some pipe) commands
      return ending :: later

/- Run a pipeline; its status is that of the last command. -/
def runPipeline
    (calls : Calls)
    (isTested : Bool)
    (commands : List Command) : Act Nat := do
  let endings ← pipelineFrom calls isTested none commands
  let statuses ← endings.mapM awaited
  return statuses.getLast?.getD 0

end Sh

end Posix

end LineShell

------------------------------------------------------------
-- Commands
------------------------------------------------------------

namespace LineShell

namespace Posix

namespace Sh

/- Run something as a process of its own, unless it is last. -/
def runSubshell
    (calls : Calls)
    (manner : Manner)
    (body : Act Unit) : Act Nat := do
  let s ← get
  if manner.isLast && s.traps.all (·.2.isEmpty) then
    body
    return (← get).status
  else
    awaited (← inSubshell calls body)

/-
  Run a command of a script, whose parts are run by others;
  the answer is its status.
-/
def statusOfCommand
    (calls : Calls)
    (manner : Manner) : Command → Act Nat
  | .simple line assignments words redirects => do
      noteLine line
      runSimple calls manner assignments words redirects
  | .redirected line body redirects => do
      noteLine line
      let ready ← redirects.mapM (readied calls)
      redirected calls ready
        (statusAfter calls { isTested := manner.isTested } body)
        (return 2)
  | .background line body redirects => do
      noteLine line
      let ready ← redirects.mapM (readied calls)
      inBackground calls 1 <| detached do
        redirectAll calls ready
        bodyOf calls false body
  | .subshell line body redirects => do
      noteLine line
      let ready ← redirects.mapM (readied calls)
      runSubshell calls manner do
        redirectAll calls ready
        bodyOf calls manner.isTested body
  | .pipeline commands true =>
      inBackground calls commands.length <| detached do
        setStatus (← runPipeline calls false commands)
  | .pipeline commands false =>
      runPipeline calls manner.isTested commands
  | .both first second => do
      let status ← statusAfter calls { isTested := true } first
      if status = 0 && (← goesOn) then
        statusAfter calls manner second
      else
        return status
  | .either first second => do
      let status ← statusAfter calls { isTested := true } first
      if status ≠ 0 && (← goesOn) then
        statusAfter calls manner second
      else
        return status
  | .sequence first second => do
      let status ← statusAfter calls
        { isTested := manner.isTested } first
      if ← goesOn then
        statusAfter calls manner second
      else
        return status
  | .negation body => do
      let status ← statusAfter calls { isTested := true } body
      if ← goesOn then
        return if status = 0 then 1 else 0
      else
        return status
  | .choice test whenTrue whenFalse => do
      let status ← statusAfter calls { isTested := true } test
      if !(← goesOn) then
        return status
      else if status = 0 then
        statusAfter calls manner whenTrue
      else
        match whenFalse with
        | some command => statusAfter calls manner command
        | none => return 0
  | .loop untilTrue test body =>
      inLoop <|
        loopWithin calls { isTested := manner.isTested }
          untilTrue test body mostRounds 0
  | .each line name words body => do
      noteLine line
      let values ← words.mapM (expandToFields calls)
      inLoop <|
        eachOf calls { isTested := manner.isTested } name body 0
          values.flatten
  | .match line subject cases => do
      noteLine line
      let text ← expandToText calls subject
      firstCase calls manner text cases
  | .define _ name body => do
      modify fun s =>
        { s with
          functions := Table.put name body s.functions
          located := Table.erase name s.located }
      return 0
where
  mostRounds : Nat := 10000000

/- Whether the failure of a command can end the script. -/
def canEnd :
    Command → Bool
  | .simple .. => true
  | .subshell .. => true
  | .pipeline .. => true
  | _ => false

/-
  Run a command of a script.  With option e a failure ends the
  script, unless it is tested.
-/
def runCommand
    (calls : Calls)
    (command : Command)
    (manner : Manner) : Act Unit := do
  if ← hasOption 'n' then
    return
  actOnSignals calls
  if ← goesOn then
    setStatus (← statusOfCommand calls manner command)
  actOnSignals calls
  let s ← get
  if s.status ≠ 0 && s.options.contains 'e' &&
      !manner.isTested && canEnd command then
    throw .finished

/-
  Run a command with everything in it.  The first argument
  bounds how deep commands can be nested.
-/
def runWithin
    (execute : Process → Text → System →
      Except Errno (Ending × System)) :
    Nat → Command → Manner → Act Unit
  | 0, _, _ => throw .finished
  | fuel + 1, command, manner =>
      runCommand ⟨runWithin execute fuel, execute⟩ command
        manner

end Sh

end Posix

end LineShell
