import LineShell.Posix.Sh.State

/-
  Running texts as scripts, and parts of a script as processes
  of their own.

  A script is read line by line: a line is run before the next
  one is read.

  Main declarations:
    * `Posix.Sh.runLines`
    * `Posix.Sh.runText`
    * `Posix.Sh.receiveSignals`
    * `Posix.Sh.conclude`
    * `Posix.Sh.inSubshell`
-/

------------------------------------------------------------
-- Texts
------------------------------------------------------------

namespace LineShell

namespace Posix

namespace Sh

/-
  Where a text comes from that is run: it is the script, a
  file that is made a part of it, an argument or an action, or
  what stands in a substitution.
-/
inductive Origin where
  | script
  | part
  | argument
  | substitution
  deriving DecidableEq, Repr

namespace Origin

/- Whether the lines of a text may be shown. -/
def isShown
    (origin : Origin) : Bool :=
  origin = script || origin = part

/- Remember up to which line a text has been read. -/
def keepLine
    (origin : Origin)
    (line : Nat)
    (s : State) : State :=
  match origin with
  | script => { s with scriptLine := line, readLine := line }
  | part => { s with readLine := line }
  | argument => { s with readLine := line }
  | substitution => s

end Origin

/- Show the lines that were read, if that is wanted. -/
def showLines
    (before after : Reader) : Act Unit := do
  if ← hasOption 'v' then
    let length := before.rest.length - after.rest.length
    tell (before.rest.take length)

/-
  Run the lines of a script; the answer is the last status.
  The first argument after the fixed ones bounds the number of
  lines.  The manner is that of the whole script.
-/
def runLines
    (calls : Calls)
    (manner : Manner)
    (origin : Origin) :
    Nat → Nat → Reader → Act Nat
  | 0, status, _ => return status
  | fuel + 1, status, r => do
      let s ← get
      let before :=
        { r with documents := s.documents, aliases := s.aliases }
      let (line, after) := Grammar.line.run.run before
      set (origin.keepLine after.line
        { s with documents := after.documents })
      if origin.isShown then
        showLines before after
      match line with
      | .error fault => failOnLine fault.line fault.message
      | .ok .finished => return status
      | .ok (.command none) =>
          runLines calls manner origin fuel status after
      | .ok (.command (some command)) =>
          let isAtEnd := after.putBack matches some .endOfFile
          calls.run command
            { manner with isLast := manner.isLast && isAtEnd }
          let s ← get
          if s.skipping = .none then
            runLines calls manner origin fuel s.status after
          else
            return s.status

/-
  Run a text while another one is being run; the answer is the
  last status.
-/
def runWithinText
    (calls : Calls)
    (origin : Origin)
    (text : Text)
    (manner : Manner := {}) : Act Nat := do
  let line := (← get).readLine
  let status ← runLines calls manner origin (text.length + 2) 0
    { rest := text }
  modify fun s => { s with readLine := line }
  return status

/- Run a text; the answer is the last status. -/
def runText
    (calls : Calls)
    (text : Text)
    (manner : Manner := {}) : Act Nat :=
  runWithinText calls .argument text manner

end Sh

end Posix

end LineShell

------------------------------------------------------------
-- Signals
------------------------------------------------------------

namespace LineShell

namespace Posix

namespace Sh

/- Let a signal take effect on the own process. -/
def receiveSignal
    (signal : Nat) : Act Unit := do
  let s ← get
  if Signal.isUnstoppable signal then
    throw (.gone (.killed signal))
  else if s.process.ignored.contains signal then
    return
  match s.traps.lookup signal with
  | some [] => return
  | some _ =>
      set { s with pending := s.pending ++ [signal] }
  | none =>
      if Signal.isFatal signal then
        throw (.gone (.killed signal))

/- Let the signals that others sent take effect. -/
def receiveSignals : Act Unit := do
  let s ← get
  let (own, others) :=
    s.system.signals.partition (·.1 == s.process.number)
  set { s with system := { s.system with signals := others } }
  for (_, signal) in own do
    receiveSignal signal

/-
  Run the actions on signals, in order; those that come while
  commands are being skipped have to wait.
-/
def actOnEach
    (calls : Calls)
    (status : Nat) : List Nat → Act Unit
  | [] => return
  | signal :: signals => do
      let s ← get
      if s.skipping = .none then
        let _ ← runText calls ((s.traps.lookup signal).getD [])
        if (← get).skipping ≠ .returning true then
          setStatus status
        actOnEach calls status signals
      else
        set { s with pending := signal :: signals ++ s.pending }

/- Run the actions on the signals that were received. -/
def actOnSignals
    (calls : Calls) : Act Unit := do
  let s ← get
  if !s.pending.isEmpty then
    let status := s.savedStatus.getD s.status
    set { s with pending := [], savedStatus := some status }
    let signals := (List.range (Signal.last + 1)).filter
      s.pending.contains
    actOnEach calls status signals
    modify fun after =>
      { after with savedStatus := s.savedStatus }

end Sh

end Posix

end LineShell

------------------------------------------------------------
-- Processes
------------------------------------------------------------

namespace LineShell

namespace Posix

namespace Sh

/- Do what is to be done at the end of a process. -/
def actOnExit
    (calls : Calls) : Act Unit := do
  let s ← get
  match s.traps.lookup 0 with
  | none => return
  | some action =>
      set { s with
        traps := s.traps.filter (·.1 != 0)
        savedStatus := some s.status
        skipping := .none }
      let _ ← runText calls action
      setStatus s.status

/- Run all that a process does, up to its end. -/
def conclude
    (calls : Calls)
    (body : Act Unit)
    (s : State) : Ending × State :=
  match body.run.run s with
  | (.error (.gone ending), s) => (ending, s)
  | (_, s) =>
      match (actOnExit calls).run.run s with
      | (.error (.gone ending), s) => (ending, s)
      | (_, s) => (.exited (s.status % 256), s)

/- The state in which a process of its own begins. -/
def State.forked
    (s : State) : State :=
  let number := s.system.lastProcess + 1
  { s with
    system := { s.system with lastProcess := number }
    process :=
      { s.process with
        number := number
        parent := s.process.number }
    traps := s.traps.filter (·.2.isEmpty)
    pending := []
    jobs := []
    readLine := s.scriptLine }

/-
  The first place in the table of jobs that is free, or that a
  job has that was waited for.
-/
def State.freeSlot
    (s : State) : Nat :=
  let taken := (s.jobs.filter (!·.isWaited)).map (·.slot)
  ((List.range (taken.length + 1)).map (· + 1)).find?
    (!taken.contains ·) |>.getD 1

/- Make place for one more job. -/
def State.withFreeSlot
    (s : State) : State :=
  let slot := s.freeSlot
  { s with jobs := s.jobs.filter (·.slot != slot) }

/-
  Run something as a process of its own, which shares nothing
  with the script but the system.
-/
def inSubshell
    (calls : Calls)
    (body : Act Unit) : Act Ending := do
  modify State.withFreeSlot
  let s ← get
  let (ending, after) := conclude calls body s.forked
  let here := s.system.tree.here
  let system :=
    { after.system with
      tree := { after.system.tree with here := here } }
  set { s with system := system }
  receiveSignals
  return ending

/- The status that an ending is seen as. -/
def statusOf :
    Ending → Nat
  | .exited code => code
  | .killed signal => 128 + signal

/-
  The status of a process that was waited for.  Most signals
  that end it are told.
-/
def awaited
    (ending : Ending) : Act Nat := do
  match ending with
  | .killed signal =>
      if signal ≠ 2 ∧ signal ≠ 13 then
        tell (Signal.describe signal ++ "\n")
  | .exited _ => pure ()
  return statusOf ending

end Sh

end Posix

end LineShell
