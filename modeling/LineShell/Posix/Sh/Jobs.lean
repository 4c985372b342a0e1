import LineShell.Posix.Sh.Traps

/-
  Processes in the background, and signals to processes.

  A process in the background runs to its end when it is
  started, and is waited for later.  Until then, and until its
  place is needed, it is a job of the script.

  Main declarations:
    * `Posix.Sh.job`
    * `Posix.Sh.sendSignals`
    * `Posix.Sh.waitFor`
    * `Posix.Sh.listJobs`
-/

------------------------------------------------------------
-- The Table of Jobs
------------------------------------------------------------

namespace LineShell

namespace Posix

namespace Sh

namespace Job

/- What is said of how a job ended. -/
def outcome
    (job : Job) : Text :=
  match job.ending with
  | .exited 0 => "Done"
  | .exited code => "Done(" ++ Text.ofNat code ++ ")"
  | .killed signal => Signal.describe signal

/- Where the commands of a job would stand in its line. -/
def commandColumn : Nat :=
  33

/- The line of a job; the processes are told apart if asked. -/
def line
    (job : Job)
    (mark : Char)
    (showsNumber : Bool) : Text :=
  let number : Text :=
    if showsNumber then Text.ofNat job.number ++ [' '] else []
  let start :=
    '[' :: Text.ofNat job.slot ++ "] " ++ [mark, ' '] ++ number ++
      job.outcome
  let blanks := max 1 (commandColumn - start.length)
  let bars := (List.replicate (job.size - 1) " | ".toList).flatten
  start ++ List.replicate blanks ' ' ++ bars ++ ['\n']

end Job

/- Complain about a job. -/
def failJob
    (t : Text) : Act α :=
  fail ("No such job: ".toList ++ t)

/-
  The job that a text means after a percent sign.  The last
  one needs no text; no job has a text of its own.
-/
def job
    (t : Text) : Act Job := do
  let jobs := (← get).jobs
  let found (reason : Text) : Option Job → Act Job
    | some job => return job
    | none => fail reason
  match t with
  | ['%'] => found "No current job" jobs.head?
  | ['%', '%'] => found "No current job" jobs.head?
  | ['%', '+'] => found "No current job" jobs.head?
  | ['%', '-'] => found "No previous job" jobs[1]?
  | ['%', '?'] =>
      match jobs with
      | [] => failJob t
      | [job] => return job
      | _ => fail (t ++ ": ambiguous")
  | '%' :: digits =>
      let slot :=
        if Text.isNumeral digits then Text.numeralValue digits
        else 0
      match jobs.find? (·.slot == slot) with
      | some job => return job
      | none => failJob t
  | _ => failJob t

/- Drop a job from the table. -/
def dropJob
    (job : Job) : Act Unit :=
  modify fun s =>
    { s with jobs := s.jobs.filter (·.slot != job.slot) }

/- Remember that a job was waited for. -/
def noteWaited
    (waited : Job) : Act Unit :=
  modify fun s =>
    { s with
      jobs := s.jobs.map fun job =>
        if job.slot = waited.slot then
          { job with isWaited := true }
        else
          job }

end Sh

end Posix

end LineShell

------------------------------------------------------------
-- Sending Signals
------------------------------------------------------------

namespace LineShell

namespace Posix

namespace Sh

/- Complain about how signals are to be sent. -/
def failSending : Act α :=
  fail ("Usage: kill [-s sigspec | -signum | -sigspec] " ++
    "[pid | job]... or\nkill -l [exitstatus]")

/- The options of sending signals: a signal, and to list. -/
def sendingOptions :
    List (Char × Text) → Act (Option Nat × Bool)
  | [] => return (none, false)
  | ('s', t) :: rest => do
      match signal? 1 t with
      | none =>
          fail ("invalid signal number or name: ".toList ++ t)
      | some signal =>
          let (later, lists) ← sendingOptions rest
          return (later <|> some signal, lists)
  | _ :: rest => do
      let (signal, _) ← sendingOptions rest
      return (signal, true)

/- Write the name of the signal behind a status. -/
def putSignalOf
    (t : Text) : Act Nat := do
  let n ← numberArgument t
  let signal := if 128 < n then n - 128 else n
  if 0 < signal ∧ signal ≤ Signal.last then
    put (Signal.name signal ++ ['\n'])
    return 0
  else
    fail ("invalid signal number or exit status: ".toList ++ t)

/- Write the names of all signals. -/
def putSignals : Act Nat := do
  put "0\n"
  for signal in List.range Signal.last do
    put (Signal.name (signal + 1) ++ ['\n'])
  return 0

/-
  Send a signal to a process; the answer tells whether there
  is such a process.
-/
def sendTo
    (signal number : Nat) : Act Bool := do
  let s ← get
  if number = s.process.number then
    receiveSignal signal
    return true
  else if number = s.number ∨ number = s.process.parent then
    let signals := s.system.signals ++ [(number, signal)]
    set { s with
      system := { s.system with signals := signals } }
    return true
  else
    return s.jobs.any (·.number == number)

/- Send a signal to each of some processes. -/
def sendToAll
    (signal : Nat) : List Text → Act Nat
  | [] => return 0
  | t :: rest => do
      let isKnown ←
        match t with
        | '%' :: _ => do
            let _ ← job t
            pure false
        | '-' :: digits => do
            let _ ← numberArgument digits
            pure false
        | _ => sendTo signal (← numberArgument t)
      if !isKnown then
        warn (Errno.noProcess.text ++ ['\n'])
      let later ← sendToAll signal rest
      return if isKnown then later else 1

/- Send signals to processes. -/
def sendSignals
    (args : List Text) : Act Nat := do
  let (given, lists, operands) ←
    match args with
    | ('-' :: name) :: rest =>
        match signal? 1 name with
        | some signal => pure (some signal, false, rest)
        | none => do
            let (options, operands) ← readOptions "ls:" args
            let (signal, lists) ← sendingOptions options
            pure (signal, lists, operands)
    | _ => pure (none, false, args)
  match given, lists, operands with
  | none, true, [] => putSignals
  | none, true, t :: _ => putSignalOf t
  | some _, true, [] => putSignals
  | some _, true, _ => failSending
  | _, false, [] => failSending
  | _, false, _ => sendToAll (given.getD 15) operands

end Sh

end Posix

end LineShell

------------------------------------------------------------
-- Waiting
------------------------------------------------------------

namespace LineShell

namespace Posix

namespace Sh

/- The job that is to be waited for, if it is known. -/
def jobToWaitFor?
    (t : Text) : Act (Option Job) := do
  if Text.beginsWith '%' t then
    return some (← job t)
  else
    let number ← numberArgument t
    return (← get).jobs.find? (·.number == number)

/-
  Wait for jobs; the answer is the status of the last one that
  is known.
-/
def waitForAll
    (status : Nat) : List Text → Act Nat
  | [] => return status
  | t :: rest => do
      match ← jobToWaitFor? t with
      | none => waitForAll status rest
      | some job =>
          noteWaited job
          let status ←
            if job.isWaited then
              pure (statusOf job.ending)
            else
              awaited job.ending
          waitForAll status rest

/- Wait for processes in the background. -/
def waitFor
    (args : List Text) : Act Nat := do
  let (_, operands) ← readOptions [] args
  if operands.isEmpty then
    for job in (← get).jobs do
      noteWaited job
    return 0
  else
    waitForAll 127 operands

end Sh

end Posix

end LineShell

------------------------------------------------------------
-- Listing
------------------------------------------------------------

namespace LineShell

namespace Posix

namespace Sh

/- How jobs are listed. -/
inductive Listing where
  | short
  | long
  | numbers
  deriving DecidableEq, Repr

/- Write the line of a job, which is not needed any more. -/
def putJob
    (listing : Listing)
    (job : Job) : Act Unit := do
  if listing = .numbers then
    put (Text.ofNat job.number ++ ['\n'])
  else
    let jobs := (← get).jobs
    let mark :=
      if jobs.head? = some job then '+'
      else if jobs[1]? = some job then '-'
      else ' '
    put (job.line mark (listing = .long))
    dropJob job

/- List jobs, all of them by default. -/
def listJobs
    (args : List Text) : Act Nat := do
  let (options, operands) ← readOptions "lp" args
  let listing :=
    match options.getLast? with
    | some ('l', _) => Listing.long
    | some _ => Listing.numbers
    | none => Listing.short
  if operands.isEmpty then
    for job in (← get).jobs do
      putJob listing job
  else
    for t in operands do
      putJob listing (← job t)
  return 0

/- Let a job go on: there is none that was stopped. -/
def resumeJob
    (args : List Text) : Act Nat := do
  let (_, operands) ← readOptions [] args
  let _ ← job (operands.headD ['%'])
  fail ("job " ++ operands.headD "(null)" ++
    " not created under job control")

end Sh

end Posix

end LineShell
