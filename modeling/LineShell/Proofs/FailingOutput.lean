import LineShell.Proofs.Leaving

/-
  What becomes of a line while standard output fails.

  A standard builtin does what it would do otherwise, up to its
  first write to standard output, and fails there.  Where a
  line has an executor, that failure is told on standard error
  and counts as status 1.  A name that is not found has none,
  and the failure to say so is let out.

  Main declarations:
    * `Trace.writes`
    * `Outcome.CutOff`
    * `Builtin.run_cutOff`
    * `Invocation.perform_cutOff`
    * `Shell.Missing`
    * `Shell.ContainsFailure`
    * `Shell.failure_contained_iff`
-/

------------------------------------------------------------
-- Writes
------------------------------------------------------------

namespace LineShell

/- The text that the event writes to a stream, if it does. -/
def Event.write?
    (channel : Channel) : Event → Option Text
  | wrote ch text => if ch = channel then some text else none
  | _ => none

namespace Trace

variable {channel : Channel}

/- The texts that are written to a stream, in order. -/
def writes
    (channel : Channel)
    (trace : Trace) : List Text :=
  trace.filterMap (·.write? channel)

theorem writes_append
    (channel : Channel)
    (first second : Trace) :
    writes channel (first ++ second) =
      writes channel first ++ writes channel second :=
  List.filterMap_append

theorem writes_ofChild
    (channel : Channel)
    (pieces : List (Channel × Text)) :
    writes channel (ofChild pieces) = [] := by
  induction pieces with
  | nil => rfl
  | cons piece pieces ih => exact ih

theorem writes_records
    (channel : Channel)
    (records : List Record) :
    writes channel (records.map .logged) = [] := by
  induction records with
  | nil => rfl
  | cons record records ih => exact ih

/- All text on a stream is that of its writes. -/
theorem written_eq_flatten
    (channel : Channel)
    (trace : Trace) :
    written channel trace = (writes channel trace).flatten := by
  induction trace with
  | nil => rfl
  | cons event trace ih =>
      cases event with
      | wrote ch text =>
          by_cases hChannel : ch = channel
          · simp [writes, Event.write?, Event.textOn, hChannel]
            exact ih
          · simp [writes, Event.write?, Event.textOn, hChannel]
            exact ih
      | _ => exact ih

/- Without writes there is no text. -/
theorem written_of_writes
    {trace : Trace}
    (hWrites : trace.writes channel = []) :
    trace.written channel = [] := by
  rw [written_eq_flatten, hWrites]
  rfl

end Trace

/- A quiet search does not write. -/
theorem Effect.unwritten_quiet
    {φ δ : Type}
    (channel : Channel) :
    (unseen (Event.write? channel) :
      Effect (World φ δ)).Quiet where
  still := fun _ => rfl
  join := by
    intro w₁ t₁ w₂ t₂ w₃ hFirst hSecond
    unfold unseen at hFirst hSecond ⊢
    rw [List.filterMap_append, hFirst, hSecond]
    rfl
  logged := fun _ _ => rfl
  probed := fun _ _ => rfl

/- Nor does passing standard output on. -/
theorem Outcome.flushed_writes
    {φ δ α : Type}
    (channel : Channel)
    (done : Outcome (World φ δ) α) :
    done.flushed.trace.writes channel =
      done.trace.writes channel := by
  rcases done.flushed_trace with hTrace | hTrace
  · rw [hTrace]
  · rw [hTrace, Trace.writes_append]
    exact List.append_nil _

/- Resolving a name does not write. -/
theorem Shell.resolve_writes
    {φ δ : Type}
    (M : Machine φ δ)
    (w : World φ δ)
    (name : Text)
    (channel : Channel) :
    (resolve M w name).trace.writes channel = [] := by
  unfold resolve
  cases w.builtins.builtin? name with
  | some builtin => rfl
  | none =>
      exact Builtin.findExecutable_respects
        (Effect.unwritten_quiet channel) M name w

end LineShell

------------------------------------------------------------
-- Runs That Are Cut Off
------------------------------------------------------------

namespace LineShell

namespace World

variable {φ δ : Type}
variable {w : World φ δ}
variable {fault : Fault}

/-
  The next write to standard output fails with the fault.
  Standard error takes what is written, and both are flushed.
-/
structure OutFails
    (w : World φ δ)
    (fault : Fault) : Prop where
  out : w.streams.answer .out .write = some fault
  err : w.streams.Takes .err .write
  flushes : w.streams.Flushes

/- Streams that fail at writes to standard output and no more. -/
theorem outFails_of_answering
    {answers : Nat → Option Fault}
    (hStreams :
      w.streams = ({} : Streams).answering .out .write answers)
    (hFault : answers 0 = some fault) :
    w.OutFails fault where
  out := by
    rw [hStreams]
    exact hFault
  err := by
    rw [hStreams]
    exact fun _ => rfl
  flushes := by
    rw [hStreams]
    exact Streams.Flushes.answering_write fun _ _ => rfl

/- The world with other answers to writes to standard output. -/
def writing
    (w : World φ δ)
    (answers : Nat → Option Fault) : World φ δ :=
  { w with streams := w.streams.answering .out .write answers }

/- The world with a standard output that takes every write. -/
def restored
    (w : World φ δ) : World φ δ :=
  w.writing fun _ => none

/- How writes to standard output are answered. -/
def outWrites
    (w : World φ δ) : Nat → Option Fault :=
  w.streams.answers .out .write

/- What was restored can be taken back. -/
theorem restored_writing
    (w : World φ δ) :
    w.restored.writing w.outWrites = w := by
  cases w with
  | mk environment files device builtins streams lastStatus =>
      cases streams with
      | mk answers =>
          simp only [restored, writing, outWrites,
            Streams.answering, mk.injEq, true_and, and_true,
            Streams.mk.injEq]
          funext channel operation
          cases channel with
          | err => rfl
          | out =>
              cases operation with
              | write => rfl
              | flush => rfl

theorem restored_out
    (w : World φ δ) :
    w.restored.streams.Takes .out .write :=
  fun _ => rfl

theorem OutFails.restored_err
    (hFails : w.OutFails fault) :
    w.restored.streams.Takes .err .write :=
  hFails.err

theorem OutFails.restored_flushes
    (hFails : w.OutFails fault) :
    w.restored.streams.Flushes :=
  hFails.flushes.answering_write

/- What was restored works. -/
theorem OutFails.restored_ordinary
    {fits : φ → δ → Prop}
    (hFails : w.OutFails fault)
    (hBuiltins : w.builtins = Registry.standard)
    (hFits : fits w.files w.device) :
    w.restored.Ordinary fits where
  builtins := hBuiltins
  out := by
    intro operation
    cases operation with
    | write => exact w.restored_out
    | flush => exact hFails.restored_flushes .out
  err := by
    intro operation
    cases operation with
    | write => exact hFails.restored_err
    | flush => exact hFails.restored_flushes .err
  fits := hFits

end World

/-
  How a run ends when standard output answers writes as given,
  compared with the whole run on one that works: in the same
  way, if nothing is written there, and otherwise before the
  first write.
-/
inductive Outcome.CutOff
    {φ δ α : Type}
    (answers : Nat → Option Fault)
    (whole part : Outcome (World φ δ) α) : Prop where
  | silent
      (hSilent : whole.trace.writes .out = [])
      (hPart :
        part =
          ⟨whole.result, whole.state.writing answers,
            whole.trace⟩)
  | cut
      {before after : Trace}
      {text : Text}
      {w : World φ δ}
      {fault : Fault}
      (hFault : answers 0 = some fault)
      (hWhole :
        whole.trace = before ++ .wrote .out text :: after)
      (hBefore : ∀ channel, before.writes channel = [])
      (hPart : part = ⟨.error fault, w, before⟩)

namespace Outcome

variable {φ δ α : Type}
variable {answers : Nat → Option Fault}

/- What writes nothing may come before. -/
theorem CutOff.after
    {whole part : Outcome (World φ δ) α}
    (hCut : CutOff answers whole part)
    {earlier : Trace}
    (hEarlier : ∀ channel, earlier.writes channel = []) :
    CutOff answers (whole.after earlier)
      (part.after earlier) := by
  cases hCut with
  | silent hSilent hPart =>
      rw [hPart]
      refine .silent ?_ rfl
      exact (Trace.writes_append _ _ _).trans
        (by rw [hEarlier, hSilent]; rfl)
  | @cut before later text w fault hFault hWhole hBefore hPart =>
      rw [hPart]
      have hSplit :
          (whole.after earlier).trace =
            (earlier ++ before) ++ .wrote .out text :: later := by
        rw [List.append_assoc, ← hWhole]
        rfl
      refine .cut hFault hSplit ?_ rfl
      intro channel
      rw [Trace.writes_append, hEarlier, hBefore]
      rfl

/-
  A run that is silent is not cut off, whatever it changes
  besides the streams.
-/
theorem CutOff.changed
    (w : World φ δ)
    (change : World φ δ → World φ δ)
    (hChange :
      ∀ v others,
        change (v.writing others) = (change v).writing others)
    {result : Except Fault α}
    {trace : Trace}
    (hSilent : trace.writes .out = []) :
    CutOff w.outWrites ⟨result, change w.restored, trace⟩
      ⟨result, change w, trace⟩ := by
  refine .silent hSilent ?_
  dsimp only
  rw [← hChange, World.restored_writing]

theorem CutOff.unmoved
    (w : World φ δ)
    {result : Except Fault α}
    {trace : Trace}
    (hSilent : trace.writes .out = []) :
    CutOff w.outWrites ⟨result, w.restored, trace⟩
      ⟨result, w, trace⟩ :=
  changed w id (fun _ _ => rfl) hSilent

end Outcome

namespace World

variable {φ δ : Type}
variable {w : World φ δ}
variable {fault : Fault}

/- A text for standard output is cut off. -/
theorem say_cutOff
    (hFails : w.OutFails fault)
    (text : Text)
    (status : Int) :
    let say : Action (World φ δ) Int := do
      write .out text
      return status
    Outcome.CutOff w.outWrites (say w.restored) (say w) := by
  intro say
  have hPart := say_refused hFails.out text status
  have hWhole :
      (say w.restored).trace = [] ++ .wrote .out text :: [] :=
    congrArg Outcome.trace
      (say_accepted w.restored_out text status)
  exact .cut hFails.out hWhole (fun _ => rfl) hPart

end World

end LineShell

------------------------------------------------------------
-- Builtins That Are Cut Off
------------------------------------------------------------

namespace LineShell

namespace Builtin

variable {φ δ : Type}
variable {M : Machine φ δ}
variable {w : World φ δ}
variable {fault : Fault}

theorem echoWords_cutOff
    (hFails : w.OutFails fault)
    (words : List Text) :
    Outcome.CutOff w.outWrites (echoWords words w.restored)
      (echoWords words w) := by
  cases words with
  | nil => exact World.say_cutOff hFails _ _
  | cons word words =>
      have hWhole :
          (echoWords (word :: words) w.restored).trace =
            [] ++ .wrote .out (word ++ " ") :: echoed words :=
        congrArg Outcome.trace
          (echoWords_apply w.restored_out _)
      have hPart :
          echoWords (word :: words) w =
            ⟨.error fault, w.asked .out .write, []⟩ := by
        simp only [echoWords, Action.bind_apply,
          World.write_refused hFails.out, Outcome.andThen_error]
      exact .cut hFails.out hWhole (fun _ => rfl) hPart

/- A complaint on standard error is not cut off. -/
theorem complain_cutOff
    (hFails : w.OutFails fault)
    (message : Text)
    (status : Int) :
    let complain : Action (World φ δ) Int := do
      World.write .err message
      return status
    Outcome.CutOff w.outWrites (complain w.restored)
      (complain w) := by
  intro complain
  have hPart : complain w = _ :=
    World.say_accepted hFails.err message status
  have hWhole : complain w.restored = _ :=
    World.say_accepted hFails.restored_err message status
  rw [hWhole, hPart]
  exact .unmoved w rfl

theorem exitWith_cutOff
    (hFails : w.OutFails fault)
    (name : Text)
    (args : List Text) :
    Outcome.CutOff w.outWrites (exitWith name args w.restored)
      (exitWith name args w) := by
  cases args with
  | nil => exact .unmoved w rfl
  | cons argument rest =>
      cases hCode : ExitStatus.parse name argument with
      | ok code =>
          simp only [exitWith, hCode]
          exact .unmoved w rfl
      | error fault =>
          cases fault with
          | badArgument command given detail =>
              simp only [exitWith, hCode]
              exact complain_cutOff hFails _ 2
          | _ =>
              simp only [exitWith, hCode]
              exact .unmoved w rfl

theorem printWorkingDirectory_cutOff
    (M : Machine φ δ)
    (hFails : w.OutFails fault) :
    Outcome.CutOff w.outWrites
      (printWorkingDirectory M w.restored)
      (printWorkingDirectory M w) := by
  have hFiles : w.restored.files = w.files := rfl
  rw [printWorkingDirectory_apply, printWorkingDirectory_apply,
    hFiles]
  cases M.files.workingDirectory w.files with
  | ok path => exact World.say_cutOff hFails _ 0
  | error fault =>
      cases hSystem : fault.isSystem with
      | true =>
          simp only [hSystem, if_true]
          exact .unmoved w rfl
      | false =>
          simp only [hSystem, Bool.false_eq_true, if_false]
          exact .unmoved w rfl

theorem changeDirectoryTo_cutOff
    (M : Machine φ δ)
    (hFails : w.OutFails fault)
    (name : Text)
    (args : List Text) :
    Outcome.CutOff w.outWrites
      (changeDirectoryTo M name args w.restored)
      (changeDirectoryTo M name args w) := by
  cases hTarget : target? w.environment args with
  | none =>
      have hThere : target? w.restored.environment args = none :=
        hTarget
      rw [changeDirectoryTo_of_no_target name args hTarget,
        changeDirectoryTo_of_no_target name args hThere]
      exact World.say_cutOff hFails _ 1
  | some path =>
      have hThere :
          target? w.restored.environment args = some path :=
        hTarget
      rw [changeDirectoryTo_of_target name args hTarget,
        changeDirectoryTo_of_target name args hThere]
      cases hEnter : M.files.enter w.files path with
      | ok files =>
          have hWhole : enter M name path w.restored = _ :=
            enter_of_ok name hEnter
          rw [hWhole, enter_of_ok name hEnter]
          exact .changed w (fun v => { v with files := files })
            (fun _ _ => rfl) rfl
      | error fault =>
          cases hHost : fault.isHost with
          | false =>
              have hWhole : enter M name path w.restored = _ :=
                enter_of_fault name hEnter hHost
              rw [hWhole, enter_of_fault name hEnter hHost]
              exact .unmoved w rfl
          | true =>
              have hWhole : enter M name path w.restored = _ :=
                enter_of_refusal name hEnter hHost
              rw [hWhole, enter_of_refusal name hEnter hHost]
              exact (World.say_cutOff hFails _ 1).after
                fun _ => rfl

/- A missing operand is reported with the usage, and no more. -/
theorem describe_unnamed
    (M : Machine φ δ)
    (called : Text)
    (hErr : w.streams.Takes .err .write) :
    run M .describe called [] w =
      ⟨.ok 1, w,
        [.wrote .err (called ++ ": missing operand\n"),
          .wrote .err "usage: type name\n"]⟩ := by
  simp [run, describeFirst, Report.requireArgs, Report.error,
    World.write_accepted hErr]

theorem describe_cutOff
    (M : Machine φ δ)
    (hFails : w.OutFails fault)
    (called : Text)
    (args : List Text) :
    Outcome.CutOff w.outWrites
      (run M .describe called args w.restored)
      (run M .describe called args w) := by
  cases args with
  | nil =>
      rw [describe_unnamed M called hFails.restored_err,
        describe_unnamed M called hFails.err]
      exact .unmoved w rfl
  | cons name rest =>
      have hSame :
          Shell.resolve M w.restored name =
            Shell.resolve M w name :=
        rfl
      have hQuiet (channel : Channel) :
          (Shell.resolve M w name).trace.writes channel = [] :=
        Shell.resolve_writes M w name channel
      rw [Shell.describe_eq, Shell.describe_eq, hSame]
      cases hResolve : (Shell.resolve M w name).result with
      | error fault => exact .unmoved w (hQuiet .out)
      | ok executor? =>
          exact (World.say_cutOff hFails _ _).after hQuiet

/-
  A builtin of the interpreter writes to standard output before
  it writes anything else, and that is where it is cut off.
-/
theorem run_cutOff
    (M : Machine φ δ)
    (hFails : w.OutFails fault)
    {builtin : Builtin}
    (hBuiltin : ∀ script, builtin ≠ .added script)
    (name : Text)
    (args : List Text) :
    Outcome.CutOff w.outWrites
      (run M builtin name args w.restored)
      (run M builtin name args w) := by
  cases builtin with
  | changeDirectory =>
      exact changeDirectoryTo_cutOff M hFails name args
  | echo => exact echoWords_cutOff hFails args
  | exit => exact exitWith_cutOff hFails name args
  | greet => exact World.say_cutOff hFails _ 0
  | printDirectory => exact printWorkingDirectory_cutOff M hFails
  | describe => exact describe_cutOff M hFails name args
  | added script => exact absurd rfl (hBuiltin script)

end Builtin

end LineShell

------------------------------------------------------------
-- Executors That Are Cut Off
------------------------------------------------------------

namespace LineShell

/- No standard builtin is one that was added. -/
theorem Registry.standard_ne_added
    {name : Text}
    {builtin : Builtin}
    (hBuiltin : standard.builtin? name = some builtin)
    (script : Text → List Text → Script) :
    builtin ≠ .added script := by
  have hMember := Table.mem_of_find? hBuiltin
  rintro rfl
  simp [standard] at hMember

namespace Invocation

variable {φ δ : Type}
variable {M : Machine φ δ}
variable {w : World φ δ}
variable {fault : Fault}

/- An external command does not write by itself. -/
theorem external_writes
    (M : Machine φ δ)
    (path : Path)
    (argv : List Text)
    (hNext : w.streams.FlushesNext)
    (channel : Channel) :
    (external M path argv w).trace.writes channel = [] := by
  rcases (external_after_launch M path argv hNext).2 with
    ⟨records, hTrace⟩
  have hLaunch :
      (World.launch M ⟨path, argv⟩ w.passedOn).trace.writes
        channel = [] :=
    Trace.writes_ofChild channel _
  rw [hTrace, Trace.writes_append, Trace.writes_append, hLaunch,
    Trace.writes_records]
  rfl

/- It goes on regardless of standard output. -/
theorem external_cutOff
    (M : Machine φ δ)
    (hFails : w.OutFails fault)
    (path : Path)
    (argv : List Text) :
    Outcome.CutOff w.outWrites (external M path argv w.restored)
      (external M path argv w) := by
  have hNext := hFails.flushes.next
  have hThere := hFails.restored_flushes.next
  have hSame : w.passedOn = w :=
    World.passedOn_of_flushes hFails.flushes
  have hSameThere : w.restored.passedOn = w.restored :=
    World.passedOn_of_flushes hFails.restored_flushes
  have hSilent :=
    external_writes M path argv hThere .out
  let launched (v : World φ δ) : World φ δ :=
    (World.launch M ⟨path, argv⟩ v).state
  cases hLaunch :
      (World.launch M ⟨path, argv⟩ w.passedOn).result with
  | ok status =>
      have hWhole := external_of_ok path argv hThere hLaunch
      rw [hSameThere] at hWhole
      rw [hWhole] at hSilent ⊢
      rw [external_of_ok path argv hNext hLaunch, hSame]
      exact .changed w launched (fun _ _ => rfl) hSilent
  | error fault =>
      cases fault with
      | spawn program details =>
          have hWhole := external_of_spawn path program argv
            details hThere hLaunch
          rw [hSameThere] at hWhole
          rw [hWhole] at hSilent ⊢
          rw [external_of_spawn path program argv details hNext
            hLaunch, hSame]
          exact .changed w launched (fun _ _ => rfl) hSilent
      | _ =>
          have hWhole := external_of_error path argv hThere
            hLaunch (fun _ _ hSpawn => by cases hSpawn)
          rw [hSameThere] at hWhole
          rw [hWhole] at hSilent ⊢
          rw [external_of_error path argv hNext hLaunch
            (fun _ _ hSpawn => by cases hSpawn), hSame]
          exact .changed w launched (fun _ _ => rfl) hSilent

theorem perform_cutOff
    (M : Machine φ δ)
    (hFails : w.OutFails fault)
    (invocation : Invocation)
    {executor : Executor}
    (hExecutor :
      ∀ script, executor ≠ .builtin (.added script)) :
    Outcome.CutOff w.outWrites
      (perform M invocation executor w.restored)
      (perform M invocation executor w) := by
  cases executor with
  | builtin builtin =>
      apply Builtin.run_cutOff M hFails
      intro script hAdded
      exact hExecutor script (congrArg Executor.builtin hAdded)
  | external path => exact external_cutOff M hFails path _

/- What is told about an ending is not on standard output. -/
theorem recover_writes
    (hErr : w.streams.Takes .err .write)
    (hFlushes : w.streams.Flushes)
    (invocation : Invocation)
    (ending : Except Fault Int) :
    (recover invocation ending w).trace.writes .out = [] := by
  cases ending with
  | ok status =>
      rw [recover_ok invocation status hFlushes]
      rfl
  | error fault =>
      cases hEnds : fault.endsShell with
      | true =>
          rw [recover_ending invocation hEnds]
          rfl
      | false =>
          rw [recover_told invocation hEnds hErr hFlushes]
          rfl

/- A name without an executor is not told to be missing. -/
theorem run_of_no_executor_refused
    {invocation : Invocation}
    (hExecutor : invocation.executor = none)
    (hOut : w.streams.answer .out .write = some fault) :
    run M invocation w =
      ⟨.error fault, w.asked .out .write, []⟩ := by
  rw [run_eq_carryOut]
  simp only [carryOut, hExecutor, Action.bind_apply,
    World.write_refused hOut, Outcome.andThen_error]

end Invocation

end LineShell

------------------------------------------------------------
-- Lines That Are Cut Off
------------------------------------------------------------

namespace LineShell

namespace Shell

variable {φ δ : Type}
variable {M : Machine φ δ}
variable {w : World φ δ}
variable {line : Text}

/- A line whose name has no executor. -/
def Missing
    (M : Machine φ δ)
    (w : World φ δ)
    (line : Text) : Prop :=
  ∃ name args,
    splitWords (stripTerminator line) = name :: args ∧
      (resolve M w name).result = .ok none

/-
  The fault of a failing standard output does not escape the
  line: nothing is let out but what ends the shell, and if the
  line would write to a standard output that works, the fault
  is told.
-/
structure ContainsFailure
    (M : Machine φ δ)
    (w : World φ δ)
    (fault : Fault)
    (line : Text) : Prop where
  lets :
    ∀ other, (execute M line w).result = .error other →
      (∃ code, other = .exit code) ∨
        ∃ text code, other = .fatal text code
  told :
    (execute M line w.restored).trace.writes .out ≠ [] →
      ∃ name args,
        splitWords (stripTerminator line) = name :: args ∧
          (execute M line w).TellsFault name fault

/- What makes the shell end is a request or a fatal fault. -/
theorem Leaves.kind
    {F : FileSystem φ}
    {files : φ}
    {words : List Text}
    {fault : Fault}
    (hLeaves : Leaves F files words fault) :
    (∃ code, fault = .exit code) ∨
      ∃ text code, fault = .fatal text code := by
  cases hLeaves with
  | exit => exact Or.inl ⟨0, rfl⟩
  | exitWith hCode => exact Or.inl ⟨_, rfl⟩
  | lost hLost hSystem => exact Or.inr ⟨_, 1, rfl⟩

/- Preparing a command does not write. -/
theorem invocation_writes
    (M : Machine φ δ)
    (command : CommandLine)
    (w : World φ δ)
    (channel : Channel) :
    (invocation M command w).trace.writes channel = [] :=
  invocation_respects (Effect.unwritten_quiet channel) command w

/- A line writes there no more than its executor. -/
theorem execute_writes_of_silent
    {command : CommandLine}
    {found : Invocation}
    {executor : Executor}
    (hParse : CommandLine.parse? line = some command)
    (hFound : (invocation M command w).result = .ok found)
    (hExecutor : found.executor = some executor)
    (hErr : w.streams.Takes .err .write)
    (hFlushes : w.streams.Flushes)
    (hSilent :
      (found.perform M executor w).trace.writes .out = []) :
    (execute M line w).trace.writes .out = [] := by
  have hSame :=
    (Invocation.perform_respects (Effect.steady_line M)
      found executor w).1
  have hRecovered :=
    Invocation.recover_writes (hSame.streams.takes hErr)
      (hSame.streams.flushes hFlushes) found
      (found.perform M executor w).result
  have hRun : (found.run M w).trace.writes .out = [] := by
    rw [Invocation.run_of_executor hExecutor]
    exact (Trace.writes_append _ _ _).trans
      (by rw [hSilent, hRecovered]; rfl)
  have hPrepared := invocation_writes M command w .out
  have hBefore :
      Trace.writes .out
        (tokens command :: (invocation M command w).trace ++
          (found.run M w).trace) = [] := by
    rw [Trace.writes_append, hRun, List.append_nil]
    exact hPrepared
  rw [execute_of_invocation hParse hFound]
  exact (Outcome.flushed_writes .out _).trans hBefore

end Shell

end LineShell

------------------------------------------------------------
-- Where Failures Are Contained
------------------------------------------------------------

namespace LineShell

namespace Shell

variable {φ δ : Type}
variable {fits : φ → δ → Prop}
variable {M : Machine φ δ}
variable {w : World φ δ}
variable {line : Text}
variable {command : CommandLine}
variable {executor : Executor}
variable {fault : Fault}

/- No name is resolved to a builtin that was added. -/
theorem resolve_ne_added
    (hBuiltins : w.builtins = Registry.standard)
    {name : Text}
    (hResolve :
      (resolve M w name).result = .ok (some executor))
    (script : Text → List Text → Script) :
    executor ≠ .builtin (.added script) := by
  rintro rfl
  cases hBuiltin : w.builtins.builtin? name with
  | some builtin =>
      rw [resolve_of_builtin hBuiltin] at hResolve
      cases hResolve
      rw [hBuiltins] at hBuiltin
      exact Registry.standard_ne_added hBuiltin script rfl
  | none =>
      cases hFind :
          (Search.find M.files w.environment w.files
            name).result with
      | error fault =>
          rw [resolve_of_find_fault hBuiltin hFind] at hResolve
          cases hResolve
      | ok path? =>
          rw [resolve_of_find hBuiltin hFind] at hResolve
          cases path? with
          | none => cases hResolve
          | some path => cases hResolve

/- A missing name lets the failure out, and nothing is told. -/
theorem execute_of_missing
    (hFails : w.OutFails fault)
    (hMissing : Missing M w line) :
    (execute M line w).result = .error fault ∧
      (execute M line w).state = w.asked .out .write ∧
      ∀ channel,
        (execute M line w).trace.written channel = [] := by
  rcases hMissing with ⟨name, args, hWords, hResolve⟩
  have hParse : CommandLine.parse? line = some ⟨name, args⟩ :=
    (CommandLine.parse?_eq_some_iff line ⟨name, args⟩).2 hWords
  have hFound :
      (invocation M ⟨name, args⟩ w).result =
        .ok ⟨name, args, none⟩ := by
    rw [(invocation_of_resolve M w ⟨name, args⟩).1, hResolve]
    rfl
  rw [execute_of_invocation hParse hFound,
    Invocation.run_of_no_executor_refused rfl hFails.out,
    Outcome.flushed_accepted]
  · refine ⟨rfl, rfl, ?_⟩
    intro channel
    have hPrepared :=
      invocation_written M ⟨name, args⟩ w channel
    rw [List.append_nil, Trace.written_append,
      Trace.written_cons, hPrepared]
    rfl
  · exact (w.streams.later_after .out .write).takes
      (hFails.flushes .out)

/- With an executor, the failure is contained. -/
theorem execute_containsFailure
    (hMachine : M.FailsAsHost fits)
    (hBuiltins : w.builtins = Registry.standard)
    (hFits : fits w.files w.device)
    (hFails : w.OutFails fault)
    (hStays : fault.endsShell = false)
    (hParse : CommandLine.parse? line = some command)
    (hResolve :
      (resolve M w command.name).result = .ok (some executor)) :
    ContainsFailure M w fault line := by
  have hFound :
      (invocation M command w).result =
        .ok ⟨command.name, command.args, some executor⟩ := by
    rw [(invocation_of_resolve M w command).1, hResolve]
    rfl
  have hThere :
      (invocation M command w.restored).result =
        .ok ⟨command.name, command.args, some executor⟩ := by
    rw [(invocation_of_resolve M w.restored command).1]
    change Except.map _ (resolve M w command.name).result = _
    rw [hResolve]
    rfl
  have hOrdinary : w.restored.Ordinary fits :=
    hFails.restored_ordinary hBuiltins hFits
  -- Either the executor runs as on a standard output that
  -- works, or it fails at its first write to it.
  cases Invocation.perform_cutOff M hFails
      ⟨command.name, command.args, some executor⟩
      (resolve_ne_added hBuiltins hResolve) with
  | silent hSilent hPart =>
      constructor
      · intro other hOther
        rw [execute_error_iff_of_executor hParse hFound rfl
          hFails.err hFails.flushes, hPart] at hOther
        have hWhole :=
          (execute_error_iff_of_executor hParse hThere rfl
            hFails.restored_err hFails.restored_flushes).2 hOther
        exact ((execute_error_iff hMachine hOrdinary line
          other).1 hWhole).kind
      · intro hSpeaks
        exact absurd
          (execute_writes_of_silent hParse hThere rfl
            hFails.restored_err hFails.restored_flushes hSilent)
          hSpeaks
  | cut hFault hWhole hBefore hPart =>
      cases hFails.out.symm.trans hFault
      constructor
      · intro other hOther
        rw [execute_error_iff_of_executor hParse hFound rfl
          hFails.err hFails.flushes, hPart] at hOther
        rcases hOther with ⟨hSame, hEnds⟩
        cases hSame
        rw [hStays] at hEnds
        cases hEnds
      · intro _
        have hFailed := congrArg Outcome.result hPart
        have hSilent : _ = [] :=
          (congrArg (Trace.written .err ·.trace) hPart).trans
            (Trace.written_of_writes (hBefore .err))
        have hTells :=
          execute_tellsFault hParse hFound rfl hFails.err
            hFails.flushes hFailed hStays hSilent
        exact ⟨command.name, command.args,
          (CommandLine.parse?_eq_some_iff line command).1 hParse,
          hTells⟩

/-
  While standard output fails, with any fault that does not end
  the shell, that fault is contained in every line but those
  with a missing name.  Such a line lets it out, and neither
  counts nor tells it.
-/
theorem failure_contained_iff
    (hMachine : M.FailsAsHost fits)
    (hBuiltins : w.builtins = Registry.standard)
    (hFits : fits w.files w.device)
    (hFails : w.OutFails fault)
    (hStays : fault.endsShell = false)
    (line : Text) :
    (ContainsFailure M w fault line ↔ ¬ Missing M w line) ∧
      (Missing M w line →
        (execute M line w).result = .error fault ∧
          (execute M line w).state = w.asked .out .write ∧
          ∀ channel,
            (execute M line w).trace.written channel = []) := by
  refine ⟨⟨?_, ?_⟩, execute_of_missing hFails⟩
  · intro hContains hMissing
    have hFault := (execute_of_missing hFails hMissing).1
    rcases hContains.lets _ hFault with
      ⟨code, rfl⟩ | ⟨text, code, rfl⟩
    · cases hStays
    · cases hStays
  · intro hNamed
    cases hParse : CommandLine.parse? line with
    | none =>
        constructor
        · intro other hOther
          rw [execute_of_empty M hParse] at hOther
          cases hOther
        · intro hSpeaks
          rw [execute_of_empty M hParse] at hSpeaks
          exact absurd rfl hSpeaks
    | some command =>
        rcases resolve_answers (hMachine.mode hFits)
            command.name with
          ⟨executor?, hResolve⟩
        cases executor? with
        | some executor =>
            exact execute_containsFailure hMachine hBuiltins
              hFits hFails hStays hParse hResolve
        | none =>
            have hWords :=
              (CommandLine.parse?_eq_some_iff line command).1
                hParse
            exact absurd
              ⟨command.name, command.args, hWords, hResolve⟩
              hNamed

/-
  A refused directory is itself reported on standard output.
  That this fails is told, and that the directory was refused
  is not.
-/
theorem failure_contained_iff_refused_directory :
    let tree : LexicalTree := LexicalTree.build "/" [] []
    let fault := Errno.noSpace.fault
    let w : World LexicalTree (Except Fault Int) :=
      { environment := [("HOME", "/home/u")]
        files := tree
        device := .ok 0
        streams :=
          ({} : Streams).answering .out .write fun _ => some fault }
    let done := execute LexicalTree.machine "cd ~/gone\n" w
    LexicalTree.machine.FailsAsHost LexicalTree.FailsAsHost ∧
      w.builtins = Registry.standard ∧
      LexicalTree.FailsAsHost w.files w.device ∧
      w.OutFails fault ∧
      fault.endsShell = false ∧
      ¬ Missing LexicalTree.machine w "cd ~/gone\n" ∧
      done.TellsFault "cd" fault := by
  intro tree fault w done
  have hMachine := LexicalTree.machine_failsAsHost
  have hTree : LexicalTree.FailsAsHost w.files w.device :=
    LexicalTree.failsAsHost_build _ _ _ 0
  have hFails : w.OutFails fault := World.outFails_of_answering rfl rfl
  have hWords :
      splitWords (stripTerminator "cd ~/gone\n") =
        ["cd".toList, "~/gone".toList] := by
    decide
  have hNamed : ¬ Missing LexicalTree.machine w "cd ~/gone\n" := by
    rintro ⟨name, args, hMissing, hResolve⟩
    cases hWords.symm.trans hMissing
    cases hResolve
  have hContains :=
    (failure_contained_iff hMachine rfl hTree hFails rfl
      "cd ~/gone\n").1.2 hNamed
  have hSpeaks :
      (execute LexicalTree.machine "cd ~/gone\n"
        w.restored).trace.writes .out ≠ [] := by
    decide +kernel
  rcases hContains.told hSpeaks with ⟨name, args, hName, hTells⟩
  cases hWords.symm.trans hName
  exact ⟨hMachine, rfl, hTree, hFails, rfl, hNamed, hTells⟩

/- The failure escapes from a line with a missing name. -/
theorem failure_escapes_missing_name :
    let fault := Errno.noSpace.fault
    let w : World LexicalTree (Except Fault Int) :=
      { environment := []
        files := LexicalTree.build "/" [] []
        device := .ok 0
        streams :=
          ({} : Streams).answering .out .write fun _ => some fault }
    let done := execute LexicalTree.machine "nope" w
    LexicalTree.machine.FailsAsHost LexicalTree.FailsAsHost ∧
      w.builtins = Registry.standard ∧
      LexicalTree.FailsAsHost w.files w.device ∧
      w.OutFails fault ∧
      done.result = .error fault ∧
      done.trace.written .err = [] ∧
      ¬ ContainsFailure LexicalTree.machine w fault "nope" := by
  intro fault w done
  have hTree : LexicalTree.FailsAsHost w.files w.device :=
    LexicalTree.failsAsHost_build _ _ _ 0
  have hFault : done.result = .error fault := rfl
  refine ⟨LexicalTree.machine_failsAsHost, rfl, hTree,
    World.outFails_of_answering rfl rfl, hFault, by decide, ?_⟩
  intro hContains
  rcases hContains.lets _ hFault with
    ⟨code, hExit⟩ | ⟨text, code, hFatal⟩
  · change Errno.noSpace.fault = .exit code at hExit
    cases hExit
  · change Errno.noSpace.fault = .fatal text code at hFatal
    cases hFatal

end Shell

end LineShell
