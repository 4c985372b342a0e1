import LineShell.Proofs.Builtin
import LineShell.Shell

/-
  How one line is executed, step by step.

  `Invocation.carryOut` runs an invocation on the world alone,
  and is what `Invocation.run` does.  From it come the outcome
  of an invocation by the way its executor ended, the outcome
  of a line by its invocation, and the effects that every line
  respects.

  Main declarations:
    * `Invocation.carryOut`
    * `Invocation.run_eq_carryOut`
    * `Effect.Line`
    * `Shell.execute_respects`
    * `Shell.execute_of_invocation`
    * `Shell.execute_tellsFault`
-/

------------------------------------------------------------
-- Invocations on the World Alone
------------------------------------------------------------

namespace LineShell

namespace Running

variable {φ δ α : Type}

@[simp] theorem inWorld_apply
    (m : Action (World φ δ) α)
    (r : Running φ δ) :
    inWorld m r =
      ⟨(m r.world).result, { r with world := (m r.world).state },
        (m r.world).trace⟩ :=
  rfl

@[simp] theorem settle_apply
    (status : Int)
    (r : Running φ δ) :
    settle status r = ⟨.ok (), { r with status := status }, []⟩ :=
  rfl

end Running

/- The world once both streams were asked to flush. -/
def World.passedOn
    {φ δ : Type}
    (w : World φ δ) : World φ δ :=
  (w.asked .out .flush).asked .err .flush

/- Streams that take every flush leave the world alike. -/
theorem World.passedOn_of_flushes
    {φ δ : Type}
    {w : World φ δ}
    (hFlushes : w.streams.Flushes) :
    w.passedOn = w := by
  unfold passedOn
  rw [asked_of_constant (hFlushes .out).constant,
    asked_of_constant (hFlushes .err).constant]

namespace Invocation

variable {φ δ : Type}
variable {w : World φ δ}

/- The answer of standard error does not depend on the other. -/
theorem flushBoth_of_out
    (hOut : w.streams.answer .out .flush = none) :
    flushBoth w =
      Outcome.after [.flushed .out]
        (World.flush .err (w.asked .out .flush)) := by
  simp [flushBoth, World.flush, World.operate_done hOut,
    Outcome.after]

/- Both streams flush if neither fails. -/
theorem flushBoth_done
    (hNext : w.streams.FlushesNext) :
    flushBoth w =
      ⟨.ok (), w.passedOn, [.flushed .out, .flushed .err]⟩ := by
  have hErr :
      (w.asked .out .flush).streams.answer .err .flush = none :=
    (Streams.answer_after (by decide)).trans (hNext .err)
  rw [flushBoth_of_out (hNext .out), World.flush,
    World.operate_done hErr]
  rfl

theorem flushBoth_accepted
    (hFlushes : w.streams.Flushes) :
    flushBoth w =
      ⟨.ok (), w, [.flushed .out, .flushed .err]⟩ := by
  rw [flushBoth_done hFlushes.next,
    World.passedOn_of_flushes hFlushes]

/- The first stream that fails is where it ends. -/
theorem flushBoth_failed
    (hNext : ¬ w.streams.FlushesNext) :
    ∃ fault,
      w.streams.FlushFails fault ∧
        (flushBoth w).result = .error fault := by
  cases hOut : w.streams.answer .out .flush with
  | some fault =>
      refine ⟨fault, ⟨.out, 0, hOut⟩, ?_⟩
      simp [flushBoth, World.flush, World.operate_failed hOut]
  | none =>
      cases hErr : w.streams.answer .err .flush with
      | none =>
          exact absurd
            (fun channel => by cases channel <;> assumption)
            hNext
      | some fault =>
          have hLater :
              (w.asked .out .flush).streams.answer .err .flush =
                some fault :=
            (Streams.answer_after (by decide)).trans hErr
          rw [flushBoth_of_out hOut, World.flush,
            World.operate_failed hLater]
          exact ⟨fault, ⟨.err, 0, hErr⟩, rfl⟩

/- Go on from how an executor ended. -/
def recover
    (invocation : Invocation) :
    Except Fault Int → Action (World φ δ) Int
  | .ok status => do
      flushBoth
      return status
  | .error fault =>
      if fault.endsShell then
        Action.raise fault
      else do
        reportFault invocation fault
        flushBoth
        return 1

/- Run an invocation without keeping a status beside the world. -/
def carryOut
    (M : Machine φ δ)
    (invocation : Invocation) : Action (World φ δ) Int :=
  match invocation.executor with
  | none => do
      World.write .out
        ((Fault.notFound invocation.name).message ++ "\n")
      return 127
  | some executor => do
      let ending ← Action.attempt (perform M invocation executor)
      recover invocation ending

/- A fault that may be swallowed is reported. -/
theorem conclude_swallowed
    {fault : Fault}
    (invocation : Invocation)
    (hEnds : fault.endsShell = false) :
    (conclude invocation (.error fault) :
      Action (Running φ δ) Unit) =
      (do
        Running.inWorld (reportFault invocation fault)
        Running.settle 1) := by
  simp [conclude, hEnds]

/- The status that is kept is the one that is answered. -/
theorem run_eq_carryOut
    (M : Machine φ δ)
    (invocation : Invocation) :
    run M invocation = carryOut M invocation := by
  funext w
  cases hExecutor : invocation.executor with
  | none =>
      simp only [run, execute, carryOut, hExecutor,
        Action.focus_apply, Action.bind_apply,
        Running.inWorld_apply]
      rcases World.write .out _ w with ⟨_ | _, v, trace⟩
      · rfl
      · simp
  | some executor =>
      simp only [run, execute, carryOut, hExecutor,
        Action.focus_apply, Action.bind_apply,
        Action.attempt_apply, Running.inWorld_apply,
        Outcome.andThen_ok]
      rcases perform M invocation executor w with
        ⟨fault | status, v, trace⟩
      · cases hEnds : fault.endsShell
        · simp only [conclude_swallowed invocation hEnds,
            recover, hEnds, Action.bind_apply,
            Running.inWorld_apply, Bool.false_eq_true, if_false]
          rcases reportFault invocation fault v with
            ⟨_ | _, u, told⟩
          · simp
          · simp only [Outcome.andThen_ok, Action.bind_apply,
              Running.settle_apply, Running.inWorld_apply]
            rcases flushBoth u with ⟨_ | _, x, flushed⟩
            · simp
            · simp
        · simp [conclude, recover, hEnds]
      · simp only [conclude, recover, Action.bind_apply,
          Running.settle_apply, Running.inWorld_apply,
          Outcome.andThen_ok]
        rcases flushBoth v with ⟨_ | _, u, flushed⟩
        · simp
        · simp

end Invocation

end LineShell

------------------------------------------------------------
-- Outcomes of Invocations
------------------------------------------------------------

namespace LineShell

namespace Invocation

variable {φ δ : Type}
variable {M : Machine φ δ}
variable {invocation : Invocation}
variable {executor : Executor}
variable {w : World φ δ}
variable {status : Int}
variable {fault : Fault}

/- The record of a command that ended with a fault. -/
def failed
    (invocation : Invocation) : Event :=
  .logged ⟨.debug, .process,
    "command " ++ Text.quoted invocation.name ++ " failed"⟩

/- What is told about a command that ended with a fault. -/
def report
    (invocation : Invocation)
    (fault : Fault) : Text :=
  "Error executing '" ++ invocation.name ++ "': " ++
    fault.message ++ "\n"

/- Without an executor, a name is told not to be found. -/
theorem run_of_no_executor
    (hExecutor : invocation.executor = none)
    (hOut : w.streams.Takes .out .write) :
    run M invocation w =
      ⟨.ok 127, w, [.wrote .out
        ((Fault.notFound invocation.name).message ++ "\n")]⟩ := by
  rw [run_eq_carryOut]
  simp only [carryOut, hExecutor, Action.bind_apply,
    World.write_accepted hOut, Outcome.andThen_ok,
    Action.pure_apply, List.append_nil]

/- With one, it is performed and its ending is handled. -/
theorem run_of_executor
    (hExecutor : invocation.executor = some executor) :
    run M invocation w =
      Outcome.after (perform M invocation executor w).trace
        (recover invocation (perform M invocation executor w).result
          (perform M invocation executor w).state) := by
  rw [run_eq_carryOut]
  simp [carryOut, hExecutor, Outcome.after]

theorem recover_ok
    (invocation : Invocation)
    (status : Int)
    (hFlushes : w.streams.Flushes) :
    recover invocation (.ok status) w =
      ⟨.ok status, w, [.flushed .out, .flushed .err]⟩ := by
  simp [recover, flushBoth_accepted hFlushes]

/- Only the fault of a flush takes the place of a status. -/
theorem recover_returned
    (invocation : Invocation)
    (status : Int)
    (w : World φ δ) :
    (recover invocation (.ok status) w).result = .ok status ∨
      ∃ fault,
        w.streams.FlushFails fault ∧
          (recover invocation (.ok status) w).result =
            .error fault := by
  by_cases hNext : w.streams.FlushesNext
  · apply Or.inl
    simp [recover, flushBoth_done hNext]
  · rcases flushBoth_failed hNext with ⟨fault, hFails, hResult⟩
    refine Or.inr ⟨fault, hFails, ?_⟩
    simp [recover, Outcome.andThen, hResult]

/- A fault that ends the shell is passed on. -/
theorem recover_ending
    (invocation : Invocation)
    (hEnds : fault.endsShell = true)
    (w : World φ δ) :
    recover invocation (.error fault) w =
      ⟨.error fault, w, []⟩ := by
  simp [recover, hEnds]

theorem reportFault_done
    (invocation : Invocation)
    (fault : Fault)
    (hErr : w.streams.answer .err .write = none) :
    reportFault invocation fault w =
      ⟨.ok (), w.asked .err .write,
        [invocation.failed,
          .wrote .err (invocation.report fault)]⟩ := by
  simp only [reportFault, World.write, Action.bind_apply,
    World.log_apply, Outcome.andThen_ok,
    World.operate_done hErr]
  rfl

theorem reportFault_told
    (invocation : Invocation)
    (fault : Fault)
    (hErr : w.streams.Takes .err .write) :
    reportFault invocation fault w =
      ⟨.ok (), w,
        [invocation.failed,
          .wrote .err (invocation.report fault)]⟩ := by
  rw [reportFault_done invocation fault hErr.answer,
    World.asked_of_constant hErr.constant]

theorem reportFault_untold
    {other : Fault}
    (invocation : Invocation)
    (fault : Fault)
    (hErr : w.streams.answer .err .write = some other) :
    reportFault invocation fault w =
      ⟨.error other, w.asked .err .write,
        [invocation.failed]⟩ := by
  simp only [reportFault, Action.bind_apply, World.log_apply,
    Outcome.andThen_ok, World.write_refused hErr]
  rfl

/- Any other fault is told and counts as status 1. -/
theorem recover_done
    (invocation : Invocation)
    (hEnds : fault.endsShell = false)
    (hErr : w.streams.answer .err .write = none)
    (hFlushes : w.streams.Flushes) :
    recover invocation (.error fault) w =
      ⟨.ok 1, w.asked .err .write,
        [invocation.failed, .wrote .err (invocation.report fault),
          .flushed .out, .flushed .err]⟩ := by
  have hLater : (w.asked .err .write).streams.Flushes :=
    (w.streams.later_after .err .write).flushes hFlushes
  simp [recover, hEnds, reportFault_done invocation fault hErr,
    flushBoth_accepted hLater]

theorem recover_told
    (invocation : Invocation)
    (hEnds : fault.endsShell = false)
    (hErr : w.streams.Takes .err .write)
    (hFlushes : w.streams.Flushes) :
    recover invocation (.error fault) w =
      ⟨.ok 1, w,
        [invocation.failed, .wrote .err (invocation.report fault),
          .flushed .out, .flushed .err]⟩ := by
  rw [recover_done invocation hEnds hErr.answer hFlushes,
    World.asked_of_constant hErr.constant]

/- A fault that cannot be told is replaced by why it cannot. -/
theorem recover_untold
    {other : Fault}
    (invocation : Invocation)
    (hEnds : fault.endsShell = false)
    (hErr : w.streams.answer .err .write = some other) :
    recover invocation (.error fault) w =
      ⟨.error other, w.asked .err .write,
        [invocation.failed]⟩ := by
  simp [recover, hEnds, reportFault_untold invocation fault hErr]

/-
  While standard output can be passed on, only standard error
  stands between a fault and status 1.
-/
theorem recover_result
    (invocation : Invocation)
    (hEnds : fault.endsShell = false)
    (hOut : w.streams.Takes .out .flush) :
    (recover invocation (.error fault) w).result =
      match (w.streams.answer .err .write).or
          (w.streams.answer .err .flush) with
      | none => .ok 1
      | some other => .error other := by
  cases hTold : w.streams.answer .err .write with
  | some other =>
      rw [recover_untold invocation hEnds hTold]
      rfl
  | none =>
      have hOutNext :
          (w.asked .err .write).streams.answer .out .flush =
            none :=
        (Streams.answer_after (by decide)).trans hOut.answer
      have hErrNext :
          ((w.asked .err .write).asked .out
            .flush).streams.answer .err .flush =
            w.streams.answer .err .flush :=
        (Streams.answer_after (by decide)).trans
          (Streams.answer_after (by decide))
      simp only [recover, hEnds, Bool.false_eq_true, if_false,
        Action.bind_apply,
        reportFault_done invocation fault hTold,
        Outcome.andThen_ok, flushBoth_of_out hOutNext]
      cases hFlush : w.streams.answer .err .flush with
      | none =>
          simp [World.flush, Outcome.after,
            World.operate_done (hErrNext.trans hFlush)]
      | some other =>
          simp [World.flush, Outcome.after,
            World.operate_failed (hErrNext.trans hFlush)]

end Invocation

end LineShell

------------------------------------------------------------
-- Outcomes of External Commands
------------------------------------------------------------

namespace LineShell

/- A child that cannot be started counts as status 1. -/
def Launch.counted
    {φ δ : Type}
    (launch : Launch φ δ) : Except Fault Int :=
  match launch.result with
  | .error (.spawn _ _) => .ok 1
  | result => result

namespace Invocation

variable {φ δ : Type}
variable {M : Machine φ δ}
variable {w : World φ δ}
variable {status : Int}
variable {fault : Fault}

/- What happens before a child is asked for. -/
def spawning
    (path : Path)
    (argv : List Text) : Trace :=
  [.flushed .out, .flushed .err,
    .logged ⟨.debug, .process,
      "spawning " ++ path ++ " argv=" ++ Text.quotedList argv⟩]

/- The record of a child that ended with a status. -/
def exited
    (argv : List Text)
    (status : Int) : Event :=
  .logged ⟨.debug, .process,
    argv.headD [] ++ " exited with status " ++ Text.ofInt status⟩

/- The record of a child that could not be started. -/
def unstarted
    (path : Path)
    (details : Text) : Event :=
  .logged ⟨.debug, .process,
    "cannot execute " ++ (Fault.spawn path details).message⟩

theorem external_of_ok
    (path : Path)
    (argv : List Text)
    (hNext : w.streams.FlushesNext)
    (hLaunch :
      (World.launch M ⟨path, argv⟩ w.passedOn).result =
        .ok status) :
    external M path argv w =
      ⟨.ok status, (World.launch M ⟨path, argv⟩ w.passedOn).state,
        spawning path argv ++
          (World.launch M ⟨path, argv⟩ w.passedOn).trace ++
          [exited argv status]⟩ := by
  simp [external, flushBoth_done hNext, hLaunch, spawning, exited]

theorem external_of_spawn
    (path program : Path)
    (argv : List Text)
    (details : Text)
    (hNext : w.streams.FlushesNext)
    (hLaunch :
      (World.launch M ⟨path, argv⟩ w.passedOn).result =
        .error (.spawn program details)) :
    external M path argv w =
      ⟨.ok 1, (World.launch M ⟨path, argv⟩ w.passedOn).state,
        spawning path argv ++
          (World.launch M ⟨path, argv⟩ w.passedOn).trace ++
          [unstarted program details]⟩ := by
  simp [external, flushBoth_done hNext, hLaunch, spawning,
    unstarted]

theorem external_of_error
    (path : Path)
    (argv : List Text)
    (hNext : w.streams.FlushesNext)
    (hLaunch :
      (World.launch M ⟨path, argv⟩ w.passedOn).result =
        .error fault)
    (hSpawn :
      ∀ program details, fault ≠ .spawn program details) :
    external M path argv w =
      ⟨.error fault,
        (World.launch M ⟨path, argv⟩ w.passedOn).state,
        spawning path argv ++
          (World.launch M ⟨path, argv⟩ w.passedOn).trace⟩ := by
  cases fault with
  | spawn program details =>
      exact absurd rfl (hSpawn program details)
  | _ =>
      simp [external, flushBoth_done hNext, hLaunch, spawning]

/- Where a flush fails, no child is asked for. -/
theorem external_of_failed_flush
    (M : Machine φ δ)
    (path : Path)
    (argv : List Text)
    (hFlush : (flushBoth w).result = .error fault) :
    external M path argv w =
      ⟨.error fault, (flushBoth w).state,
        (flushBoth w).trace⟩ := by
  unfold external
  rw [Action.bind_apply]
  unfold Outcome.andThen
  rw [hFlush]

/- An external command ends as its child counts. -/
theorem external_result
    (M : Machine φ δ)
    (path : Path)
    (argv : List Text)
    (hNext : w.streams.FlushesNext) :
    (external M path argv w).result =
      (w.child M ⟨path, argv⟩).counted := by
  unfold Launch.counted
  cases hLaunch : (w.child M ⟨path, argv⟩).result with
  | ok status => rw [external_of_ok path argv hNext hLaunch]
  | error fault =>
      cases fault with
      | spawn program details =>
          rw [external_of_spawn path program argv details hNext
            hLaunch]
      | _ =>
          rw [external_of_error path argv hNext hLaunch
            (fun _ _ hSpawn => by cases hSpawn)]

/- After its child, an external command only logs. -/
theorem external_after_launch
    (M : Machine φ δ)
    (path : Path)
    (argv : List Text)
    (hNext : w.streams.FlushesNext) :
    (external M path argv w).state =
        (World.launch M ⟨path, argv⟩ w.passedOn).state ∧
      ∃ records : List Record,
        (external M path argv w).trace =
          spawning path argv ++
            (World.launch M ⟨path, argv⟩ w.passedOn).trace ++
            records.map .logged := by
  cases hLaunch :
      (World.launch M ⟨path, argv⟩ w.passedOn).result with
  | ok status =>
      rw [external_of_ok path argv hNext hLaunch]
      exact ⟨rfl, [_], rfl⟩
  | error fault =>
      by_cases hSpawn :
          ∃ program details, fault = .spawn program details
      · rcases hSpawn with ⟨program, details, hFault⟩
        rw [hFault] at hLaunch
        rw [external_of_spawn path program argv details hNext
          hLaunch]
        exact ⟨rfl, [_], rfl⟩
      · have hOther : ∀ program details,
            fault ≠ .spawn program details :=
          fun program details hFault =>
            hSpawn ⟨program, details, hFault⟩
        rw [external_of_error path argv hNext hLaunch hOther]
        exact ⟨rfl, [], (List.append_nil _).symm⟩

end Invocation

end LineShell

------------------------------------------------------------
-- Passing Standard Output On
------------------------------------------------------------

namespace LineShell

namespace Outcome

variable {φ δ α : Type}
variable {done : Outcome (World φ δ) α}
variable {fault : Fault}

/- The outcome at whose end standard output is passed on. -/
def flushed
    (done : Outcome (World φ δ) α) : Outcome (World φ δ) α :=
  done.endedBy (World.flush .out)

theorem flushed_done
    (hDone : done.state.streams.answer .out .flush = none) :
    done.flushed =
      ⟨done.result, done.state.asked .out .flush,
        done.trace ++ [.flushed .out]⟩ := by
  simp [flushed, endedBy, World.flush, World.operate_done hDone]

/- If it cannot be passed on, that is how the outcome ends. -/
theorem flushed_failed
    (hFails :
      done.state.streams.answer .out .flush = some fault) :
    done.flushed =
      ⟨.error fault, done.state.asked .out .flush,
        done.trace⟩ := by
  simp [flushed, endedBy, World.flush,
    World.operate_failed hFails]

/- What came first still comes first. -/
theorem flushed_cons
    (event : Event)
    (done : Outcome (World φ δ) α) :
    flushed ⟨done.result, done.state, event :: done.trace⟩ =
      Outcome.after [event] done.flushed := by
  unfold flushed endedBy Outcome.after
  dsimp only
  cases (World.flush .out done.state).result with
  | ok _ => rfl
  | error fault => rfl

/- All that is passed on is what was there before. -/
theorem flushed_trace
    (done : Outcome (World φ δ) α) :
    done.flushed.trace = done.trace ∨
      done.flushed.trace = done.trace ++ [.flushed .out] := by
  cases hAnswer : done.state.streams.answer .out .flush with
  | none => exact Or.inr (by rw [flushed_done hAnswer])
  | some fault => exact Or.inl (by rw [flushed_failed hAnswer])

theorem flushed_state
    (done : Outcome (World φ δ) α) :
    done.flushed.state = done.state.asked .out .flush := by
  cases hAnswer : done.state.streams.answer .out .flush with
  | none => rw [flushed_done hAnswer]
  | some fault => rw [flushed_failed hAnswer]

/- Only the fault of the stream takes the place of the result. -/
theorem flushed_result
    (done : Outcome (World φ δ) α) :
    done.flushed.result =
      match done.state.streams.answer .out .flush with
      | none => done.result
      | some fault => .error fault := by
  cases hAnswer : done.state.streams.answer .out .flush with
  | none => rw [flushed_done hAnswer]
  | some fault => rw [flushed_failed hAnswer]

theorem flushed_accepted
    (hTakes : done.state.streams.Takes .out .flush) :
    done.flushed =
      ⟨done.result, done.state,
        done.trace ++ [.flushed .out]⟩ := by
  rw [flushed_done hTakes.answer,
    World.asked_of_constant hTakes.constant]

end Outcome

end LineShell

------------------------------------------------------------
-- Outcomes of Lines
------------------------------------------------------------

namespace LineShell

namespace World

variable {φ δ : Type}

/- The status of a completed command is remembered. -/
def concluded
    (w : World φ δ) : Except Fault Int → World φ δ
  | .ok status => { w with lastStatus := status }
  | .error _ => w

theorem concluded_files
    (w : World φ δ)
    (result : Except Fault Int) :
    (w.concluded result).files = w.files := by
  cases result with
  | ok status => rfl
  | error fault => rfl

theorem concluded_streams
    (w : World φ δ)
    (result : Except Fault Int) :
    (w.concluded result).streams = w.streams := by
  cases result with
  | ok status => rfl
  | error fault => rfl

end World

namespace Shell

variable {φ δ : Type}
variable {M : Machine φ δ}
variable {command : CommandLine}
variable {found : Invocation}
variable {line : Text}
variable {w : World φ δ}
variable {fault : Fault}

/- The record of the words of a line. -/
def tokens
    (command : CommandLine) : Event :=
  .logged ⟨.debug, .shell,
    "tokens: " ++ Text.quoted command.name ++ " " ++
      Text.quotedList command.args⟩

/- The record of a builtin that is dispatched. -/
def dispatching
    (name : Text) : Event :=
  .logged ⟨.debug, .shell, "dispatching builtin " ++ name⟩

/- A builtin is dispatched without a search. -/
theorem invocation_of_builtin
    {builtin : Builtin}
    (hBuiltin :
      w.builtins.builtin? command.name = some builtin) :
    invocation M command w =
      ⟨.ok ⟨command.name, command.args, some (.builtin builtin)⟩,
        w, [dispatching command.name]⟩ := by
  simp [invocation, hBuiltin, dispatching]

/- Any other name is searched for. -/
theorem invocation_of_search
    (hBuiltin : w.builtins.builtin? command.name = none) :
    invocation M command w =
      (Builtin.findExecutable M command.name w).andThen fun path? =>
        pure ⟨command.name, command.args,
          path?.map .external⟩ := by
  simp [invocation, hBuiltin]

theorem invocation_of_find
    {path? : Option Path}
    (hBuiltin : w.builtins.builtin? command.name = none)
    (hFind :
      (Search.find M.files w.environment w.files
        command.name).result = .ok path?) :
    invocation M command w =
      ⟨.ok ⟨command.name, command.args, path?.map .external⟩, w,
        (Search.find M.files w.environment w.files
          command.name).trace⟩ := by
  rw [invocation_of_search hBuiltin]
  simp [Builtin.findExecutable, Outcome.andThen, hFind]

theorem invocation_of_find_fault
    (hBuiltin : w.builtins.builtin? command.name = none)
    (hFind :
      (Search.find M.files w.environment w.files
        command.name).result = .error fault) :
    invocation M command w =
      ⟨.error fault, w,
        (Search.find M.files w.environment w.files
          command.name).trace⟩ := by
  rw [invocation_of_search hBuiltin]
  simp [Builtin.findExecutable, Outcome.andThen, hFind]

/- Preparing a command changes nothing. -/
theorem invocation_state
    (M : Machine φ δ)
    (command : CommandLine)
    (w : World φ δ) :
    (invocation M command w).state = w := by
  cases hBuiltin : w.builtins.builtin? command.name with
  | some builtin => rw [invocation_of_builtin hBuiltin]
  | none =>
      cases hFind :
          (Search.find M.files w.environment w.files
            command.name).result with
      | ok path? => rw [invocation_of_find hBuiltin hFind]
      | error fault =>
          rw [invocation_of_find_fault hBuiltin hFind]

theorem runCommand_of_invocation
    (hFound : (invocation M command w).result = .ok found) :
    runCommand M command w =
      ⟨(found.run M w).result,
        (found.run M w).state.concluded (found.run M w).result,
        (invocation M command w).trace ++
          (found.run M w).trace⟩ := by
  have hState := invocation_state M command w
  cases hRun : (found.run M w).result with
  | ok status =>
      simp [runCommand, Outcome.andThen, hFound, hState, hRun,
        World.concluded]
  | error fault =>
      simp [runCommand, Outcome.andThen, hFound, hState, hRun,
        World.concluded]

theorem runCommand_of_fault
    (hFault : (invocation M command w).result = .error fault) :
    runCommand M command w =
      ⟨.error fault, w, (invocation M command w).trace⟩ := by
  have hState := invocation_state M command w
  simp [runCommand, Outcome.andThen, hFault, hState]

/- An empty line does nothing. -/
theorem execute_of_empty
    (M : Machine φ δ)
    (hParse : CommandLine.parse? line = none)
    (w : World φ δ) :
    execute M line w = ⟨.ok w.lastStatus, w, []⟩ := by
  simp [execute, hParse]

/- Any other line runs its command and flushes. -/
theorem execute_of_command
    (M : Machine φ δ)
    (hParse : CommandLine.parse? line = some command)
    (w : World φ δ) :
    execute M line w =
      Outcome.flushed
        ⟨(runCommand M command w).result,
          (runCommand M command w).state,
          tokens command :: (runCommand M command w).trace⟩ := by
  simp only [execute, hParse, Action.bind_apply,
    World.log_apply, Outcome.andThen_ok, Action.ensuring_apply,
    Outcome.flushed, Outcome.endedBy]
  cases (World.flush .out (runCommand M command w).state).result with
  | ok _ => rfl
  | error fault => rfl

theorem execute_of_invocation
    (hParse : CommandLine.parse? line = some command)
    (hFound : (invocation M command w).result = .ok found) :
    execute M line w =
      Outcome.flushed
        ⟨(found.run M w).result,
          (found.run M w).state.concluded (found.run M w).result,
          tokens command :: (invocation M command w).trace ++
            (found.run M w).trace⟩ := by
  rw [execute_of_command M hParse,
    runCommand_of_invocation hFound]
  rfl

/- The line of a builtin runs it. -/
theorem execute_of_builtin
    {builtin : Builtin}
    (hParse : CommandLine.parse? line = some command)
    (hBuiltin :
      w.builtins.builtin? command.name = some builtin) :
    execute M line w =
      let ran := builtin.run M command.name command.args w
      let ended := Invocation.recover
        ⟨command.name, command.args, some (.builtin builtin)⟩
        ran.result ran.state
      Outcome.flushed
        ⟨ended.result, ended.state.concluded ended.result,
          [tokens command, dispatching command.name] ++
            (ran.trace ++ ended.trace)⟩ := by
  have hInvocation :=
    invocation_of_builtin (M := M) hBuiltin
  have hFound :
      (invocation M command w).result =
        .ok ⟨command.name, command.args,
          some (.builtin builtin)⟩ := by
    rw [hInvocation]
  rw [execute_of_invocation hParse hFound, hInvocation,
    Invocation.run_of_executor rfl]
  rfl

/- The line of a builtin that returns has its status. -/
theorem execute_of_builtin_ok
    {builtin : Builtin}
    {left : World φ δ}
    {status : Int}
    {trace : Trace}
    (hParse : CommandLine.parse? line = some command)
    (hBuiltin :
      w.builtins.builtin? command.name = some builtin)
    (hRan :
      builtin.run M command.name command.args w =
        ⟨.ok status, left, trace⟩)
    (hFlushes : left.streams.Flushes) :
    execute M line w =
      ⟨.ok status, { left with lastStatus := status },
        [tokens command, dispatching command.name] ++ trace ++
          [.flushed .out, .flushed .err, .flushed .out]⟩ := by
  have hLine := execute_of_builtin (M := M) hParse hBuiltin
  simp only [hRan, Invocation.recover_ok _ status hFlushes]
    at hLine
  rw [hLine]
  have hTakes :
      (left.concluded (.ok status)).streams.Takes .out .flush :=
    hFlushes .out
  rw [Outcome.flushed_accepted hTakes]
  simp [World.concluded]

/- The line of a name that is found runs an external command. -/
theorem execute_of_path
    {path : Path}
    (hParse : CommandLine.parse? line = some command)
    (hBuiltin : w.builtins.builtin? command.name = none)
    (hFind :
      (Search.find M.files w.environment w.files
        command.name).result = .ok (some path)) :
    execute M line w =
      let ran := Invocation.external M path command.words w
      let ended := Invocation.recover
        ⟨command.name, command.args, some (.external path)⟩
        ran.result ran.state
      Outcome.flushed
        ⟨ended.result, ended.state.concluded ended.result,
          tokens command ::
            (Search.find M.files w.environment w.files
              command.name).trace ++
            (ran.trace ++ ended.trace)⟩ := by
  have hInvocation := invocation_of_find hBuiltin hFind
  have hFound :
      (invocation M command w).result =
        .ok ⟨command.name, command.args,
          some (.external path)⟩ := by
    rw [hInvocation]
    rfl
  rw [execute_of_invocation hParse hFound, hInvocation,
    Invocation.run_of_executor rfl]
  rfl

end Shell

end LineShell

------------------------------------------------------------
-- Effects of Lines
------------------------------------------------------------

namespace LineShell

/- What is passed on at the end has the effect, too. -/
theorem Outcome.flushed_respects
    {φ δ α : Type}
    {R : Effect (World φ δ)}
    (hR : R.Speech)
    {w : World φ δ}
    {done : Outcome (World φ δ) α}
    (hDone : R w done.trace done.state) :
    R w done.flushed.trace done.flushed.state := by
  cases hAnswer : done.state.streams.answer .out .flush with
  | none =>
      rw [flushed_done hAnswer]
      exact hR.join hDone (hR.flushed _ .out)
  | some fault =>
      rw [flushed_failed hAnswer]
      have hBoth := hR.join hDone (hR.failed _ .out .flush)
      rw [List.append_nil] at hBoth
      exact hBoth

/- Children and the end of a command have the effect, too. -/
structure Effect.Line
    {φ δ : Type}
    (M : Machine φ δ)
    (R : Effect (World φ δ)) : Prop
    extends Lookup R, Travel M R where
  launch : ∀ request, (World.launch M request).Respects R
  remember : ∀ w status, R w [] { w with lastStatus := status }

namespace Invocation

variable {φ δ : Type}
variable {R : Effect (World φ δ)}
variable {M : Machine φ δ}

theorem flushBoth_respects
    (hR : R.Speech) :
    (flushBoth : Action (World φ δ) Unit).Respects R := by
  apply Action.Respects.bind hR.toComposes
    (World.flush_respects hR .out)
  intro _
  exact World.flush_respects hR .err

theorem recover_respects
    (hR : R.Speech)
    (invocation : Invocation)
    (ending : Except Fault Int) :
    (recover invocation ending :
      Action (World φ δ) Int).Respects R := by
  have hFlush (status : Int) :
      (do
        flushBoth
        return status : Action (World φ δ) Int).Respects R := by
    apply Action.Respects.bind hR.toComposes
      (flushBoth_respects hR)
    intro _
    exact Action.Respects.pure hR.toComposes status
  cases ending with
  | ok status => exact hFlush status
  | error fault =>
      by_cases hEnds : fault.endsShell
      · simp only [recover, hEnds, if_true]
        exact Action.Respects.raise hR.toComposes fault
      · simp only [recover, hEnds]
        apply Action.Respects.bind hR.toComposes
        · apply Action.Respects.bind hR.toComposes
            (World.log_respects hR _ _)
          intro _
          exact World.write_respects hR _ _
        · intro _
          exact hFlush 1

theorem external_respects
    (hR : R.Speech)
    (path : Path)
    (argv : List Text)
    (hLaunch : (World.launch M ⟨path, argv⟩).Respects R) :
    (external M path argv).Respects R := by
  apply Action.Respects.bind hR.toComposes
    (flushBoth_respects hR)
  intro _
  apply Action.Respects.bind hR.toComposes
    (World.log_respects hR _ _)
  intro _
  apply Action.Respects.bind hR.toComposes
    (Action.Respects.attempt hLaunch)
  intro ending
  have hLog (message : Text) (status : Int) :
      (do
        World.log .process message
        return status : Action (World φ δ) Int).Respects R := by
    apply Action.Respects.bind hR.toComposes
      (World.log_respects hR _ _)
    intro _
    exact Action.Respects.pure hR.toComposes status
  split
  · exact hLog _ _
  · exact hLog _ _
  · exact Action.Respects.raise hR.toComposes _

/- Where a flush fails, an external command only speaks. -/
theorem external_speaks
    (hR : R.Speech)
    (M : Machine φ δ)
    (path : Path)
    (argv : List Text)
    {w : World φ δ}
    (hNext : ¬ w.streams.FlushesNext) :
    R w (external M path argv w).trace
      (external M path argv w).state := by
  rcases flushBoth_failed hNext with ⟨fault, -, hFlush⟩
  rw [external_of_failed_flush M path argv hFlush]
  exact flushBoth_respects hR w

/-
  An executor respects what speech, searches, moves and
  external commands respect.
-/
theorem perform_respects_of_external
    (hLookup : R.Lookup)
    (hTravel : R.Travel M)
    (hExternal :
      ∀ path argv, (external M path argv).Respects R)
    (invocation : Invocation)
    (executor : Executor) :
    (perform M invocation executor).Respects R := by
  cases executor with
  | builtin builtin =>
      exact Builtin.run_respects hLookup.toSpeech builtin
        (fun _ => hLookup) (fun _ => hTravel) _ _
  | external path => exact hExternal path _

theorem perform_respects
    (hR : R.Line M)
    (invocation : Invocation)
    (executor : Executor) :
    (perform M invocation executor).Respects R := by
  apply perform_respects_of_external hR.toLookup hR.toTravel
  intro path argv
  exact external_respects hR.toSpeech path argv (hR.launch _)

/- A run respects what its executor respects, if it has one. -/
theorem run_respects_of_perform
    (hR : R.Speech)
    (invocation : Invocation)
    (hPerform :
      ∀ executor, invocation.executor = some executor →
        (perform M invocation executor).Respects R) :
    (run M invocation).Respects R := by
  rw [run_eq_carryOut]
  cases hExecutor : invocation.executor with
  | none =>
      simp only [carryOut, hExecutor]
      exact World.say_respects hR _ _ _
  | some executor =>
      simp only [carryOut, hExecutor]
      apply Action.Respects.bind hR.toComposes
        (Action.Respects.attempt (hPerform executor hExecutor))
      intro ending
      exact recover_respects hR invocation ending

end Invocation

namespace Shell

variable {φ δ : Type}
variable {R : Effect (World φ δ)}
variable {M : Machine φ δ}
variable {command : CommandLine}
variable {line : Text}
variable {w : World φ δ}

theorem invocation_respects
    (hR : R.Quiet)
    (command : CommandLine) :
    (invocation M command).Respects R := by
  intro w
  cases hBuiltin : w.builtins.builtin? command.name with
  | some builtin =>
      rw [invocation_of_builtin hBuiltin]
      exact hR.logged w _
  | none =>
      rw [invocation_of_search hBuiltin]
      apply Action.Respects.bind hR.toComposes
        (Builtin.findExecutable_respects hR M command.name)
      intro path?
      exact Action.Respects.pure hR.toComposes _

/-
  A line respects what its preparation and the run of the
  prepared invocation respect.
-/
theorem execute_respects_of_run
    (hR : R.Speech)
    (hRemember : ∀ w status, R w [] { w with lastStatus := status })
    (hParse : CommandLine.parse? line = some command)
    (hInvocation : R w (invocation M command w).trace w)
    (hRun :
      ∀ found, (invocation M command w).result = .ok found →
        (found.run M).Respects R) :
    R w (execute M line w).trace (execute M line w).state := by
  have hTokens : R w [tokens command] w := hR.logged w _
  have hPrepared := hR.join hTokens hInvocation
  cases hFound : (invocation M command w).result with
  | error fault =>
      rw [execute_of_command M hParse, runCommand_of_fault hFound]
      exact Outcome.flushed_respects hR hPrepared
  | ok found =>
      have hRan := hR.join hPrepared (hRun found hFound w)
      have hConcluded :
          R (found.run M w).state [] ((found.run M w).state.concluded
            (found.run M w).result) := by
        cases (found.run M w).result with
        | ok status => exact hRemember _ status
        | error fault => exact hR.still _
      rw [execute_of_invocation hParse hFound]
      have hDone := hR.join hRan hConcluded
      rw [List.append_nil] at hDone
      exact Outcome.flushed_respects hR hDone

/-
  A line respects what speech, searches, moves and external
  commands respect.
-/
theorem execute_respects_of_external
    (hLookup : R.Lookup)
    (hTravel : R.Travel M)
    (hExternal :
      ∀ path argv,
        (Invocation.external M path argv).Respects R)
    (hRemember : ∀ w status, R w [] { w with lastStatus := status })
    (line : Text) :
    (execute M line).Respects R := by
  intro w
  cases hParse : CommandLine.parse? line with
  | none =>
      rw [execute_of_empty M hParse]
      exact hLookup.still w
  | some command =>
      have hInvocation :=
        invocation_respects (M := M) hLookup.toQuiet command w
      rw [invocation_state] at hInvocation
      apply execute_respects_of_run hLookup.toSpeech hRemember
        hParse hInvocation
      intro found _
      apply Invocation.run_respects_of_perform hLookup.toSpeech
      intro executor _
      exact Invocation.perform_respects_of_external hLookup hTravel
        hExternal found executor

/- Every line respects an effect that all its parts respect. -/
theorem execute_respects
    (hR : R.Line M)
    (line : Text) :
    (execute M line).Respects R := by
  apply execute_respects_of_external hR.toLookup hR.toTravel
  · intro path argv
    exact Invocation.external_respects hR.toSpeech path argv
      (hR.launch _)
  · exact hR.remember

end Shell

end LineShell

------------------------------------------------------------
-- What No Line Changes
------------------------------------------------------------

namespace LineShell

/-
  Two worlds with the same environment and builtins, and with
  streams of which only operations were asked in between.
-/
structure World.SameSetting
    {φ δ : Type}
    (before after : World φ δ) : Prop where
  environment : after.environment = before.environment
  builtins : after.builtins = before.builtins
  streams : before.streams.Later after.streams

namespace Effect

variable {φ δ : Type}

/- The setting stays, and no line of input is asked for. -/
def steady : Effect (World φ δ) :=
  fun before trace after =>
    World.SameSetting before after ∧ trace.awaits = 0

theorem steady_line
    (M : Machine φ δ) :
    (steady : Effect (World φ δ)).Line M where
  still := fun w => ⟨⟨rfl, rfl, .refl _⟩, rfl⟩
  join := by
    rintro w₁ t₁ w₂ t₂ w₃ ⟨hSame₁, hAwaits₁⟩ ⟨hSame₂, hAwaits₂⟩
    refine ⟨⟨?_, ?_, ?_⟩, ?_⟩
    · exact hSame₂.environment.trans hSame₁.environment
    · exact hSame₂.builtins.trans hSame₁.builtins
    · exact hSame₁.streams.trans hSame₂.streams
    · rw [Trace.awaits_append, hAwaits₁, hAwaits₂]
  wrote := fun w channel _ =>
    ⟨⟨rfl, rfl, w.streams.later_after channel .write⟩, rfl⟩
  flushed := fun w channel =>
    ⟨⟨rfl, rfl, w.streams.later_after channel .flush⟩, rfl⟩
  failed := fun w channel operation =>
    ⟨⟨rfl, rfl, w.streams.later_after channel operation⟩, rfl⟩
  logged := fun w _ => ⟨⟨rfl, rfl, .refl _⟩, rfl⟩
  probed := fun w _ => ⟨⟨rfl, rfl, .refl _⟩, rfl⟩
  enter := by
    intro path w
    unfold World.enterDirectory
    cases M.files.enter w.files path with
    | ok files => exact ⟨⟨rfl, rfl, .refl _⟩, rfl⟩
    | error fault => exact ⟨⟨rfl, rfl, .refl _⟩, rfl⟩
  launch := by
    intro request w
    exact ⟨⟨rfl, rfl, .refl _⟩, Trace.awaits_ofChild _⟩
  remember := fun w _ => ⟨⟨rfl, rfl, .refl _⟩, rfl⟩

end Effect

namespace Shell

variable {φ δ : Type}

/- A line changes no setting. -/
theorem execute_sameSetting
    (M : Machine φ δ)
    (line : Text)
    (w : World φ δ) :
    World.SameSetting w (execute M line w).state :=
  (execute_respects (Effect.steady_line M) line w).1

/- Executing a line reads no input. -/
theorem execute_awaits
    (M : Machine φ δ)
    (line : Text)
    (w : World φ δ) :
    (execute M line w).trace.awaits = 0 :=
  (execute_respects (Effect.steady_line M) line w).2

/- Running a command only asks operations of the streams. -/
theorem runCommand_streams
    (M : Machine φ δ)
    (command : CommandLine)
    (w : World φ δ) :
    w.streams.Later (runCommand M command w).state.streams := by
  cases hFound : (invocation M command w).result with
  | error fault =>
      rw [runCommand_of_fault hFound]
      exact .refl _
  | ok found =>
      have hSteady :=
        Invocation.run_respects_of_perform
          (Effect.steady_line M).toSpeech found
          (fun executor _ =>
            Invocation.perform_respects (Effect.steady_line M)
              found executor) w
      rw [runCommand_of_invocation hFound]
      exact (World.concluded_streams _ _).symm ▸ hSteady.1.streams

/-
  While standard output can be passed on, a line ends as its
  command, and passes it on.
-/
theorem execute_of_flushes
    {command : CommandLine}
    {line : Text}
    {w : World φ δ}
    (M : Machine φ δ)
    (hParse : CommandLine.parse? line = some command)
    (hOut : w.streams.Takes .out .flush) :
    execute M line w =
      ⟨(runCommand M command w).result,
        (runCommand M command w).state,
        tokens command :: (runCommand M command w).trace ++
          [.flushed .out]⟩ := by
  rw [execute_of_command M hParse, Outcome.flushed_accepted]
  exact (runCommand_streams M command w).takes hOut

end Shell

end LineShell

------------------------------------------------------------
-- Faults of Executors
------------------------------------------------------------

namespace LineShell

/-
  The run counts as status 1, and tells on standard error that
  the command failed with the fault.
-/
structure Outcome.TellsFault
    {φ δ : Type}
    (done : Outcome (World φ δ) Int)
    (name : Text)
    (fault : Fault) : Prop where
  result : done.result = .ok 1
  remembered : done.state.lastStatus = 1
  err :
    done.trace.written .err =
      "Error executing '" ++ name ++ "': " ++ fault.message ++
        "\n"

namespace Shell

variable {φ δ : Type}
variable {M : Machine φ δ}
variable {command : CommandLine}
variable {found : Invocation}
variable {executor : Executor}
variable {line : Text}
variable {w : World φ δ}
variable {fault : Fault}

/-
  While standard output can be passed on, a line ends as the
  run of its invocation.
-/
theorem execute_result
    (hParse : CommandLine.parse? line = some command)
    (hFound : (invocation M command w).result = .ok found)
    (hOut : w.streams.Takes .out .flush) :
    (execute M line w).result = (found.run M w).result := by
  rw [execute_of_flushes M hParse hOut,
    runCommand_of_invocation hFound]

/-
  A fault of an executor that does not end the shell becomes
  status 1.  It can only be let out as another fault: the first
  one of the stream on which it should have been told.
-/
theorem execute_of_executor_fault
    (hParse : CommandLine.parse? line = some command)
    (hFound : (invocation M command w).result = .ok found)
    (hExecutor : found.executor = some executor)
    (hFault :
      (found.perform M executor w).result = .error fault)
    (hEnds : fault.endsShell = false)
    (hOut : w.streams.Takes .out .flush) :
    let left := (found.perform M executor w).state
    (execute M line w).result =
      match (left.streams.answer .err .write).or
          (left.streams.answer .err .flush) with
      | none => .ok 1
      | some other => .error other := by
  intro left
  have hLater : w.streams.Later left.streams :=
    (Invocation.perform_respects (Effect.steady_line M)
      found executor w).1.streams
  rw [execute_result hParse hFound hOut,
    Invocation.run_of_executor hExecutor, hFault]
  exact Invocation.recover_result found hEnds
    (hLater.takes hOut)

/- Preparing a command writes nothing. -/
theorem invocation_written
    (M : Machine φ δ)
    (command : CommandLine)
    (w : World φ δ)
    (channel : Channel) :
    (invocation M command w).trace.written channel = [] :=
  invocation_respects (Effect.mute_quiet channel) command w

/- What is told about it is all that is on standard error. -/
theorem execute_tellsFault
    (hParse : CommandLine.parse? line = some command)
    (hFound : (invocation M command w).result = .ok found)
    (hExecutor : found.executor = some executor)
    (hErr : w.streams.Takes .err .write)
    (hFlushes : w.streams.Flushes)
    (hFault :
      (found.perform M executor w).result = .error fault)
    (hEnds : fault.endsShell = false)
    (hSilent :
      (found.perform M executor w).trace.written .err = []) :
    (execute M line w).TellsFault found.name fault := by
  have hSame :=
    (Invocation.perform_respects (Effect.steady_line M)
      found executor w).1
  have hRun :
      found.run M w =
        ⟨.ok 1, (found.perform M executor w).state,
          (found.perform M executor w).trace ++
            [found.failed, .wrote .err (found.report fault),
              .flushed .out, .flushed .err]⟩ := by
    rw [Invocation.run_of_executor hExecutor, hFault,
      Invocation.recover_told found hEnds
        (hSame.streams.takes hErr)
        (hSame.streams.flushes hFlushes)]
    rfl
  have hPrepared := invocation_written M command w .err
  rw [execute_of_invocation hParse hFound, hRun,
    Outcome.flushed_accepted]
  · refine ⟨rfl, rfl, ?_⟩
    calc
      Trace.written .err
          (tokens command :: (invocation M command w).trace ++
            ((found.perform M executor w).trace ++
              [found.failed, .wrote .err (found.report fault),
                .flushed .out, .flushed .err]) ++
            [.flushed .out])
        = (Trace.written .err (invocation M command w).trace ++
            ((found.perform M executor w).trace.written .err ++
              (found.report fault ++ []))) ++ [] := by
          rw [Trace.written_append, List.cons_append,
            Trace.written_cons, Trace.written_append,
            Trace.written_append]
          rfl
      _ = found.report fault := by
          rw [hPrepared, hSilent, List.append_nil,
            List.append_nil]
          rfl
  · exact hSame.streams.takes (hFlushes .out)

end Shell

end LineShell
