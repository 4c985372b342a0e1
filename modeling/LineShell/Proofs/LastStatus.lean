import LineShell.LexicalTree
import LineShell.Proofs.Buffering
import LineShell.Proofs.CommandLine

/-
  The last status is that of the last command that completed.

  A call is one execution of a line.  Its command completes if
  it returns; the call itself can still fail after that, when
  standard output is passed on.  The calls of a session are
  those of its single lines and those of its runs, in order.

  Main declarations:
    * `Call`
    * `Call.completed?`
    * `Call.latest`
    * `Call.ended_lastStatus`
    * `Shell.lineCalls`
    * `Shell.run_lastStatus`
    * `Shell.sessionCalls`
    * `Shell.play_remembers_completed`
-/

------------------------------------------------------------
-- Calls
------------------------------------------------------------

namespace LineShell

/- One execution of a line, from a state of the world. -/
structure Call (φ δ : Type) where
  line : Text
  world : World φ δ

namespace Call

variable {φ δ : Type}

/- How the call ended. -/
def ended
    (M : Machine φ δ)
    (call : Call φ δ) : Outcome (World φ δ) Int :=
  Shell.execute M call.line call.world

/-
  What its command did, before standard output was passed on.
  An empty line has no command.
-/
def performed?
    (M : Machine φ δ)
    (call : Call φ δ) : Option (Outcome (World φ δ) Int) :=
  (CommandLine.parse? call.line).map fun command =>
    Shell.runCommand M command call.world

/- The status that its command returned, if it did. -/
def completed?
    (M : Machine φ δ)
    (call : Call φ δ) : Option Int :=
  (call.performed? M).bind fun performed =>
    performed.result.toOption

/-
  The status of the last of some calls whose command completed,
  or the one before them all, if none did.
-/
def latest
    (M : Machine φ δ)
    (before : Int)
    (calls : List (Call φ δ)) : Int :=
  (calls.filterMap (completed? M)).getLast?.getD before

variable {M : Machine φ δ}

/- Later calls count from where the first ones have led. -/
theorem latest_append
    (before : Int)
    (first later : List (Call φ δ)) :
    latest M before (first ++ later) =
      latest M (latest M before first) later := by
  unfold latest
  rw [List.filterMap_append, List.getLast?_append]
  cases (later.filterMap (completed? M)).getLast? with
  | none => rfl
  | some status => rfl

theorem latest_cons
    (before : Int)
    (call : Call φ δ)
    (later : List (Call φ δ)) :
    latest M before (call :: later) =
      latest M ((call.completed? M).getD before) later := by
  have hSingle :
      latest M before [call] =
        (call.completed? M).getD before := by
    unfold latest
    cases hCompleted : call.completed? M with
    | none => simp [hCompleted]
    | some status => simp [hCompleted]
  rw [← hSingle, ← latest_append]
  rfl

end Call

end LineShell

------------------------------------------------------------
-- One Call
------------------------------------------------------------

namespace LineShell

namespace Effect

variable {φ δ : Type}

/- The last status stays as it is. -/
def sameStatus : Effect (World φ δ) :=
  fun before _ after => after.lastStatus = before.lastStatus

theorem sameStatus_lookup :
    (sameStatus : Effect (World φ δ)).Lookup where
  still := fun _ => rfl
  join := fun hFirst hSecond => hSecond.trans hFirst
  wrote := fun _ _ _ => rfl
  flushed := fun _ _ => rfl
  failed := fun _ _ _ => rfl
  logged := fun _ _ => rfl
  probed := fun _ _ => rfl

theorem sameStatus_travel
    (M : Machine φ δ) :
    (sameStatus : Effect (World φ δ)).Travel M where
  toSpeech := sameStatus_lookup.toSpeech
  enter := by
    intro path w
    unfold World.enterDirectory
    cases M.files.enter w.files path with
    | ok files => rfl
    | error fault => rfl

end Effect

namespace Shell

variable {φ δ : Type}

/- No invocation remembers a status by itself. -/
theorem invocation_run_lastStatus
    (M : Machine φ δ)
    (found : Invocation)
    (w : World φ δ) :
    (found.run M w).state.lastStatus = w.lastStatus := by
  have hSpeech := (Effect.sameStatus_lookup (φ := φ) (δ := δ)).toSpeech
  apply Invocation.run_respects_of_perform hSpeech
  intro executor _
  apply Invocation.perform_respects_of_external
    Effect.sameStatus_lookup (Effect.sameStatus_travel M)
  intro path argv
  exact Invocation.external_respects hSpeech path argv
    fun _ => rfl

/- A command remembers the status that it returns, and no other. -/
theorem runCommand_lastStatus
    (M : Machine φ δ)
    (command : CommandLine)
    (w : World φ δ) :
    (runCommand M command w).state.lastStatus =
      (runCommand M command w).result.toOption.getD
        w.lastStatus := by
  cases hFound : (invocation M command w).result with
  | error fault =>
      rw [runCommand_of_fault hFound]
      rfl
  | ok found =>
      have hRun := invocation_run_lastStatus M found w
      rw [runCommand_of_invocation hFound]
      cases hResult : (found.run M w).result with
      | ok status => rfl
      | error fault => exact hRun

end Shell

namespace Call

variable {φ δ : Type}
variable {M : Machine φ δ}
variable {call : Call φ δ}
variable {performed : Outcome (World φ δ) Int}
variable {status : Int}
variable {fault : Fault}

/- Without a command, a call only answers the last status. -/
theorem ended_of_no_command
    (hPerformed : call.performed? M = none) :
    call.ended M = ⟨.ok call.world.lastStatus, call.world, []⟩ :=
  Shell.execute_of_empty M (Option.map_eq_none_iff.1 hPerformed) _

theorem performed?_eq_none_iff :
    call.performed? M = none ↔
      call.line = [] ∨ call.line = ['\n'] := by
  unfold performed?
  rw [Option.map_eq_none_iff,
    CommandLine.parse?_eq_none_iff_isBody, isBody_nil_iff]

/- What follows its command only concerns standard output. -/
theorem ended_of_performed
    (hPerformed : call.performed? M = some performed) :
    (call.ended M).state =
        performed.state.asked .out .flush ∧
      (call.ended M).result =
        match performed.state.streams.answer .out .flush with
        | none => performed.result
        | some fault => .error fault := by
  rcases Option.map_eq_some_iff.1 hPerformed with
    ⟨command, hParse, rfl⟩
  rw [ended, Shell.execute_of_command M hParse]
  exact ⟨Outcome.flushed_state _, Outcome.flushed_result _⟩

/- A call whose command completes leaves its status. -/
theorem ended_lastStatus
    (M : Machine φ δ)
    (call : Call φ δ) :
    (call.ended M).state.lastStatus =
      (call.completed? M).getD call.world.lastStatus := by
  unfold completed?
  cases hPerformed : call.performed? M with
  | none =>
      rw [ended_of_no_command hPerformed]
      rfl
  | some performed =>
      rw [(ended_of_performed hPerformed).1]
      rcases Option.map_eq_some_iff.1 hPerformed with
        ⟨command, -, rfl⟩
      exact Shell.runCommand_lastStatus M command call.world

/- What a call answers is what its command returned. -/
theorem completed?_of_answer
    (hResult : (call.ended M).result = .ok status)
    (hLine : ¬ (call.line = [] ∨ call.line = ['\n'])) :
    call.completed? M = some status := by
  unfold completed?
  cases hPerformed : call.performed? M with
  | none =>
      exact absurd (performed?_eq_none_iff.1 hPerformed) hLine
  | some performed =>
      rw [(ended_of_performed hPerformed).2] at hResult
      cases hFlush :
          performed.state.streams.answer .out .flush with
      | none =>
          rw [hFlush] at hResult
          exact congrArg Except.toOption hResult
      | some fault =>
          rw [hFlush] at hResult
          cases hResult

/-
  A call fails before its command completes, and leaves the
  status alone, or because standard output cannot be passed on
  once it has.
-/
theorem lastStatus_of_fault
    (hFault : (call.ended M).result = .error fault) :
    (call.completed? M = none ∧
        (call.ended M).state.lastStatus =
          call.world.lastStatus) ∨
      ∃ performed status,
        call.performed? M = some performed ∧
          performed.result = .ok status ∧
          performed.state.streams.answer .out .flush =
            some fault ∧
          (call.ended M).state.lastStatus = status := by
  rw [ended_lastStatus]
  cases hPerformed : call.performed? M with
  | none =>
      rw [ended_of_no_command hPerformed] at hFault
      cases hFault
  | some performed =>
      have hCompleted :
          call.completed? M = performed.result.toOption := by
        rw [completed?, hPerformed]
        rfl
      rw [hCompleted]
      cases hResult : performed.result with
      | error other => exact Or.inl ⟨rfl, rfl⟩
      | ok status =>
          rw [(ended_of_performed hPerformed).2, hResult]
            at hFault
          refine Or.inr ⟨performed, status, rfl, hResult, ?_, rfl⟩
          cases hFlush :
              performed.state.streams.answer .out .flush with
          | none =>
              rw [hFlush] at hFault
              cases hFault
          | some other =>
              rw [hFlush] at hFault
              cases hFault
              rfl

/- While it can be, only the first is left. -/
theorem lastStatus_of_flushes
    (hFlush : call.world.streams.Takes .out .flush)
    (hFault : (call.ended M).result = .error fault) :
    (call.ended M).state.lastStatus = call.world.lastStatus := by
  rcases lastStatus_of_fault hFault with ⟨-, hKept⟩ |
    ⟨performed, status, hPerformed, -, hFails, -⟩
  · exact hKept
  · rcases Option.map_eq_some_iff.1 hPerformed with
      ⟨command, -, rfl⟩
    have hTakes :=
      (Shell.runCommand_streams M command call.world).takes hFlush
    rw [hTakes.answer] at hFails
    cases hFails

/- What a call leaves, the calls after it count from. -/
theorem latest_call
    (call : Call φ δ)
    (later : List (Call φ δ)) :
    latest M call.world.lastStatus (call :: later) =
      latest M (call.ended M).state.lastStatus later := by
  rw [latest_cons, ended_lastStatus]

end Call

end LineShell

------------------------------------------------------------
-- The Calls of a Run
------------------------------------------------------------

namespace LineShell

namespace Shell

variable {φ δ : Type}

/-
  The calls for some lines, with a prompt before each, up to
  the first that fails or that cannot be prompted for.
-/
def lineCalls
    (M : Machine φ δ)
    (prompt : Text) :
    List Text → World φ δ → List (Call φ δ)
  | [], _ => []
  | line :: rest, w =>
      let prompted := promptUser prompt w
      match prompted.result with
      | .error _ => []
      | .ok _ =>
          let call : Call φ δ := ⟨line, prompted.state⟩
          call ::
            match (call.ended M).result with
            | .error _ => []
            | .ok _ =>
                lineCalls M prompt rest (call.ended M).state

/- The calls of a run: those for the lines of its input. -/
def runCalls
    (M : Machine φ δ)
    (prompt : Text)
    (c : Console φ δ) : List (Call φ δ) :=
  lineCalls M prompt (Text.inputLines c.input) c.world

variable {M : Machine φ δ}
variable {prompt line : Text}
variable {c : Console φ δ}
variable {w : World φ δ}
variable {fault : Fault}

theorem lineCalls_of_refusal
    (hPrompt : (promptUser prompt w).result = .error fault)
    (lines : List Text) :
    lineCalls M prompt lines w = [] := by
  cases lines with
  | nil => rfl
  | cons line rest => simp [lineCalls, hPrompt]

theorem lineCalls_of_fault
    (hPrompt : (promptUser prompt w).result = .ok ())
    (hLine :
      (execute M line (promptUser prompt w).state).result =
        .error fault)
    (rest : List Text) :
    lineCalls M prompt (line :: rest) w =
      [⟨line, (promptUser prompt w).state⟩] := by
  simp [lineCalls, hPrompt, Call.ended, hLine]

theorem lineCalls_of_ok
    {status : Int}
    (hPrompt : (promptUser prompt w).result = .ok ())
    (hLine :
      (execute M line (promptUser prompt w).state).result =
        .ok status)
    (rest : List Text) :
    lineCalls M prompt (line :: rest) w =
      ⟨line, (promptUser prompt w).state⟩ ::
        lineCalls M prompt rest
          (execute M line (promptUser prompt w).state).state := by
  simp [lineCalls, hPrompt, Call.ended, hLine]

/- The lines are called in their order, from the first on. -/
theorem lineCalls_lines
    (M : Machine φ δ)
    (prompt : Text)
    (lines : List Text)
    (w : World φ δ) :
    (lineCalls M prompt lines w).map (·.line) <+: lines := by
  induction lines generalizing w with
  | nil => exact List.nil_prefix
  | cons line rest ih =>
      cases hPrompt : (promptUser prompt w).result with
      | error fault =>
          rw [lineCalls_of_refusal hPrompt]
          exact List.nil_prefix
      | ok _ =>
          cases hLine :
              (execute M line
                (promptUser prompt w).state).result with
          | error fault =>
              rw [lineCalls_of_fault hPrompt hLine]
              exact (List.prefix_cons_inj line).2 List.nil_prefix
          | ok status =>
              rw [lineCalls_of_ok hPrompt hLine]
              exact (List.prefix_cons_inj line).2 (ih _)

/- A prompt is no command. -/
theorem promptUser_lastStatus
    (prompt : Text)
    (w : World φ δ) :
    (promptUser prompt w).state.lastStatus = w.lastStatus :=
  promptUser_respects Effect.sameStatus_lookup.toSpeech prompt w

/-
  After a line that raises, a run has nothing left to do but
  to log a request to exit.
-/
theorem run_of_raised
    (hPrompt : (promptUser prompt c.world).result = .ok ())
    (hInput : c.input ≠ [])
    (hLine :
      (execute M (takeLine c.input).1
        (promptUser prompt c.world).state).result =
          .error fault) :
    let executed :=
      execute M (takeLine c.input).1
        (promptUser prompt c.world).state
    (run M prompt c).state.world = executed.state ∧
      (promptUser prompt c.world).trace ++
          .awaited :: executed.trace <+:
        (run M prompt c).trace := by
  rw [run_eq_round, round_of_input M hPrompt hInput]
  by_cases hExit : ∃ code, fault = .exit code
  · rcases hExit with ⟨code, rfl⟩
    rw [obey_of_exit hLine]
    refine ⟨rfl, ?_⟩
    simp
  · have hOther : ∀ code, fault ≠ .exit code :=
      fun code hCode => hExit ⟨code, hCode⟩
    rw [obey_of_fault hLine hOther]
    exact ⟨rfl, List.prefix_rfl⟩

/- After a line that returns, it goes on with the others. -/
theorem run_of_returned
    {status : Int}
    (hPrompt : (promptUser prompt c.world).result = .ok ())
    (hInput : c.input ≠ [])
    (hLine :
      (execute M (takeLine c.input).1
        (promptUser prompt c.world).state).result =
          .ok status) :
    let executed :=
      execute M (takeLine c.input).1
        (promptUser prompt c.world).state
    run M prompt c =
      Outcome.after
        ((promptUser prompt c.world).trace ++
          .awaited :: executed.trace)
        (run M prompt
          ⟨executed.state, (takeLine c.input).2⟩) := by
  rw [run_eq_round, round_of_input M hPrompt hInput,
    obey_of_ok hLine]
  rfl

/-
  A run makes its calls, with a prompt before each, and leaves
  the status of the last command that they completed.  The
  induction is on the lines of the input.
-/
theorem run_lastStatus
    (M : Machine φ δ)
    (prompt : Text)
    (c : Console φ δ) :
    ((runCalls M prompt c).flatMap fun call =>
        asking prompt ++ (call.ended M).trace) <+:
      (run M prompt c).trace ∧
      (run M prompt c).state.world.lastStatus =
        Call.latest M c.world.lastStatus
          (runCalls M prompt c) := by
  unfold runCalls
  induction hPieces : Text.inputLines c.input generalizing c with
  | nil =>
      have hInput := (Text.inputLines_eq_nil_iff c.input).1 hPieces
      refine ⟨List.nil_prefix, ?_⟩
      rw [run_eq_round]
      cases hPrompt : (promptUser prompt c.world).result with
      | error fault =>
          rw [round_of_refusal M hPrompt]
          exact promptUser_lastStatus prompt c.world
      | ok _ =>
          rw [round_of_end M hPrompt hInput]
          exact promptUser_lastStatus prompt c.world
  | cons line rest ih =>
      have hInput : c.input ≠ [] := by
        intro hNil
        rw [(Text.inputLines_eq_nil_iff c.input).2 hNil] at hPieces
        exact absurd hPieces.symm (List.cons_ne_nil line rest)
      rw [Text.inputLines_of_ne_nil hInput,
        List.cons.injEq] at hPieces
      rcases hPieces with ⟨rfl, hRest⟩
      cases hPrompt : (promptUser prompt c.world).result with
      | error fault =>
          rw [lineCalls_of_refusal hPrompt, run_eq_round,
            round_of_refusal M hPrompt]
          exact ⟨List.nil_prefix,
            promptUser_lastStatus prompt c.world⟩
      | ok _ =>
          have hAsked (later : Trace) :
              (promptUser prompt c.world).trace ++
                  .awaited :: later =
                asking prompt ++ later := by
            rw [promptUser_trace_of_ok hPrompt]
            rfl
          have hLatest := Call.latest_call (M := M)
            ⟨(takeLine c.input).1,
              (promptUser prompt c.world).state⟩
          rw [promptUser_lastStatus] at hLatest
          cases hLine :
              (execute M (takeLine c.input).1
                (promptUser prompt c.world).state).result with
          | error fault =>
              rcases run_of_raised hPrompt hInput hLine with
                ⟨hState, hTrace⟩
              rw [lineCalls_of_fault hPrompt hLine, hState,
                hLatest]
              rw [hAsked] at hTrace
              refine ⟨?_, rfl⟩
              rw [List.flatMap_singleton]
              exact hTrace
          | ok status =>
              have hRun := run_of_returned hPrompt hInput hLine
              rcases ih ⟨_, (takeLine c.input).2⟩ hRest with
                ⟨hTraces, hStatus⟩
              rw [lineCalls_of_ok hPrompt hLine, hRun, hLatest]
              refine ⟨?_, hStatus⟩
              rw [List.flatMap_cons, hAsked]
              exact (List.prefix_append_right_inj _).2 hTraces

end Shell

end LineShell

------------------------------------------------------------
-- The Calls of a Session
------------------------------------------------------------

namespace LineShell

namespace Shell

variable {φ δ : Type}

/- The calls of one step. -/
def Step.calls
    (M : Machine φ δ)
    (prompt : Text)
    (c : Console φ δ) : Step φ δ → List (Call φ δ)
  | execute line => [⟨line, c.world⟩]
  | run => runCalls M prompt c
  | change _ => []

/- The calls of a session, step by step. -/
def sessionCalls
    (M : Machine φ δ)
    (prompt : Text) :
    List (Step φ δ) → Console φ δ → List (Call φ δ)
  | [], _ => []
  | step :: later, c =>
      step.calls M prompt c ++
        sessionCalls M prompt later
          (step.take M prompt c).state

/- A change from outside that leaves the last status alone. -/
def Step.SparesStatus
    (step : Step φ δ) : Prop :=
  ∀ f, step = .change f →
    ∀ c, (f c).world.lastStatus = c.world.lastStatus

theorem Step.take_lastStatus
    (M : Machine φ δ)
    (prompt : Text)
    {step : Step φ δ}
    (hSpares : step.SparesStatus)
    (c : Console φ δ) :
    (step.take M prompt c).state.world.lastStatus =
      Call.latest M c.world.lastStatus
        (step.calls M prompt c) := by
  cases step with
  | execute line =>
      exact (Call.latest_call ⟨line, c.world⟩ []).symm
  | run => exact (run_lastStatus M prompt c).2
  | change f => exact hSpares f rfl c

/- Step by step, the last completed command counts. -/
theorem play_lastStatus
    (M : Machine φ δ)
    (prompt : Text)
    (steps : List (Step φ δ))
    (c : Console φ δ)
    (hSpare : ∀ step ∈ steps, step.SparesStatus) :
    (play M prompt steps c).state.world.lastStatus =
      Call.latest M c.world.lastStatus
        (sessionCalls M prompt steps c) := by
  induction steps generalizing c with
  | nil => rfl
  | cons step later ih =>
      have hStep := step.take_lastStatus M prompt
        (hSpare step List.mem_cons_self) c
      have hLater := ih (step.take M prompt c).state
        fun other hOther =>
          hSpare other (List.mem_cons_of_mem step hOther)
      rw [sessionCalls, Call.latest_append, ← hStep, ← hLater]
      rfl

end Shell

end LineShell

------------------------------------------------------------
-- The Last Completed Command
------------------------------------------------------------

namespace LineShell

namespace Shell

variable {φ δ : Type}

/-
  Whatever lines are executed and whatever is changed from
  outside between them, the last status is that of the last
  call whose command completed, and without one that from
  before the session.  A call that answers completed its
  command with that answer.  A call that raises leaves the
  status as it was, unless its command had completed and only
  standard output could not be passed on after it.  A call for
  an empty line answers the status and does nothing.  A run
  leaves the status of the last command that its calls
  completed; what it answers itself does not count.
-/
theorem play_remembers_completed
    (M : Machine φ δ)
    (prompt : Text)
    (steps : List (Step φ δ))
    (c : Console φ δ)
    (hSpare : ∀ step ∈ steps, step.SparesStatus) :
    (play M prompt steps c).state.world.lastStatus =
        Call.latest M c.world.lastStatus
          (sessionCalls M prompt steps c) ∧
      (∀ (call : Call φ δ) status,
        (call.ended M).result = .ok status →
        ¬ (call.line = [] ∨ call.line = ['\n']) →
          call.completed? M = some status) ∧
      (∀ (call : Call φ δ) fault,
        (call.ended M).result = .error fault →
          (call.completed? M = none ∧
              (call.ended M).state.lastStatus =
                call.world.lastStatus) ∨
            ∃ performed status,
              call.performed? M = some performed ∧
                performed.result = .ok status ∧
                performed.state.streams.answer .out .flush =
                  some fault ∧
                (call.ended M).state.lastStatus = status) ∧
      (∀ (call : Call φ δ) fault,
        call.world.streams.Takes .out .flush →
        (call.ended M).result = .error fault →
          (call.ended M).state.lastStatus =
            call.world.lastStatus) ∧
      (∀ call : Call φ δ,
        call.line = [] ∨ call.line = ['\n'] →
          call.completed? M = none ∧
            call.ended M =
              ⟨.ok call.world.lastStatus, call.world, []⟩) ∧
      ∀ start : Console φ δ,
        let calls := runCalls M prompt start
        let ended := run M prompt start
        calls.map (·.line) <+: Text.inputLines start.input ∧
          (calls.flatMap fun call =>
            asking prompt ++ (call.ended M).trace) <+:
              ended.trace ∧
          ended.state.world.lastStatus =
            Call.latest M start.world.lastStatus calls := by
  refine ⟨play_lastStatus M prompt steps c hSpare,
    ?_, ?_, ?_, ?_, ?_⟩
  · intro call status hResult hLine
    exact Call.completed?_of_answer hResult hLine
  · intro call fault hFault
    exact Call.lastStatus_of_fault hFault
  · intro call fault hFlush hFault
    exact Call.lastStatus_of_flushes hFlush hFault
  · intro call hLine
    have hPerformed : call.performed? M = none :=
      Call.performed?_eq_none_iff.2 hLine
    refine ⟨?_, Call.ended_of_no_command hPerformed⟩
    rw [Call.completed?, hPerformed]
    rfl
  · intro start
    exact ⟨lineCalls_lines M prompt _ start.world,
      run_lastStatus M prompt start⟩

/-
  A name that is not found, an empty line, a run that is left
  with status 3 after a command with status 1, and a name that
  cannot be told to be missing: what is remembered is the 1.
-/
theorem play_remembers_completed_after_run :
    let c : Console LexicalTree (Except Fault Int) :=
      ⟨{ environment := []
         files := {}
         device := .ok 0 },
        "type\nexit 3\nhello"⟩
    let failing (c : Console LexicalTree (Except Fault Int)) :=
      { c with
        world := { c.world with
          streams :=
            c.world.streams.answering .out .write fun _ =>
              some Errno.noSpace.fault } }
    let steps : List (Step LexicalTree (Except Fault Int)) :=
      [.execute "nope", .execute "\n", .run, .change failing,
        .execute "gone"]
    let told := execute LexicalTree.machine "nope" c.world
    let left : Console LexicalTree (Except Fault Int) :=
      ⟨told.state, c.input⟩
    (∀ step ∈ steps, step.SparesStatus) ∧
      told.result = .ok 127 ∧
      (run LexicalTree.machine "$ " left).result = .ok 3 ∧
      (play LexicalTree.machine "$ " steps
        c).state.world.lastStatus = 1 := by
  intro c failing steps told left
  have hSpare : ∀ step ∈ steps, step.SparesStatus := by
    intro step hStep f hChange c
    rw [hChange] at hStep
    have hFailing : f = failing := by
      simpa [steps] using hStep
    rw [hFailing]
  have hOut : c.world.streams.Works .out := fun _ _ => rfl
  have hTold :=
    Step.take_works LexicalTree.machine "$ " "nope" hOut
  have hLeft : run LexicalTree.machine "$ " left = _ :=
    run_eq_outcome LexicalTree.machine "$ " hTold
  have hFault :
      (executeLines LexicalTree.machine
        (Text.inputLines left.input) left.world).fault =
        some (.exit 3) := by
    decide
  have hRun : Step.take LexicalTree.machine "$ " .run _ = _ :=
    run_eq_outcome LexicalTree.machine "$ "
      (Step.take_works LexicalTree.machine "$ " "\n" hTold)
  rcases play_remembers_completed LexicalTree.machine "$ " steps
      c hSpare with
    ⟨hStatus, -, -, -, -, -⟩
  refine ⟨hSpare, rfl, ?_, ?_⟩
  · rw [hLeft, Progress.outcome, Progress.result, hFault]
  · rw [hStatus]
    simp only [steps, sessionCalls]
    rw [hRun]
    decide +kernel

/-
  A call can raise and yet change the status: the name is told
  to be missing, and then standard output cannot be passed on.
  Nor does a shell that was used before start from 0.
-/
theorem execute_remembers_unflushed :
    let w : World LexicalTree (Except Fault Int) :=
      { environment := []
        files := {}
        device := .ok 0 }
    let full :=
      { w with
        streams :=
          w.streams.answering .out .flush fun _ =>
            some Errno.noSpace.fault }
    let done := execute LexicalTree.machine "nope" full
    let used := (execute LexicalTree.machine "nope" w).state
    full.lastStatus = 0 ∧
      done.result = .error Errno.noSpace.fault ∧
      done.state.lastStatus = 127 ∧
      (execute LexicalTree.machine [] used).result = .ok 127 := by
  intro w full done used
  exact ⟨rfl, rfl, rfl, rfl⟩

end Shell

end LineShell
