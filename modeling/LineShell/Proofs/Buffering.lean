import LineShell.LexicalTree
import LineShell.Proofs.Session

/-
  Output is passed on in time.

  A trace is guarded if nothing is held back when a child is
  asked for, and if the prompt was just passed on when a line
  of input is.  It settles if it holds nothing back of standard
  output at its end.  Every line and every run is guarded, and
  settles as long as standard output can be passed on, so every
  session is and does.

  Main declarations:
    * `Event.Prepared`
    * `Trace.Guarded`
    * `Trace.Settles`
    * `Trace.Orderly`
    * `Shell.Step`
    * `Shell.play`
    * `Shell.play_passes_on`
-/

------------------------------------------------------------
-- Guarded and Settled Traces
------------------------------------------------------------

namespace LineShell

theorem Buffers.after_append
    (b : Buffers)
    (first second : Trace) :
    b.after (first ++ second) = (b.after first).after second :=
  List.foldl_append

/-
  What has to be done before an event.  Before a child is asked
  for, both streams are passed on, whatever they held back at
  the start; before a line of input is, the prompt is.
-/
def Event.Prepared
    (prompt : Text)
    (before : Trace) : Event → Prop
  | launched _ =>
      ∀ (b : Buffers) (channel : Channel),
        (b.after before).pending channel = []
  | awaited =>
      ∃ earlier,
        before = earlier ++ [.wrote .out prompt, .flushed .out]
  | _ => True

/- What came earlier does not matter. -/
theorem Event.Prepared.later
    {prompt : Text}
    {before : Trace}
    {event : Event}
    (hPrepared : event.Prepared prompt before)
    (earlier : Trace) :
    event.Prepared prompt (earlier ++ before) := by
  cases event with
  | launched request =>
      intro b channel
      rw [Buffers.after_append]
      exact hPrepared (b.after earlier) channel
  | awaited =>
      rcases hPrepared with ⟨between, hBefore⟩
      refine ⟨earlier ++ between, ?_⟩
      rw [hBefore, List.append_assoc]
  | _ => trivial

namespace Trace

/- A trace all of whose events are prepared. -/
inductive Guarded
    (prompt : Text) : Trace → Prop
  | nil : Guarded prompt []
  | snoc
      {trace : Trace}
      {event : Event}
      (hTrace : Guarded prompt trace)
      (hEvent : event.Prepared prompt trace) :
      Guarded prompt (trace ++ [event])

/- A trace that leaves nothing of standard output held back. -/
def Settles
    (trace : Trace) : Prop :=
  ∀ b : Buffers, b.pendingOut = [] →
    (b.after trace).pendingOut = []

/-
  A guarded trace between two states of the streams.  It
  settles as long as standard output can be passed on, which
  it then still can.
-/
structure Orderly
    (prompt : Text)
    (before : Streams)
    (trace : Trace)
    (after : Streams) : Prop where
  guarded : trace.Guarded prompt
  takes :
    before.Takes .out .flush → after.Takes .out .flush
  settles : before.Takes .out .flush → trace.Settles

variable {prompt : Text}
variable {trace first second : Trace}
variable {event : Event}
variable {s₁ s₂ s₃ : Streams}

theorem Guarded.single
    (hEvent : event.Prepared prompt []) :
    Guarded prompt [event] :=
  .snoc .nil hEvent

theorem Guarded.append
    (hFirst : first.Guarded prompt)
    (hSecond : second.Guarded prompt) :
    (first ++ second).Guarded prompt := by
  induction hSecond with
  | nil =>
      rw [List.append_nil]
      exact hFirst
  | snoc _ hEvent ih =>
      rw [← List.append_assoc]
      exact .snoc ih (hEvent.later first)

theorem Guarded.cons
    (hEvent : event.Prepared prompt [])
    (hTrace : trace.Guarded prompt) :
    Guarded prompt (event :: trace) :=
  (Guarded.single hEvent).append hTrace

/- Events that need no preparation can come in any number. -/
theorem Guarded.map
    {α : Type}
    (f : α → Event)
    (hEvent : ∀ a, (f a).Prepared prompt [])
    (items : List α) :
    Guarded prompt (items.map f) := by
  induction items with
  | nil => exact .nil
  | cons a items ih => exact .cons (hEvent a) ih

/- Every event of a guarded trace is prepared by those before. -/
theorem Guarded.prepared
    (hTrace : trace.Guarded prompt)
    {before after : Trace}
    (hSplit : trace = before ++ event :: after) :
    event.Prepared prompt before := by
  induction hTrace generalizing after with
  | nil => simp at hSplit
  | snoc hTrace hEvent ih =>
      -- The event is the last one, or it is in the trace before.
      rcases List.eq_nil_or_concat after with hAfter | hAfter
      · rw [hAfter] at hSplit
        rcases List.append_inj' hSplit rfl with ⟨hBefore, hLast⟩
        rw [← hBefore, ← List.singleton_inj.1 hLast]
        exact hEvent
      · rcases hAfter with ⟨between, last, hAfter⟩
        rw [hAfter, List.concat_eq_append, ← List.cons_append,
          ← List.append_assoc] at hSplit
        exact ih (List.append_inj' hSplit rfl).1

theorem Orderly.nil
    (s : Streams) :
    Orderly prompt s [] s :=
  ⟨.nil, id, fun _ _ hClear => hClear⟩

theorem Orderly.append
    (hFirst : Orderly prompt s₁ first s₂)
    (hSecond : Orderly prompt s₂ second s₃) :
    Orderly prompt s₁ (first ++ second) s₃ := by
  refine ⟨hFirst.guarded.append hSecond.guarded, ?_, ?_⟩
  · intro hTakes
    exact hSecond.takes (hFirst.takes hTakes)
  · intro hTakes b hClear
    rw [Buffers.after_append]
    exact hSecond.settles (hFirst.takes hTakes) _
      (hFirst.settles hTakes b hClear)

/- Whatever came before it, a flush settles. -/
theorem settles_of_flush
    (trace : Trace) :
    Settles (trace ++ [.flushed .out]) := by
  intro b _
  rw [Buffers.after_append]
  rfl

end Trace

end LineShell

------------------------------------------------------------
-- Lines
------------------------------------------------------------

namespace LineShell

namespace Effect

variable {φ δ : Type}

/- The trace of the run is guarded. -/
def guarded
    (prompt : Text) : Effect (World φ δ) :=
  fun _ trace _ => trace.Guarded prompt

theorem guarded_lookup
    (prompt : Text) :
    (guarded prompt : Effect (World φ δ)).Lookup where
  still := fun _ => .nil
  join := Trace.Guarded.append
  wrote := fun _ _ _ => .single trivial
  flushed := fun _ _ => .single trivial
  failed := fun _ _ _ => .nil
  logged := fun _ _ => .single trivial
  probed := fun _ _ => .single trivial

theorem guarded_travel
    (prompt : Text)
    (M : Machine φ δ) :
    (guarded prompt : Effect (World φ δ)).Travel M where
  toSpeech := (guarded_lookup prompt).toSpeech
  enter := by
    intro path w
    unfold World.enterDirectory
    cases M.files.enter w.files path with
    | ok files => exact .single trivial
    | error fault => exact .single trivial

end Effect

namespace Invocation

variable {φ δ : Type}

/-
  Both streams are passed on right before a child is asked
  for; where one cannot be, none is.
-/
theorem external_guarded
    (prompt : Text)
    (M : Machine φ δ)
    (path : Path)
    (argv : List Text) :
    (external M path argv).Respects (Effect.guarded prompt) := by
  intro w
  unfold Effect.guarded
  by_cases hNext : w.streams.FlushesNext
  · have hSpawning : (spawning path argv).Guarded prompt :=
      .cons trivial (.cons trivial (.single trivial))
    have hLaunched : (Event.launched ⟨path, argv⟩).Prepared prompt
        (spawning path argv) := by
      intro b channel
      cases channel with
      | out => rfl
      | err => rfl
    have hChild (writes : List (Channel × Text)) :
        (Trace.ofChild writes).Guarded prompt := by
      apply Trace.Guarded.map
      exact fun _ => trivial
    have hRecords (records : List Record) :
        Trace.Guarded prompt (records.map .logged) := by
      apply Trace.Guarded.map
      exact fun _ => trivial
    rcases external_after_launch M path argv hNext with
      ⟨-, records, hTrace⟩
    rw [hTrace, World.launch_apply, List.append_cons]
    exact ((hSpawning.snoc hLaunched).append (hChild _)).append
      (hRecords records)
  · exact external_speaks (Effect.guarded_lookup prompt).toSpeech
      M path argv hNext

end Invocation

namespace Shell

variable {φ δ : Type}

theorem execute_guarded
    (prompt : Text)
    (M : Machine φ δ)
    (line : Text) :
    (execute M line).Respects (Effect.guarded prompt) := by
  apply execute_respects_of_external
    (Effect.guarded_lookup prompt) (Effect.guarded_travel prompt M)
    (Invocation.external_guarded prompt M)
  exact fun _ _ => .nil

/-
  However a line ends, its trace is orderly: it is empty, or
  its last event passes standard output on.
-/
theorem execute_orderly
    (prompt : Text)
    (M : Machine φ δ)
    (line : Text)
    (w : World φ δ) :
    Trace.Orderly prompt w.streams (execute M line w).trace
      (execute M line w).state.streams where
  guarded := execute_guarded prompt M line w
  takes := (execute_sameSetting M line w).streams.takes
  settles := by
    intro hTakes
    cases hParse : CommandLine.parse? line with
    | none =>
        rw [execute_of_empty M hParse]
        exact fun _ hClear => hClear
    | some command =>
        rw [execute_of_flushes M hParse hTakes]
        exact Trace.settles_of_flush _

end Shell

end LineShell

------------------------------------------------------------
-- Runs
------------------------------------------------------------

namespace LineShell

/- The trace of the run is orderly. -/
def Effect.orderly
    {σ : Type}
    (streams : σ → Streams)
    (prompt : Text) : Effect σ :=
  fun before trace after =>
    trace.Orderly prompt (streams before) (streams after)

theorem Effect.orderly_composes
    {σ : Type}
    (streams : σ → Streams)
    (prompt : Text) :
    (orderly streams prompt).Composes where
  still := fun s => .nil (streams s)
  join := Trace.Orderly.append

namespace Shell

variable {φ δ : Type}
variable {w : World φ δ}

/- What a prompt writes does not stay behind. -/
theorem promptUser_orderly
    (M : Machine φ δ)
    (prompt : Text)
    (w : World φ δ) :
    (promptUser prompt w).trace.Orderly prompt w.streams
      (promptUser prompt w).state.streams where
  guarded :=
    promptUser_respects (Effect.guarded_lookup prompt).toSpeech
      prompt w
  takes :=
    (promptUser_respects (Effect.steady_line M).toSpeech
      prompt w).1.streams.takes
  settles := by
    intro hTakes
    cases hWrite : w.streams.answer .out .write with
    | some fault =>
        rw [promptUser_of_unwritten hWrite]
        exact fun _ hClear => hClear
    | none =>
        have hFlush :
            (w.asked .out .write).streams.Takes .out .flush :=
          (w.streams.later_after .out .write).takes hTakes
        rw [promptUser_of_written prompt hWrite,
          World.flush_accepted hFlush]
        exact fun _ _ => rfl

theorem logged_orderly
    (prompt : Text)
    (s : Streams)
    (record : Record) :
    Trace.Orderly prompt s [.logged record] s :=
  ⟨.single trivial, id, fun _ _ hClear => hClear⟩

/- The prompt is passed on right before a line is asked for. -/
theorem nextLine_orderly
    (M : Machine φ δ)
    (prompt : Text) :
    (nextLine prompt :
      Action (Console φ δ) (Option Text)).Respects
        (Effect.orderly (fun c => c.world.streams) prompt) := by
  intro c
  have hPrompted := promptUser_orderly M prompt c.world
  unfold Effect.orderly
  cases hPrompt : (promptUser prompt c.world).result with
  | error fault =>
      rw [nextLine_of_refusal hPrompt]
      exact hPrompted
  | ok _ =>
      have hAwaited : Event.awaited.Prepared prompt
          (promptUser prompt c.world).trace := by
        rw [promptUser_trace_of_ok hPrompt]
        exact ⟨[], rfl⟩
      have hAsked :
          Trace.Orderly prompt c.world.streams
            ((promptUser prompt c.world).trace ++ [.awaited])
            (promptUser prompt c.world).state.streams := by
        refine ⟨hPrompted.guarded.snoc hAwaited,
          hPrompted.takes, ?_⟩
        intro hTakes b hClear
        rw [Buffers.after_append]
        exact hPrompted.settles hTakes b hClear
      by_cases hInput : c.input = []
      · rw [nextLine_of_end hPrompt hInput, List.append_cons]
        exact hAsked.append (logged_orderly prompt _ _)
      · rw [nextLine_of_input hPrompt hInput]
        exact hAsked

theorem obey_orderly
    (prompt : Text)
    (M : Machine φ δ)
    (line : Text) :
    (obey M line).Respects
      (Effect.orderly World.streams prompt) := by
  have hR : (Effect.orderly (World.streams (φ := φ) (δ := δ))
      prompt).Composes :=
    Effect.orderly_composes _ prompt
  apply Action.Respects.bind hR
    (Action.Respects.attempt (execute_orderly prompt M line))
  intro ending
  split
  · exact Action.Respects.pure hR _
  · apply Action.Respects.bind hR
    · exact fun w => logged_orderly prompt w.streams _
    · intro _
      exact Action.Respects.pure hR _
  · exact Action.Respects.raise hR _

/- Round by round, a run is orderly. -/
theorem run_orderly
    (prompt : Text)
    (M : Machine φ δ) :
    Action.Respects
      (Effect.orderly (fun c => c.world.streams) prompt)
      (run M prompt) := by
  have hR : (Effect.orderly
      (fun c : Console φ δ => c.world.streams) prompt).Composes :=
    Effect.orderly_composes _ prompt
  apply run_respects hR
  apply Action.Respects.bind hR (nextLine_orderly M prompt)
  intro line?
  cases line? with
  | none => exact Action.Respects.pure hR _
  | some line =>
      exact fun c => obey_orderly prompt M line c.world

end Shell

end LineShell

------------------------------------------------------------
-- Steps of a Session
------------------------------------------------------------

namespace LineShell

namespace Shell

/-
  One step of a session: a line is executed, the loop is run
  over the input, or the console is changed from outside, as
  when a stream begins to fail or a builtin is added.
-/
inductive Step (φ δ : Type) where
  | execute (line : Text)
  | run
  | change (f : Console φ δ → Console φ δ)

variable {φ δ : Type}

/- Take one step; a change from outside has status 0. -/
def Step.take
    (M : Machine φ δ)
    (prompt : Text) : Step φ δ → Action (Console φ δ) Int
  | execute line => Console.inWorld (Shell.execute M line)
  | run => Shell.run M prompt
  | change f => do
      Action.update f
      return 0

/- Take steps in order, whether they return or fail. -/
def play
    (M : Machine φ δ)
    (prompt : Text) :
    List (Step φ δ) → Action (Console φ δ) Unit
  | [] => pure ()
  | step :: later => do
      let _ ← Action.attempt (step.take M prompt)
      play M prompt later

theorem play_cons
    (M : Machine φ δ)
    (prompt : Text)
    (step : Step φ δ)
    (later : List (Step φ δ))
    (c : Console φ δ) :
    play M prompt (step :: later) c =
      Outcome.after (step.take M prompt c).trace
        (play M prompt later (step.take M prompt c).state) :=
  rfl

/- What some steps do is not undone by later ones. -/
theorem play_append
    (M : Machine φ δ)
    (prompt : Text)
    (steps later : List (Step φ δ))
    (c : Console φ δ) :
    play M prompt (steps ++ later) c =
      Outcome.after (play M prompt steps c).trace
        (play M prompt later (play M prompt steps c).state) := by
  induction steps generalizing c with
  | nil => rfl
  | cons step steps ih =>
      rw [List.cons_append, play_cons, play_cons, ih]
      simp [Outcome.after]

/- A stream that works still works after a line. -/
theorem Step.take_works
    {c : Console φ δ}
    {channel : Channel}
    (M : Machine φ δ)
    (prompt line : Text)
    (hWorks : c.world.streams.Works channel) :
    ((execute line).take M prompt
      c).state.world.streams.Works channel :=
  (execute_sameSetting M line c.world).streams.works hWorks

/-
  A change from outside after which standard output can still
  be passed on, if it could before.
-/
def Step.KeepsFlushing : Step φ δ → Prop
  | change f =>
      ∀ c, c.world.streams.Takes .out .flush →
        (f c).world.streams.Takes .out .flush
  | _ => True

theorem Step.take_guarded
    (M : Machine φ δ)
    (prompt : Text)
    (step : Step φ δ)
    (c : Console φ δ) :
    (step.take M prompt c).trace.Guarded prompt := by
  cases step with
  | execute line => exact execute_guarded prompt M line c.world
  | run => exact (run_orderly prompt M c).guarded
  | change f => exact .nil

theorem Step.take_orderly
    (M : Machine φ δ)
    (prompt : Text)
    (step : Step φ δ)
    (hKeeps : step.KeepsFlushing)
    (c : Console φ δ) :
    (step.take M prompt c).trace.Orderly prompt c.world.streams
      (step.take M prompt c).state.world.streams := by
  cases step with
  | execute line => exact execute_orderly prompt M line c.world
  | run => exact run_orderly prompt M c
  | change f => exact ⟨.nil, hKeeps c, fun _ _ hClear => hClear⟩

/- Step by step, a session is guarded. -/
theorem play_guarded
    (M : Machine φ δ)
    (prompt : Text)
    (steps : List (Step φ δ))
    (c : Console φ δ) :
    (play M prompt steps c).trace.Guarded prompt := by
  induction steps generalizing c with
  | nil => exact .nil
  | cons step later ih =>
      rw [play_cons]
      exact (step.take_guarded M prompt c).append (ih _)

/- If every change lets flushes work, it is orderly. -/
theorem play_orderly
    (M : Machine φ δ)
    (prompt : Text)
    (steps : List (Step φ δ))
    (hKeeps : ∀ step ∈ steps, step.KeepsFlushing)
    (c : Console φ δ) :
    (play M prompt steps c).trace.Orderly prompt c.world.streams
      (play M prompt steps c).state.world.streams := by
  induction steps generalizing c with
  | nil => exact .nil _
  | cons step later ih =>
      have hFirst :=
        step.take_orderly M prompt (hKeeps step List.mem_cons_self) c
      have hLater :=
        ih (fun other hOther =>
          hKeeps other (List.mem_cons_of_mem step hOther))
          (step.take M prompt c).state
      rw [play_cons]
      exact hFirst.append hLater

end Shell

end LineShell

------------------------------------------------------------
-- Nothing Comes Too Late
------------------------------------------------------------

namespace LineShell

namespace Shell

variable {φ δ : Type}

/-
  Whatever the steps of a session are and however they end, if
  nothing was held back of standard output at its start, then
  nothing is held back of either stream when a child is asked
  for, nothing of standard output, which the prompt was just
  written to, when a line of input is asked for, and nothing of
  standard output after each step.  Only the last depends on
  flushes that never fail.
-/
theorem play_passes_on
    (M : Machine φ δ)
    (prompt : Text)
    (steps : List (Step φ δ))
    (c : Console φ δ)
    (b : Buffers)
    (hClear : b.pendingOut = []) :
    let trace := (play M prompt steps c).trace
    (∀ before request after,
        trace = before ++ .launched request :: after →
        (b.after before).pendingOut = [] ∧
          (b.after before).pendingErr = []) ∧
      (∀ before after,
        trace = before ++ .awaited :: after →
        (b.after before).pendingOut = [] ∧
          ∃ earlier,
            before =
              earlier ++ [.wrote .out prompt, .flushed .out]) ∧
      ∀ done later,
        steps = done ++ later →
        (play M prompt done c).trace <+: trace ∧
          (c.world.streams.Takes .out .flush →
            (∀ step ∈ done, step.KeepsFlushing) →
            (b.after
              (play M prompt done c).trace).pendingOut = []) := by
  intro trace
  have hGuarded : trace.Guarded prompt :=
    play_guarded M prompt steps c
  refine ⟨?_, ?_, ?_⟩
  · intro before request after hSplit
    have hPrepared := hGuarded.prepared hSplit
    exact ⟨hPrepared b .out, hPrepared b .err⟩
  · intro before after hSplit
    rcases hGuarded.prepared hSplit with ⟨earlier, hBefore⟩
    refine ⟨?_, earlier, hBefore⟩
    rw [hBefore, Buffers.after_append]
    rfl
  · intro done later hSteps
    refine ⟨?_, ?_⟩
    · change _ <+: (play M prompt steps c).trace
      rw [hSteps, play_append]
      exact List.prefix_append _ _
    · intro hTakes hKeeps
      exact (play_orderly M prompt done hKeeps c).settles hTakes
        b hClear

/-
  A builtin that writes to both streams and asks to exit, with
  a step of its own and within a run, and children before and
  after a stream begins to fail.
-/
theorem play_passes_on_after_exit :
    let parting : Script :=
      { writes := [(.err, "bye"), (.out, "bye")]
        ending := .error (.exit 3) }
    let c : Console LexicalTree (Except Fault Int) :=
      ⟨{ environment := [("PATH", "/bin")]
         files := LexicalTree.build "/" [] [("/bin/show", 0o100755)]
         device := .ok 7
         builtins :=
          Registry.standard.put "part" (.scripted parting) },
        "show\npart\nhello"⟩
    let failing (c : Console LexicalTree (Except Fault Int)) :=
      { c with
        world := { c.world with
          streams :=
            c.world.streams.answering .out .write fun _ =>
              some Errno.noSpace.fault } }
    let steps : List (Step LexicalTree (Except Fault Int)) :=
      [.execute "part", .run, .change failing, .execute "show"]
    let trace := (play LexicalTree.machine "$ " steps c).trace
    let b : Buffers := {}
    b.pendingOut = [] ∧
      c.world.streams.Takes .out .flush ∧
      (∀ step ∈ steps, step.KeepsFlushing) ∧
      trace.requests.length = 2 ∧
      trace.awaits = 2 ∧
      (b.after trace).pendingOut = [] := by
  intro parting c failing steps trace b
  have hClear : b.pendingOut = [] := rfl
  have hTakes : c.world.streams.Takes .out .flush :=
    fun _ => rfl
  have hKeeps : ∀ step ∈ steps, step.KeepsFlushing := by
    intro step hStep
    simp only [steps, List.mem_cons, List.not_mem_nil,
      or_false] at hStep
    rcases hStep with hStep | hStep | hStep | hStep
    · rw [hStep]
      trivial
    · rw [hStep]
      trivial
    · rw [hStep]
      exact fun _ hBefore => hBefore
    · rw [hStep]
      trivial
  rcases play_passes_on LexicalTree.machine "$ " steps c b
      hClear with
    ⟨-, -, hSteps⟩
  have hOut : c.world.streams.Works .out := fun _ _ => rfl
  have hRun : Step.take LexicalTree.machine "$ " .run _ = _ :=
    run_eq_outcome LexicalTree.machine "$ "
      (Step.take_works LexicalTree.machine "$ " "part" hOut)
  refine ⟨hClear, hTakes, hKeeps, ?_, ?_, ?_⟩
  · simp only [trace, steps, play_cons]
    rw [hRun]
    decide +kernel
  · simp only [trace, steps, play_cons]
    rw [hRun]
    decide +kernel
  · exact (hSteps steps [] (List.append_nil steps).symm).2
      hTakes hKeeps

end Shell

end LineShell
