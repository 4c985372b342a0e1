import LineShell.LexicalTree
import LineShell.Proofs.Execution

/-
  The loop of the shell is a fold of the execution of lines.

  `Text.inputLines` cuts an input after each line feed, and
  `Shell.executeLines` executes lines in order until one of
  them lets out a fault.  A run prompts before every line that
  it executes, and once more at the end of the input.

  Main declarations:
    * `Text.inputLines`
    * `Shell.Progress`
    * `Shell.executeLines`
    * `Shell.round`
    * `Shell.run_respects`
    * `Shell.run_refines_executeLines`
-/

------------------------------------------------------------
-- Lines of an Input
------------------------------------------------------------

namespace LineShell

namespace Text

/- The text cut after each line feed. -/
def inputLines :
    Text → List Text
  | [] => []
  | c :: rest =>
      if c = '\n' then
        [c] :: inputLines rest
      else
        match inputLines rest with
        | [] => [[c]]
        | piece :: later => (c :: piece) :: later

/-
  A text is cut after each line feed when nothing is lost, no
  piece is empty or has a line feed before its end, and every
  piece but the last one ends with a line feed.
-/
structure IsCut
    (text : Text)
    (pieces : List Text) : Prop where
  flatten : pieces.flatten = text
  ne_nil : ∀ piece ∈ pieces, piece ≠ []
  inner : ∀ piece ∈ pieces, '\n' ∉ piece.dropLast
  ended : ∀ piece ∈ pieces.dropLast, endsWith '\n' piece = true

/- The first piece is the line that is taken first. -/
theorem inputLines_of_ne_nil
    {text : Text}
    (hText : text ≠ []) :
    inputLines text =
      (takeLine text).1 :: inputLines (takeLine text).2 := by
  induction text with
  | nil => exact absurd rfl hText
  | cons c rest ih =>
      by_cases hEq : c = '\n'
      · simp [inputLines, takeLine, hEq]
      · by_cases hRest : rest = []
        · simp [inputLines, takeLine, hEq, hRest]
        · simp [inputLines, takeLine, hEq, ih hRest]

theorem inputLines_eq_nil_iff
    (text : Text) :
    inputLines text = [] ↔ text = [] := by
  by_cases hText : text = []
  · simp [hText, inputLines]
  · simp [hText, inputLines_of_ne_nil hText]

namespace IsCut

variable {c : Char}
variable {text piece : Text}
variable {later : List Text}

theorem single
    (c : Char) :
    IsCut [c] [[c]] :=
  ⟨rfl, by simp, by simp, by simp⟩

/- A line feed in front is a piece of its own. -/
theorem terminated
    (hCut : IsCut text later) :
    IsCut ('\n' :: text) (['\n'] :: later) := by
  refine ⟨?_, ?_, ?_, ?_⟩
  · simp [hCut.flatten]
  · simpa using hCut.ne_nil
  · simpa using hCut.inner
  · cases hLater : later with
    | nil => simp
    | cons next rest =>
        have hEnded := hCut.ended
        rw [hLater] at hEnded
        simpa [endsWith] using hEnded

/- Any other character in front joins the first piece. -/
theorem within
    (hChar : c ≠ '\n')
    (hCut : IsCut text (piece :: later)) :
    IsCut (c :: text) ((c :: piece) :: later) := by
  have hPiece := hCut.ne_nil piece List.mem_cons_self
  refine ⟨?_, ?_, ?_, ?_⟩
  · simp [← hCut.flatten]
  · intro other hOther
    rcases List.mem_cons.1 hOther with hFirst | hLater
    · rw [hFirst]
      exact List.cons_ne_nil c piece
    · exact hCut.ne_nil other (List.mem_cons_of_mem _ hLater)
  · intro other hOther
    rcases List.mem_cons.1 hOther with hFirst | hLater
    · have hInner := hCut.inner piece List.mem_cons_self
      rw [hFirst, List.dropLast_cons_of_ne_nil hPiece]
      simp [hInner, Ne.symm hChar]
    · exact hCut.inner other (List.mem_cons_of_mem _ hLater)
  · have hEnded := hCut.ended
    cases later with
    | nil => simp
    | cons next rest =>
        have hNext := List.cons_ne_nil next rest
        intro other hOther
        rw [List.dropLast_cons_of_ne_nil hNext] at hOther hEnded
        rcases List.mem_cons.1 hOther with hFirst | hLater
        · have hLast := hEnded piece List.mem_cons_self
          unfold endsWith at hLast ⊢
          rw [hFirst, List.getLast?_cons_of_ne_nil hPiece]
          exact hLast
        · exact hEnded other (List.mem_cons_of_mem _ hLater)

end IsCut

/- The lines are what the text is cut into after line feeds. -/
theorem inputLines_isCut
    (text : Text) :
    IsCut text (inputLines text) := by
  induction text with
  | nil => exact ⟨rfl, by simp [inputLines], by simp [inputLines],
      by simp [inputLines]⟩
  | cons c rest ih =>
      by_cases hEq : c = '\n'
      · rw [inputLines, if_pos hEq, hEq]
        exact IsCut.terminated ih
      · cases hRest : inputLines rest with
        | nil =>
            have hNil := (inputLines_eq_nil_iff rest).1 hRest
            rw [inputLines, if_neg hEq, hRest, hNil]
            exact IsCut.single c
        | cons piece later =>
            rw [hRest] at ih
            rw [inputLines, if_neg hEq, hRest]
            exact IsCut.within hEq ih

end Text

end LineShell

------------------------------------------------------------
-- Executing Lines in Order
------------------------------------------------------------

namespace LineShell

namespace Shell

/-
  How far the execution of some lines came: the traces of the
  executed lines, the lines that were not reached, the world,
  and the fault that a line let out, if one did.
-/
structure Progress (φ δ : Type) where
  traces : List Trace
  unread : List Text
  world : World φ δ
  fault : Option Fault

variable {φ δ : Type}

/- Execute lines in order, until one of them lets out a fault. -/
def executeLines
    (M : Machine φ δ) :
    List Text → World φ δ → Progress φ δ
  | [], w => ⟨[], [], w, none⟩
  | line :: rest, w =>
      let executed := execute M line w
      match executed.result with
      | .error fault =>
          ⟨[executed.trace], rest, executed.state, some fault⟩
      | .ok _ =>
          let later := executeLines M rest executed.state
          { later with traces := executed.trace :: later.traces }

/- A line is asked for: the prompt is passed on before. -/
def asking
    (prompt : Text) : Trace :=
  [.wrote .out prompt, .flushed .out, .awaited]

namespace Progress

/-
  The status of a session: 0 when the lines are used up, the
  status that a line asked to exit with, or any other fault.
-/
def result
    (progress : Progress φ δ) : Except Fault Int :=
  match progress.fault with
  | none => .ok 0
  | some (.exit code) => .ok code
  | some fault => .error fault

/- What is left to do after the last executed line. -/
def farewell
    (prompt : Text)
    (progress : Progress φ δ) : Trace :=
  match progress.fault with
  | none =>
      asking prompt ++ [.logged ⟨.debug, .shell, "end of input"⟩]
  | some (.exit code) =>
      [.logged ⟨.debug, .shell,
        "exit requested with status " ++ Text.ofInt code⟩]
  | some _ => []

/- How often the user is prompted. -/
def prompts
    (progress : Progress φ δ) : Nat :=
  match progress.fault with
  | none => progress.traces.length + 1
  | some _ => progress.traces.length

/- The session that prompts before every executed line. -/
def outcome
    (prompt : Text)
    (progress : Progress φ δ) : Outcome (Console φ δ) Int :=
  ⟨progress.result, ⟨progress.world, progress.unread.flatten⟩,
    progress.traces.flatMap (asking prompt ++ ·) ++
      progress.farewell prompt⟩

end Progress

end Shell

end LineShell

------------------------------------------------------------
-- Rounds of the Loop, One by One
------------------------------------------------------------

namespace LineShell

namespace Shell

variable {φ δ : Type}
variable {M : Machine φ δ}
variable {c : Console φ δ}
variable {line : Text}
variable {w : World φ δ}

/- A prompt that is not written leaves nothing. -/
theorem promptUser_of_unwritten
    {prompt : Text}
    {fault : Fault}
    (hWrite : w.streams.answer .out .write = some fault) :
    promptUser prompt w =
      ⟨.error fault, w.asked .out .write, []⟩ := by
  simp [promptUser, World.write_refused hWrite]

/- One that is written is passed on, unless that fails. -/
theorem promptUser_of_written
    (prompt : Text)
    (hWrite : w.streams.answer .out .write = none) :
    promptUser prompt w =
      Outcome.after [.wrote .out prompt]
        (World.flush .out (w.asked .out .write)) := by
  simp [promptUser, World.write, World.operate_done hWrite,
    Outcome.after]

theorem promptUser_trace_of_ok
    {prompt : Text}
    (hPrompt : (promptUser prompt w).result = .ok ()) :
    (promptUser prompt w).trace =
      [.wrote .out prompt, .flushed .out] := by
  cases hWrite : w.streams.answer .out .write with
  | some fault =>
      rw [promptUser_of_unwritten hWrite] at hPrompt
      cases hPrompt
  | none =>
      rw [promptUser_of_written prompt hWrite] at hPrompt ⊢
      cases hFlush :
          (w.asked .out .write).streams.answer .out .flush with
      | some fault =>
          rw [World.flush, World.operate_failed hFlush] at hPrompt
          cases hPrompt
      | none =>
          rw [World.flush, World.operate_done hFlush]
          rfl

theorem promptUser_respects
    {R : Effect (World φ δ)}
    (hR : R.Speech)
    (prompt : Text) :
    (promptUser prompt).Respects R := by
  apply Action.Respects.bind hR.toComposes
    (World.write_respects hR .out prompt)
  intro _
  exact World.flush_respects hR .out

theorem promptUser_accepted
    (prompt : Text)
    (hOut : w.streams.Works .out) :
    promptUser prompt w =
      ⟨.ok (), w, [.wrote .out prompt, .flushed .out]⟩ := by
  simp [promptUser, World.write_accepted (hOut .write),
    World.flush_accepted (hOut .flush)]

/- At the end of the input there is a prompt but no line. -/
theorem nextLine_of_end
    {prompt : Text}
    (hPrompt : (promptUser prompt c.world).result = .ok ())
    (hInput : c.input = []) :
    nextLine prompt c =
      ⟨.ok none, ⟨(promptUser prompt c.world).state, []⟩,
        (promptUser prompt c.world).trace ++
          [.awaited,
            .logged ⟨.debug, .shell, "end of input"⟩]⟩ := by
  simp [nextLine, Console.inWorld, readLine, Outcome.andThen,
    hPrompt, hInput]

/- Before it, one line is taken. -/
theorem nextLine_of_input
    {prompt : Text}
    (hPrompt : (promptUser prompt c.world).result = .ok ())
    (hInput : c.input ≠ []) :
    nextLine prompt c =
      ⟨.ok (some (takeLine c.input).1),
        ⟨(promptUser prompt c.world).state,
          (takeLine c.input).2⟩,
        (promptUser prompt c.world).trace ++ [.awaited]⟩ := by
  simp [nextLine, Console.inWorld, readLine, Outcome.andThen,
    hPrompt, hInput]

/- Without a prompt, no line is asked for. -/
theorem nextLine_of_refusal
    {prompt : Text}
    {fault : Fault}
    (hPrompt :
      (promptUser prompt c.world).result = .error fault) :
    nextLine prompt c =
      ⟨.error fault,
        ⟨(promptUser prompt c.world).state, c.input⟩,
        (promptUser prompt c.world).trace⟩ := by
  simp [nextLine, Console.inWorld, Outcome.andThen, hPrompt]

/- The loop goes on after a line that returns. -/
theorem obey_of_ok
    {status : Int}
    (hLine : (execute M line w).result = .ok status) :
    obey M line w =
      ⟨.ok none, (execute M line w).state,
        (execute M line w).trace⟩ := by
  simp [obey, hLine]

/- A request to exit is answered. -/
theorem obey_of_exit
    {code : Int}
    (hLine : (execute M line w).result = .error (.exit code)) :
    obey M line w =
      ⟨.ok (some code), (execute M line w).state,
        (execute M line w).trace ++
          [.logged ⟨.debug, .shell,
            "exit requested with status " ++
              Text.ofInt code⟩]⟩ := by
  simp [obey, hLine]

/- Any other fault is let out. -/
theorem obey_of_fault
    {fault : Fault}
    (hLine : (execute M line w).result = .error fault)
    (hExit : ∀ code, fault ≠ .exit code) :
    obey M line w =
      ⟨.error fault, (execute M line w).state,
        (execute M line w).trace⟩ := by
  cases fault with
  | exit code => exact absurd rfl (hExit code)
  | _ => simp [obey, hLine]

end Shell

end LineShell

namespace LineShell

namespace Shell

variable {φ δ : Type}
variable {c : Console φ δ}

/- Read a line and obey it; at the end of the input, answer 0. -/
def round
    (M : Machine φ δ)
    (prompt : Text) : Action (Console φ δ) (Option Int) := do
  match ← nextLine prompt with
  | none => return some 0
  | some line => Console.inWorld (obey M line)

/- A run is a round, and another run unless that has an answer. -/
theorem run_eq_round
    (M : Machine φ δ)
    (prompt : Text)
    (c : Console φ δ) :
    run M prompt c =
      (round M prompt c).andThen fun
        | some code => pure code
        | none => run M prompt := by
  rw [run]
  split
  · next fault hRead =>
      simp [round, Outcome.andThen, hRead]
  · next hRead =>
      simp [round, Outcome.andThen, hRead]
  · next line hRead =>
      cases hObeyed :
          (obey M line (nextLine prompt c).state.world).result with
      | error fault =>
          simp [round, Outcome.andThen, hRead, hObeyed,
            Console.inWorld]
      | ok answer =>
          cases answer with
          | none =>
              simp [round, Outcome.andThen, hRead, hObeyed,
                Console.inWorld, Outcome.after]
          | some code =>
              simp [round, Outcome.andThen, hRead, hObeyed,
                Console.inWorld]

theorem round_of_end
    {prompt : Text}
    (M : Machine φ δ)
    (hPrompt : (promptUser prompt c.world).result = .ok ())
    (hInput : c.input = []) :
    round M prompt c =
      ⟨.ok (some 0), ⟨(promptUser prompt c.world).state, []⟩,
        (promptUser prompt c.world).trace ++
          [.awaited,
            .logged ⟨.debug, .shell, "end of input"⟩]⟩ := by
  rw [round, Action.bind_apply, nextLine_of_end hPrompt hInput]
  simp

theorem round_of_input
    {prompt : Text}
    (M : Machine φ δ)
    (hPrompt : (promptUser prompt c.world).result = .ok ())
    (hInput : c.input ≠ []) :
    round M prompt c =
      let obeyed := obey M (takeLine c.input).1
        (promptUser prompt c.world).state
      ⟨obeyed.result, ⟨obeyed.state, (takeLine c.input).2⟩,
        (promptUser prompt c.world).trace ++
          .awaited :: obeyed.trace⟩ := by
  rw [round, Action.bind_apply,
    nextLine_of_input hPrompt hInput]
  simp [Console.inWorld]

theorem round_of_refusal
    {prompt : Text}
    {fault : Fault}
    (M : Machine φ δ)
    (hPrompt :
      (promptUser prompt c.world).result = .error fault) :
    round M prompt c =
      ⟨.error fault,
        ⟨(promptUser prompt c.world).state, c.input⟩,
        (promptUser prompt c.world).trace⟩ := by
  rw [round, Action.bind_apply, nextLine_of_refusal hPrompt]
  rfl

/- A round without an answer has taken a line of the input. -/
theorem round_input_lt
    {prompt : Text}
    {c : Console φ δ}
    (hRound : (round M prompt c).result = .ok none) :
    (round M prompt c).state.input.length < c.input.length := by
  cases hRead : (nextLine prompt c).result with
  | error fault =>
      simp [round, Outcome.andThen, hRead] at hRound
  | ok line? =>
      cases line? with
      | none =>
          simp [round, Outcome.andThen, hRead] at hRound
      | some line =>
          have hShorter := nextLine_input_lt hRead
          simpa [round, Outcome.andThen, hRead,
            Console.inWorld] using hShorter

/-
  What a round respects, a run respects: the induction is on
  the length of the input, which every round makes shorter.
-/
theorem run_respects
    {R : Effect (Console φ δ)}
    {M : Machine φ δ}
    {prompt : Text}
    (hR : R.Composes)
    (hRound : (round M prompt).Respects R) :
    Action.Respects R (run M prompt) := by
  intro c
  induction hLength : c.input.length using Nat.strongRecOn
    generalizing c with
  | ind length ih =>
      have hFirst := hRound c
      rw [run_eq_round]
      unfold Outcome.andThen
      cases hResult : (round M prompt c).result with
      | error fault => exact hFirst
      | ok answer? =>
          cases answer? with
          | some code => exact hR.join hFirst (hR.still _)
          | none =>
              have hShorter := round_input_lt hResult
              rw [hLength] at hShorter
              exact hR.join hFirst (ih _ hShorter _ rfl)

end Shell

end LineShell

------------------------------------------------------------
-- Progress, Line by Line
------------------------------------------------------------

namespace LineShell

namespace Shell

variable {φ δ : Type}
variable {M : Machine φ δ}
variable {line : Text}
variable {w : World φ δ}

theorem executeLines_of_ok
    {status : Int}
    (hLine : (execute M line w).result = .ok status)
    (rest : List Text) :
    executeLines M (line :: rest) w =
      let later := executeLines M rest (execute M line w).state
      { later with
        traces := (execute M line w).trace :: later.traces } := by
  simp [executeLines, hLine]

theorem executeLines_of_error
    {fault : Fault}
    (hLine : (execute M line w).result = .error fault)
    (rest : List Text) :
    executeLines M (line :: rest) w =
      ⟨[(execute M line w).trace], rest,
        (execute M line w).state, some fault⟩ := by
  simp [executeLines, hLine]

/- The lines that were not reached come after the executed. -/
theorem executeLines_unread
    (M : Machine φ δ)
    (lines : List Text)
    (w : World φ δ) :
    (executeLines M lines w).unread =
      lines.drop (executeLines M lines w).traces.length := by
  induction lines generalizing w with
  | nil => rfl
  | cons line rest ih =>
      cases hLine : (execute M line w).result with
      | ok status =>
          rw [executeLines_of_ok hLine]
          exact ih (execute M line w).state
      | error fault =>
          rw [executeLines_of_error hLine]
          rfl

/- Without a fault, every line is executed. -/
theorem executeLines_complete
    (M : Machine φ δ)
    (lines : List Text)
    (w : World φ δ)
    (hFault : (executeLines M lines w).fault = none) :
    (executeLines M lines w).traces.length = lines.length := by
  induction lines generalizing w with
  | nil => rfl
  | cons line rest ih =>
      cases hLine : (execute M line w).result with
      | ok status =>
          rw [executeLines_of_ok hLine] at hFault ⊢
          exact congrArg Nat.succ (ih _ hFault)
      | error fault =>
          rw [executeLines_of_error hLine] at hFault
          exact absurd hFault (Option.some_ne_none fault)

/- No executed line asks for input. -/
theorem executeLines_awaits
    (M : Machine φ δ)
    (lines : List Text)
    (w : World φ δ) :
    ∀ trace ∈ (executeLines M lines w).traces,
      trace.awaits = 0 := by
  induction lines generalizing w with
  | nil => simp [executeLines]
  | cons line rest ih =>
      intro trace hTrace
      cases hLine : (execute M line w).result with
      | ok status =>
          rw [executeLines_of_ok hLine] at hTrace
          rcases List.mem_cons.1 hTrace with hFirst | hLater
          · rw [hFirst]
            exact execute_awaits M line w
          · exact ih _ trace hLater
      | error fault =>
          rw [executeLines_of_error hLine] at hTrace
          rw [List.mem_singleton.1 hTrace]
          exact execute_awaits M line w

end Shell

end LineShell

------------------------------------------------------------
-- Sessions
------------------------------------------------------------

namespace LineShell

namespace Shell

namespace Progress

variable {φ δ : Type}
variable {fault : Fault}

/- A session whose first line returned goes on with the others. -/
theorem outcome_first
    (prompt : Text)
    (first : Trace)
    (later : Progress φ δ) :
    outcome prompt { later with traces := first :: later.traces } =
      Outcome.after (asking prompt ++ first)
        (later.outcome prompt) := by
  simp [outcome, Outcome.after, result, farewell]

/- Every fault but a request to exit is let out. -/
theorem outcome_of_fault
    (prompt : Text)
    (hExit : ∀ code, fault ≠ .exit code)
    (last : Trace)
    (rest : List Text)
    (w : World φ δ) :
    outcome prompt ⟨[last], rest, w, some fault⟩ =
      ⟨.error fault, ⟨w, rest.flatten⟩,
        asking prompt ++ last⟩ := by
  cases fault with
  | exit code => exact absurd rfl (hExit code)
  | _ => simp [outcome, result, farewell]

/- A session succeeds at the end of its lines or by `exit 0`. -/
theorem result_eq_zero_iff
    (progress : Progress φ δ) :
    progress.result = .ok 0 ↔
      progress.fault = none ∨
        progress.fault = some (.exit 0) := by
  unfold result
  split
  · simp_all
  · simp_all
  · simp_all

/- The prompt comes before the output of every line. -/
theorem written_rounds
    (prompt : Text)
    (traces : List Trace) :
    Trace.written .out (traces.flatMap (asking prompt ++ ·)) =
      traces.flatMap fun trace =>
        prompt ++ trace.written .out := by
  induction traces with
  | nil => rfl
  | cons trace rest ih =>
      have hAsking : (asking prompt).written .out = prompt := by
        simp [asking, Event.textOn]
      rw [List.flatMap_cons, List.flatMap_cons,
        Trace.written_append, Trace.written_append, hAsking, ih]

theorem outcome_written
    (prompt : Text)
    (progress : Progress φ δ) :
    (progress.outcome prompt).trace.written .out =
      (progress.traces.flatMap fun trace =>
          prompt ++ trace.written .out) ++
        if progress.fault.isNone then prompt else [] := by
  unfold outcome
  rw [Trace.written_append, written_rounds]
  congr 1
  unfold farewell
  split
  · simp_all [asking, Event.textOn]
  · simp_all [Event.textOn]
  · simp_all

/- One line of input is asked for after every prompt. -/
theorem awaits_rounds
    (prompt : Text)
    (traces : List Trace)
    (hTraces : ∀ trace ∈ traces, trace.awaits = 0) :
    Trace.awaits (traces.flatMap (asking prompt ++ ·)) =
      traces.length := by
  induction traces with
  | nil => rfl
  | cons trace rest ih =>
      have hFirst := hTraces trace List.mem_cons_self
      have hRest := ih fun other hOther =>
        hTraces other (List.mem_cons_of_mem _ hOther)
      have hAsking : (asking prompt).awaits = 1 := rfl
      rw [List.flatMap_cons, Trace.awaits_append,
        Trace.awaits_append, hAsking, hFirst, hRest,
        List.length_cons]
      omega

theorem outcome_awaits
    (prompt : Text)
    (progress : Progress φ δ)
    (hTraces : ∀ trace ∈ progress.traces, trace.awaits = 0) :
    (progress.outcome prompt).trace.awaits =
      progress.prompts := by
  unfold outcome
  rw [Trace.awaits_append, awaits_rounds prompt _ hTraces]
  unfold farewell prompts
  split
  · next hFault =>
      rw [hFault]
      rfl
  · next code hFault =>
      rw [hFault]
      rfl
  · next fault hExit hFault =>
      rw [hFault]
      rfl

end Progress

end Shell

end LineShell

------------------------------------------------------------
-- The Loop as a Fold
------------------------------------------------------------

namespace LineShell

namespace Shell

variable {φ δ : Type}
variable {c : Console φ δ}

/-
  The loop does what the execution of the pieces does, with a
  prompt and a question for input before each of them.  The
  induction is on the pieces; each line hands its world on.
-/
theorem run_eq_outcome
    (M : Machine φ δ)
    (prompt : Text)
    (hOut : c.world.streams.Works .out) :
    run M prompt c =
      (executeLines M (Text.inputLines c.input)
        c.world).outcome prompt := by
  induction hPieces : Text.inputLines c.input generalizing c with
  | nil =>
      have hInput := (Text.inputLines_eq_nil_iff c.input).1 hPieces
      have hPrompted := promptUser_accepted prompt hOut
      rw [run_eq_round, round_of_end M (by rw [hPrompted]) hInput,
        hPrompted]
      rfl
  | cons line rest ih =>
      have hInput : c.input ≠ [] := by
        intro hNil
        rw [(Text.inputLines_eq_nil_iff c.input).2 hNil] at hPieces
        exact absurd hPieces.symm (List.cons_ne_nil line rest)
      rw [Text.inputLines_of_ne_nil hInput,
        List.cons.injEq] at hPieces
      rcases hPieces with ⟨hLine, hRest⟩
      have hAfter : rest.flatten = (takeLine c.input).2 := by
        rw [← hRest]
        exact (Text.inputLines_isCut _).flatten
      have hPrompted := promptUser_accepted prompt hOut
      rw [run_eq_round,
        round_of_input M (by rw [hPrompted]) hInput, hPrompted,
        hLine]
      cases hResult : (execute M line c.world).result with
      | ok status =>
          have hKept :=
            (execute_sameSetting M line c.world).streams.works hOut
          let next : Console φ δ :=
            ⟨(execute M line c.world).state,
              (takeLine c.input).2⟩
          have hLater : run M prompt next = _ :=
            ih hKept hRest
          rw [obey_of_ok hResult, executeLines_of_ok hResult,
            Progress.outcome_first, ← hLater]
          rfl
      | error fault =>
          rw [executeLines_of_error hResult]
          by_cases hExit : ∃ code, fault = .exit code
          · rcases hExit with ⟨code, hCode⟩
            rw [hCode] at hResult ⊢
            rw [obey_of_exit hResult, ← hAfter]
            simp [Progress.outcome, Progress.result,
              Progress.farewell, asking]
          · have hOther : ∀ code, fault ≠ .exit code :=
              fun code hCode => hExit ⟨code, hCode⟩
            rw [obey_of_fault hResult hOther,
              Progress.outcome_of_fault prompt hOther, hAfter]
            rfl

/-
  A run refines the execution of the pieces of its input:
  outcome, output, questions for input, and what stays unread
  are those of the pieces up to the first that lets out a
  fault.  The end of the input is the only end without one, so
  no executor can feign it.
-/
theorem run_refines_executeLines
    (M : Machine φ δ)
    (prompt : Text)
    (c : Console φ δ)
    (hOut : c.world.streams.Works .out) :
    let lines := Text.inputLines c.input
    let progress := executeLines M lines c.world
    let done := run M prompt c
    Text.IsCut c.input lines ∧
      done = progress.outcome prompt ∧
      progress.unread = lines.drop progress.traces.length ∧
      (progress.fault = none →
        progress.traces.length = lines.length) ∧
      done.trace.written .out =
        (progress.traces.flatMap fun trace =>
            prompt ++ trace.written .out) ++
          (if progress.fault.isNone then prompt else []) ∧
      done.trace.awaits = progress.prompts ∧
      (done.result = .ok 0 ↔
        progress.fault = none ∨
          progress.fault = some (.exit 0)) ∧
      (∀ (line : Text) (w : World φ δ)
          (command : CommandLine) (found : Invocation)
          (executor : Executor),
        CommandLine.parse? line = some command →
        (invocation M command w).result = .ok found →
        found.executor = some executor →
        (found.perform M executor w).result =
          .error .endOfInput →
        w.streams.Takes .out .flush →
        let left := (found.perform M executor w).state
        (execute M line w).result =
          match (left.streams.answer .err .write).or
              (left.streams.answer .err .flush) with
          | none => .ok 1
          | some other => .error other) := by
  intro lines progress done
  have hDone : done = progress.outcome prompt :=
    run_eq_outcome M prompt hOut
  refine ⟨Text.inputLines_isCut c.input, hDone,
    ?_, ?_, ?_, ?_, ?_, ?_⟩
  · exact executeLines_unread M lines c.world
  · exact executeLines_complete M lines c.world
  · rw [hDone]
    exact Progress.outcome_written prompt progress
  · rw [hDone]
    exact Progress.outcome_awaits prompt progress
      (executeLines_awaits M lines c.world)
  · rw [hDone]
    exact Progress.result_eq_zero_iff progress
  · intro line w command found executor hParse hFound
      hExecutor hFault hFlush
    exact execute_of_executor_fault hParse hFound hExecutor
      hFault rfl hFlush

/-
  A command that claims the end of the input does not end the
  run; the request to exit does, before the last line.
-/
theorem run_refines_executeLines_feigned_end :
    let feigning : Script := { ending := .error .endOfInput }
    let c : Console LexicalTree (Except Fault Int) :=
      ⟨{ environment := []
         files := {}
         device := .ok 0
         builtins :=
          Registry.standard.put "over" (.scripted feigning) },
        "over\nexit 3\nhello"⟩
    let done := run LexicalTree.machine "$ " c
    c.world.streams.Works .out ∧
      done.result = .ok 3 ∧
      done.state.input = "hello".toList ∧
      done.trace.awaits = 2 ∧
      done.trace.written .out = "$ $ ".toList := by
  intro feigning c
  have hOut : c.world.streams.Works .out := fun _ _ => rfl
  rcases run_refines_executeLines LexicalTree.machine "$ " c
      hOut with
    ⟨-, hOutcome, -, -, hWritten, hAwaits, -, -⟩
  have hFault :
      (executeLines LexicalTree.machine
        (Text.inputLines c.input) c.world).fault =
        some (.exit 3) := by
    decide
  refine ⟨hOut, ?_, ?_, ?_, ?_⟩
  · rw [hOutcome, Progress.outcome, Progress.result, hFault]
  · rw [hOutcome]
    decide
  · exact hAwaits.trans (by decide)
  · exact hWritten.trans (by decide)

end Shell

end LineShell
