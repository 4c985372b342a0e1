import LineShell.Proofs.Session
import LineShell.Proofs.Twins

/-
  Lines and sessions side by side.

  On two machines whose external commands are twins, all
  commands are.  What a line answers only shows in the last
  status, which no later command looks at, so that whole runs
  are twins, too.

  Main declarations:
    * `Machine.Twin`
    * `Shell.execute_twin_of_command`
    * `Shell.execute_twin`
    * `Console.Alike`
    * `Shell.run_twin`
-/

------------------------------------------------------------
-- Commands
------------------------------------------------------------

namespace LineShell

/-
  Two machines with the same files, whose external commands
  are twins.
-/
structure Machine.Twin
    {φ δ ε : Type}
    (T : Tolerance δ ε)
    (M : Machine φ δ)
    (N : Machine φ ε) : Prop where
  files : N.files = M.files
  external :
    ∀ path argv,
      Action.Twin T.worlds T.answers
        (Invocation.external M path argv)
        (Invocation.external N path argv)

namespace Invocation

variable {φ δ ε : Type}
variable {T : Tolerance δ ε}
variable {M : Machine φ δ}
variable {N : Machine φ ε}

theorem flushBoth_twin :
    Action.Twin T.worlds (· = ·)
      (flushBoth : Action (World φ δ) Unit) flushBoth := by
  apply Action.Twin.bind (World.flush_twin .out)
  intro _ _ _
  exact World.flush_twin .err

theorem perform_twin
    (hMachines : Machine.Twin T M N)
    (invocation : Invocation)
    (executor : Executor) :
    Action.Twin T.worlds T.answers
      (perform M invocation executor)
      (perform N invocation executor) := by
  cases executor with
  | external path => exact hMachines.external path _
  | builtin builtin =>
      apply Action.Twin.mono ?_
        (Builtin.run_twin hMachines.files builtin _ _)
      rintro status _ rfl
      exact T.answers_refl status

theorem recover_twin
    (invocation : Invocation)
    {first second : Except Fault Int}
    (hResults : Result.Alike T.answers first second) :
    Action.Twin T.worlds T.answers
      (recover invocation first : Action (World φ δ) Int)
      (recover invocation second) := by
  have hFlush {a b : Int} (hAnswers : T.answers a b) :
      Action.Twin T.worlds T.answers
        (do
          flushBoth
          return a : Action (World φ δ) Int)
        (do
          flushBoth
          return b) := by
    apply Action.Twin.bind flushBoth_twin
    intro _ _ _
    exact Action.Twin.pure hAnswers
  cases hResults with
  | ok hAnswers => exact hFlush hAnswers
  | error fault =>
      by_cases hEnds : fault.endsShell
      · simp only [recover, hEnds, if_true]
        exact Action.Twin.raise fault
      · simp only [recover, hEnds]
        apply Action.Twin.bind (A := (· = ·))
        · apply Action.Twin.bind (World.log_twin _ _)
          intro _ _ _
          exact World.write_twin _ _
        · intro _ _ _
          exact hFlush (T.answers_refl 1)

theorem run_twin
    (hMachines : Machine.Twin T M N)
    (invocation : Invocation) :
    Action.Twin T.worlds T.answers
      (run M invocation) (run N invocation) := by
  rw [run_eq_carryOut, run_eq_carryOut]
  unfold carryOut
  cases invocation.executor with
  | none =>
      apply Action.Twin.mono ?_ (World.say_twin _ _ _)
      rintro status _ rfl
      exact T.answers_refl status
  | some executor =>
      apply Action.Twin.bind
        (Action.Twin.attempt
          (perform_twin hMachines invocation executor))
      intro first second hResults
      exact recover_twin invocation hResults

end Invocation

namespace Shell

variable {φ δ ε : Type}
variable {T : Tolerance δ ε}
variable {M : Machine φ δ}
variable {N : Machine φ ε}
variable {command : CommandLine}
variable {line : Text}

theorem invocation_twin
    (hFiles : N.files = M.files)
    (command : CommandLine) :
    Action.Twin T.worlds (· = ·)
      (invocation M command) (invocation N command) := by
  apply Action.Twin.bind Action.Twin.get
  intro w v hAlike
  rw [hAlike.builtins]
  cases w.builtins.builtin? command.name with
  | some builtin =>
      apply Action.Twin.bind (World.log_twin _ _)
      intro _ _ _
      exact Action.Twin.pure rfl
  | none =>
      apply Action.Twin.bind
        (Builtin.findExecutable_twin hFiles command.name)
      rintro path? _ rfl
      exact Action.Twin.pure rfl

theorem runCommand_twin
    (hMachines : Machine.Twin T M N)
    (command : CommandLine) :
    Action.Twin T.worlds T.answers
      (runCommand M command) (runCommand N command) := by
  apply Action.Twin.bind
    (invocation_twin hMachines.files command)
  rintro found _ rfl
  apply Action.Twin.bind (Invocation.run_twin hMachines found)
  intro first second hAnswers
  apply Action.Twin.bind (World.remember_twin hAnswers)
  intro _ _ _
  exact Action.Twin.pure hAnswers

/- A line with a command answers as the command does. -/
theorem execute_twin_of_command
    (hMachines : Machine.Twin T M N)
    (hParse : CommandLine.parse? line = some command) :
    Action.Twin T.worlds T.answers
      (execute M line) (execute N line) := by
  unfold execute
  simp only [hParse]
  apply Action.Twin.bind (World.log_twin _ _)
  intro _ _ _
  exact Action.Twin.ensuring
    (runCommand_twin hMachines command) (World.flush_twin .out)

/- An empty line answers with the last status. -/
theorem execute_twin
    (hMachines : Machine.Twin T M N)
    (line : Text) :
    Action.Twin T.worlds T.statuses
      (execute M line) (execute N line) := by
  cases hParse : CommandLine.parse? line with
  | none =>
      intro w v hAlike
      rw [execute_of_empty M hParse, execute_of_empty N hParse]
      exact ⟨.ok hAlike.lastStatus, hAlike, rfl⟩
  | some command =>
      exact Action.Twin.mono T.statuses_of_answers
        (execute_twin_of_command hMachines hParse)

end Shell

end LineShell

------------------------------------------------------------
-- The Loop
------------------------------------------------------------

namespace LineShell

/- Two consoles with worlds that are alike and the same input. -/
structure Console.Alike
    {φ δ ε : Type}
    (T : Tolerance δ ε)
    (first : Console φ δ)
    (second : Console φ ε) : Prop where
  world : World.Alike T first.world second.world
  input : second.input = first.input

/- Consoles are compared up to the tolerance. -/
def Tolerance.consoles
    {φ δ ε : Type}
    (T : Tolerance δ ε) :
    Likeness (Console φ δ) (Console φ ε) :=
  ⟨Console.Alike T, T.shows⟩

/- What is done in worlds is done in consoles. -/
theorem Console.inWorld_twin
    {φ δ ε α β : Type}
    {T : Tolerance δ ε}
    {A : α → β → Prop}
    {m : Action (World φ δ) α}
    {n : Action (World φ ε) β}
    (hTwin : Action.Twin T.worlds A m n) :
    Action.Twin T.consoles A (inWorld m) (inWorld n) := by
  intro c d hAlike
  have hOutcome := hTwin _ _ hAlike.world
  exact ⟨hOutcome.result, ⟨hOutcome.state, hAlike.input⟩,
    hOutcome.trace⟩

namespace Shell

variable {φ δ ε : Type}
variable {T : Tolerance δ ε}
variable {M : Machine φ δ}
variable {N : Machine φ ε}

theorem readLine_twin :
    Action.Twin T.consoles (· = ·)
      (readLine : Action (Console φ δ) Text) readLine := by
  intro c d hAlike
  unfold readLine
  rw [hAlike.input]
  by_cases hInput : c.input.isEmpty
  · simp only [hInput, if_true]
    exact ⟨.error _, hAlike, rfl⟩
  · simp only [hInput]
    exact ⟨.ok rfl, ⟨hAlike.world, rfl⟩, rfl⟩

theorem nextLine_twin
    (prompt : Text) :
    Action.Twin T.consoles (· = ·)
      (nextLine prompt : Action (Console φ δ) (Option Text))
      (nextLine prompt) := by
  have hPrompt :
      Action.Twin T.worlds (· = ·)
        (promptUser prompt : Action (World φ δ) Unit)
        (promptUser prompt) := by
    apply Action.Twin.bind (World.write_twin .out prompt)
    intro _ _ _
    exact World.flush_twin .out
  apply Action.Twin.bind (Console.inWorld_twin hPrompt)
  intro _ _ _
  apply Action.Twin.bind (Action.Twin.attempt readLine_twin)
  intro first second hResults
  cases hResults with
  | ok hLines =>
      rw [hLines]
      exact Action.Twin.pure rfl
  | error fault =>
      split
      · next hEq => cases hEq
      · apply Action.Twin.bind
          (Console.inWorld_twin (World.log_twin _ _))
        intro _ _ _
        exact Action.Twin.pure rfl
      · exact Action.Twin.raise _

/- The loop goes on or ends after both lines. -/
theorem obey_twin
    (hMachines : Machine.Twin T M N)
    (line : Text) :
    Action.Twin T.worlds (· = ·) (obey M line) (obey N line) := by
  apply Action.Twin.bind
    (Action.Twin.attempt (execute_twin hMachines line))
  intro first second hResults
  cases hResults with
  | ok _ => exact Action.Twin.pure rfl
  | error fault =>
      split
      · next hEq => cases hEq
      · apply Action.Twin.bind (World.log_twin _ _)
        intro _ _ _
        exact Action.Twin.pure rfl
      · exact Action.Twin.raise _

theorem round_twin
    (hMachines : Machine.Twin T M N)
    (prompt : Text) :
    Action.Twin T.consoles (· = ·)
      (round M prompt) (round N prompt) := by
  apply Action.Twin.bind (nextLine_twin prompt)
  rintro line? _ rfl
  cases line? with
  | none => exact Action.Twin.pure rfl
  | some line =>
      exact Console.inWorld_twin (obey_twin hMachines line)

/-
  On twin machines, runs are twins: the induction is on the
  length of the input, which every round makes shorter.
-/
theorem run_twin
    (hMachines : Machine.Twin T M N)
    (prompt : Text) :
    Action.Twin T.consoles (· = ·)
      (run M prompt) (run N prompt) := by
  intro c d hAlike
  induction hLength : c.input.length using Nat.strongRecOn
    generalizing c d with
  | ind length ih =>
      have hRound := round_twin hMachines prompt c d hAlike
      rw [run_eq_round, run_eq_round]
      apply hRound.andThen
      rintro answer? _ rfl hFirst hSecond
      cases answer? with
      | some code => exact ⟨.ok rfl, hRound.state, rfl⟩
      | none =>
          have hShorter := round_input_lt hFirst
          rw [hLength] at hShorter
          exact ih _ hShorter _ _ hRound.state rfl

end Shell

end LineShell
