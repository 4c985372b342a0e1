import LineShell.Proofs.Builtin

/-
  Two runs side by side.

  A likeness says when the states before two runs are alike,
  and which events an observer of both is shown.  Two actions
  are twins when, from states that are alike, they answer
  alike, end in states that are alike, and show the same.
  Twins are built from twins, as actions are from actions.

  Two worlds that differ in their devices and last statuses
  are alike to every builtin.

  Main declarations:
    * `Likeness`
    * `Action.Twin`
    * `Action.Twin.bind`
    * `Tolerance`
    * `World.Alike`
    * `Builtin.run_twin`
-/

------------------------------------------------------------
-- Twins
------------------------------------------------------------

namespace LineShell

/-
  What two runs have in common: how their states are related,
  and the events that are shown of both.
-/
structure Likeness (σ τ : Type) where
  states : σ → τ → Prop
  shows : Event → Bool

/- Related answers, or the same fault. -/
inductive Result.Alike
    {α β : Type}
    (A : α → β → Prop) :
    Except Fault α → Except Fault β → Prop where
  | ok {a : α} {b : β} (hAnswers : A a b) :
      Alike A (.ok a) (.ok b)
  | error (fault : Fault) :
      Alike A (.error fault) (.error fault)

namespace Result

variable {α β : Type}
variable {A : α → β → Prop}

theorem Alike.mono
    {B : α → β → Prop}
    {first : Except Fault α}
    {second : Except Fault β}
    (hWeaker : ∀ a b, A a b → B a b)
    (hAlike : Alike A first second) :
    Alike B first second := by
  cases hAlike with
  | ok hAnswers => exact .ok (hWeaker _ _ hAnswers)
  | error fault => exact .error fault

/- Results with the same answer are the same. -/
theorem Alike.eq
    {first second : Except Fault α}
    (hAlike : Alike (· = ·) first second) :
    second = first := by
  cases hAlike with
  | ok hAnswers => exact congrArg Except.ok hAnswers.symm
  | error fault => rfl

end Result

/- Two outcomes that cannot be told apart by what is shown. -/
structure Outcome.Twin
    {σ τ α β : Type}
    (L : Likeness σ τ)
    (A : α → β → Prop)
    (first : Outcome σ α)
    (second : Outcome τ β) : Prop where
  result : Result.Alike A first.result second.result
  state : L.states first.state second.state
  trace :
    second.trace.filter L.shows = first.trace.filter L.shows

/- If one of them fails, the other fails with the same fault. -/
theorem Outcome.Twin.result_of_error
    {σ τ α β : Type}
    {L : Likeness σ τ}
    {A : α → β → Prop}
    {first : Outcome σ α}
    {second : Outcome τ β}
    {fault : Fault}
    (hTwin : Outcome.Twin L A first second)
    (hFault : first.result = .error fault) :
    second.result = .error fault := by
  have hResult := hTwin.result
  rw [hFault] at hResult
  generalize second.result = result at hResult ⊢
  cases hResult
  rfl

/- From states that are alike, both actions have such outcomes. -/
def Action.Twin
    {σ τ α β : Type}
    (L : Likeness σ τ)
    (A : α → β → Prop)
    (m : Action σ α)
    (n : Action τ β) : Prop :=
  ∀ s t, L.states s t → Outcome.Twin L A (m s) (n t)

end LineShell

------------------------------------------------------------
-- Building Twins
------------------------------------------------------------

namespace LineShell

/-
  Outcomes that are twins go on as twins, if the next actions
  are twins where they are reached.
-/
theorem Outcome.Twin.andThen
    {σ τ α β α' β' : Type}
    {L : Likeness σ τ}
    {A : α → β → Prop}
    {B : α' → β' → Prop}
    {first : Outcome σ α}
    {second : Outcome τ β}
    {next : α → Action σ α'}
    {other : β → Action τ β'}
    (hFirst : Outcome.Twin L A first second)
    (hNext :
      ∀ a b, A a b →
        first.result = .ok a → second.result = .ok b →
        Outcome.Twin L B (next a first.state)
          (other b second.state)) :
    Outcome.Twin L B (first.andThen next)
      (second.andThen other) := by
  rcases first with ⟨result, state, trace⟩
  rcases second with ⟨result', state', trace'⟩
  rcases hFirst with ⟨hResult, hState, hTrace⟩
  dsimp only at hResult hState hTrace hNext
  cases hResult with
  | error fault => exact ⟨.error fault, hState, hTrace⟩
  | ok hAnswers =>
      have hLater := hNext _ _ hAnswers rfl rfl
      refine ⟨hLater.result, hLater.state, ?_⟩
      simp only [Outcome.andThen_ok, List.filter_append,
        hTrace, hLater.trace]

namespace Action

namespace Twin

variable {σ τ α β α' β' : Type}
variable {L : Likeness σ τ}
variable {A : α → β → Prop}
variable {B : α' → β' → Prop}

theorem mono
    {C : α → β → Prop}
    {m : Action σ α}
    {n : Action τ β}
    (hWeaker : ∀ a b, A a b → C a b)
    (hTwin : Twin L A m n) :
    Twin L C m n := by
  intro s t hStates
  have hOutcome := hTwin s t hStates
  exact ⟨hOutcome.result.mono hWeaker, hOutcome.state,
    hOutcome.trace⟩

theorem pure
    {a : α}
    {b : β}
    (hAnswers : A a b) :
    Twin L A (Pure.pure a) (Pure.pure b) :=
  fun _ _ hStates => ⟨.ok hAnswers, hStates, rfl⟩

theorem raise
    (fault : Fault) :
    Twin L A (Action.raise fault) (Action.raise fault) :=
  fun _ _ hStates => ⟨.error fault, hStates, rfl⟩

theorem get :
    Twin L L.states Action.get Action.get :=
  fun _ _ hStates => ⟨.ok hStates, hStates, rfl⟩

theorem emit
    (event : Event) :
    Twin L (· = ·) (Action.emit event) (Action.emit event) :=
  fun _ _ hStates => ⟨.ok rfl, hStates, rfl⟩

theorem update
    {f : σ → σ}
    {g : τ → τ}
    (hStates : ∀ s t, L.states s t → L.states (f s) (g t)) :
    Twin L (· = ·) (Action.update f) (Action.update g) :=
  fun s t hBefore => ⟨.ok rfl, hStates s t hBefore, rfl⟩

theorem ofExcept
    {first : Except Fault α}
    {second : Except Fault β}
    (hResults : Result.Alike A first second) :
    Twin L A (Action.ofExcept first)
      (Action.ofExcept second) := by
  cases hResults with
  | ok hAnswers => exact pure hAnswers
  | error fault => exact raise fault

theorem attempt
    {m : Action σ α}
    {n : Action τ β}
    (hTwin : Twin L A m n) :
    Twin L (Result.Alike A) m.attempt n.attempt := by
  intro s t hStates
  have hOutcome := hTwin s t hStates
  exact ⟨.ok hOutcome.result, hOutcome.state, hOutcome.trace⟩

/- Twins that are followed by twins make twins. -/
theorem bind
    {m : Action σ α}
    {n : Action τ β}
    {next : α → Action σ α'}
    {other : β → Action τ β'}
    (hFirst : Twin L A m n)
    (hNext : ∀ a b, A a b → Twin L B (next a) (other b)) :
    Twin L B (m >>= next) (n >>= other) := by
  intro s t hStates
  rw [bind_apply, bind_apply]
  have hOutcome := hFirst s t hStates
  apply hOutcome.andThen
  intro a b hAnswers _ _
  exact hNext a b hAnswers _ _ hOutcome.state

theorem ensuring
    {m : Action σ α}
    {n : Action τ β}
    {after : Action σ Unit}
    {after' : Action τ Unit}
    (hTwin : Twin L A m n)
    (hAfter : Twin L (· = ·) after after') :
    Twin L A (m.ensuring after) (n.ensuring after') := by
  apply bind (attempt hTwin)
  intro first second hResults
  apply bind hAfter
  intro _ _ _
  exact ofExcept hResults

end Twin

end Action

end LineShell

------------------------------------------------------------
-- Worlds That Are Alike
------------------------------------------------------------

namespace LineShell

/-
  What two worlds may differ in.  Statuses that children answer
  with, statuses that are remembered, and devices each have a
  relation that takes the place of equality.
-/
structure Tolerance (δ ε : Type) where
  shows : Event → Bool
  answers : Int → Int → Prop
  statuses : Int → Int → Prop
  devices : δ → ε → Prop
  answers_refl : ∀ status, answers status status
  statuses_of_answers :
    ∀ first second, answers first second →
      statuses first second

/- Two worlds that differ in nothing that is not tolerated. -/
structure World.Alike
    {φ δ ε : Type}
    (T : Tolerance δ ε)
    (first : World φ δ)
    (second : World φ ε) : Prop where
  environment : second.environment = first.environment
  files : second.files = first.files
  builtins : second.builtins = first.builtins
  streams : second.streams = first.streams
  lastStatus : T.statuses first.lastStatus second.lastStatus
  device : T.devices first.device second.device

/- Worlds are compared up to the tolerance. -/
def Tolerance.worlds
    {φ δ ε : Type}
    (T : Tolerance δ ε) :
    Likeness (World φ δ) (World φ ε) :=
  ⟨World.Alike T, T.shows⟩

namespace World

variable {φ δ ε : Type}
variable {T : Tolerance δ ε}

/- Streams that are the same stay the same. -/
theorem operate_twin
    (channel : Channel)
    (operation : Operation)
    (event : Event) :
    Action.Twin T.worlds (· = ·)
      (operate channel operation event :
        Action (World φ δ) Unit)
      (operate channel operation event) := by
  intro w v hAlike
  have hAsked :
      T.worlds.states (w.asked channel operation)
        (v.asked channel operation) :=
    { hAlike with
      streams :=
        congrArg (·.after channel operation) hAlike.streams }
  have hSame :
      v.streams.answer channel operation =
        w.streams.answer channel operation :=
    congrArg (·.answer channel operation) hAlike.streams
  cases hAnswer : w.streams.answer channel operation with
  | none =>
      rw [operate_done hAnswer, operate_done (hSame.trans hAnswer)]
      exact ⟨.ok rfl, hAsked, rfl⟩
  | some fault =>
      rw [operate_failed hAnswer,
        operate_failed (hSame.trans hAnswer)]
      exact ⟨.error fault, hAsked, rfl⟩

theorem write_twin
    (channel : Channel)
    (text : Text) :
    Action.Twin T.worlds (· = ·)
      (write channel text : Action (World φ δ) Unit)
      (write channel text) :=
  operate_twin channel .write (.wrote channel text)

theorem flush_twin
    (channel : Channel) :
    Action.Twin T.worlds (· = ·)
      (flush channel : Action (World φ δ) Unit)
      (flush channel) :=
  operate_twin channel .flush (.flushed channel)

theorem log_twin
    (source : Source)
    (message : Text) :
    Action.Twin T.worlds (· = ·)
      (log source message : Action (World φ δ) Unit)
      (log source message) :=
  Action.Twin.emit _

/- Remembering is where related statuses become last statuses. -/
theorem remember_twin
    {first second : Int}
    (hAnswers : T.answers first second) :
    Action.Twin T.worlds (· = ·)
      (remember first : Action (World φ δ) Unit)
      (remember second) := by
  apply Action.Twin.update
  intro w v hAlike
  exact { hAlike with
    lastStatus := T.statuses_of_answers _ _ hAnswers }

/- A text and a status. -/
theorem say_twin
    (channel : Channel)
    (text : Text)
    (status : Int) :
    Action.Twin T.worlds (· = ·)
      (do
        write channel text
        return status : Action (World φ δ) Int)
      (do
        write channel text
        return status) := by
  apply Action.Twin.bind (write_twin channel text)
  intro _ _ _
  exact Action.Twin.pure rfl

variable {M : Machine φ δ}
variable {N : Machine φ ε}

theorem workingDirectory_twin
    (hFiles : N.files = M.files) :
    Action.Twin T.worlds (· = ·)
      (workingDirectory M) (workingDirectory N) := by
  intro w v hAlike
  unfold workingDirectory
  rw [hFiles, hAlike.files]
  cases M.files.workingDirectory w.files with
  | ok path => exact ⟨.ok rfl, hAlike, rfl⟩
  | error fault => exact ⟨.error fault, hAlike, rfl⟩

theorem enterDirectory_twin
    (hFiles : N.files = M.files)
    (path : Path) :
    Action.Twin T.worlds (· = ·)
      (enterDirectory M path) (enterDirectory N path) := by
  intro w v hAlike
  unfold enterDirectory
  rw [hFiles, hAlike.files]
  cases M.files.enter w.files path with
  | ok files => exact ⟨.ok rfl, { hAlike with files := rfl }, rfl⟩
  | error fault => exact ⟨.error fault, hAlike, rfl⟩

end World

end LineShell

------------------------------------------------------------
-- Builtins
------------------------------------------------------------

namespace LineShell

namespace Builtin

variable {φ δ ε : Type}
variable {T : Tolerance δ ε}
variable {M : Machine φ δ}
variable {N : Machine φ ε}

theorem findExecutable_twin
    (hFiles : N.files = M.files)
    (name : Text) :
    Action.Twin T.worlds (· = ·)
      (findExecutable M name) (findExecutable N name) := by
  intro w v hAlike
  unfold findExecutable
  simp only [Action.inquire_apply]
  rw [hFiles, hAlike.environment, hAlike.files]
  refine ⟨?_, hAlike, rfl⟩
  cases (Search.find M.files w.environment w.files name).result with
  | ok path? => exact .ok rfl
  | error fault => exact .error fault

theorem enter_twin
    (hFiles : N.files = M.files)
    (name : Text)
    (path : Path) :
    Action.Twin T.worlds (· = ·)
      (enter M name path) (enter N name path) := by
  apply Action.Twin.bind
    (Action.Twin.attempt (World.enterDirectory_twin hFiles path))
  intro first second hResults
  cases hResults with
  | ok _ => exact Action.Twin.pure rfl
  | error fault =>
      by_cases hHost : fault.isHost
      · simp only [hHost, if_true]
        apply Action.Twin.bind (World.log_twin _ _)
        intro _ _ _
        exact World.say_twin _ _ _
      · simp only [hHost]
        exact Action.Twin.raise fault

theorem changeDirectoryTo_twin
    (hFiles : N.files = M.files)
    (name : Text)
    (args : List Text) :
    Action.Twin T.worlds (· = ·)
      (changeDirectoryTo M name args)
      (changeDirectoryTo N name args) := by
  apply Action.Twin.bind Action.Twin.get
  intro w v hAlike
  rw [hAlike.environment]
  cases target? w.environment args with
  | none => exact World.say_twin _ _ _
  | some path => exact enter_twin hFiles name path

theorem printWorkingDirectory_twin
    (hFiles : N.files = M.files) :
    Action.Twin T.worlds (· = ·)
      (printWorkingDirectory M) (printWorkingDirectory N) := by
  apply Action.Twin.bind
    (Action.Twin.attempt (World.workingDirectory_twin hFiles))
  intro first second hResults
  cases hResults with
  | ok hPaths =>
      rw [hPaths]
      exact World.say_twin _ _ _
  | error fault =>
      by_cases hSystem : fault.isSystem
      · simp only [hSystem, if_true]
        exact Action.Twin.raise _
      · simp only [hSystem]
        exact Action.Twin.raise fault

theorem echoWords_twin
    (words : List Text) :
    Action.Twin T.worlds (· = ·)
      (echoWords words : Action (World φ δ) Int)
      (echoWords words) := by
  induction words with
  | nil => exact World.say_twin _ _ _
  | cons word words ih =>
      apply Action.Twin.bind (World.write_twin _ _)
      intro _ _ _
      exact ih

theorem exitWith_twin
    (name : Text)
    (args : List Text) :
    Action.Twin T.worlds (· = ·)
      (exitWith name args : Action (World φ δ) Int)
      (exitWith name args) := by
  cases args with
  | nil => exact Action.Twin.raise _
  | cons argument args =>
      simp only [exitWith]
      split
      · exact Action.Twin.raise _
      · exact World.say_twin _ _ _
      · exact Action.Twin.raise _

theorem requireArgs_twin
    (name : Text)
    (args : List Text)
    (least : Int)
    (usage : Text) :
    Action.Twin T.worlds (· = ·)
      (Report.requireArgs name args least usage :
        Action (World φ δ) Bool)
      (Report.requireArgs name args least usage) := by
  unfold Report.requireArgs
  by_cases hEnough : least ≤ args.length
  · simp only [hEnough, if_true]
    exact Action.Twin.pure rfl
  · simp only [hEnough]
    apply Action.Twin.bind (World.write_twin _ _)
    intro _ _ _
    by_cases hUsage : !usage.isEmpty
    · simp only [hUsage, if_true]
      apply Action.Twin.bind (World.write_twin _ _)
      intro _ _ _
      exact Action.Twin.pure rfl
    · simp only [hUsage]
      exact Action.Twin.pure rfl

theorem describeName_twin
    (hFiles : N.files = M.files)
    (name : Text) :
    Action.Twin T.worlds (· = ·)
      (describeName M name) (describeName N name) := by
  apply Action.Twin.bind Action.Twin.get
  intro w v hAlike
  rw [hAlike.builtins]
  by_cases hHolds : w.builtins.holds name
  · simp only [hHolds, if_true]
    exact World.say_twin _ _ _
  · simp only [hHolds]
    apply Action.Twin.bind (findExecutable_twin hFiles name)
    rintro path? _ rfl
    cases path? with
    | none => exact World.say_twin _ _ _
    | some path => exact World.say_twin _ _ _

theorem describeFirst_twin
    (hFiles : N.files = M.files)
    (name : Text)
    (args : List Text) :
    Action.Twin T.worlds (· = ·)
      (describeFirst M name args)
      (describeFirst N name args) := by
  apply Action.Twin.bind (requireArgs_twin _ _ _ _)
  rintro enough _ rfl
  cases enough with
  | true => exact describeName_twin hFiles _
  | false => exact Action.Twin.pure rfl

end Builtin

namespace Script

variable {φ δ ε : Type}
variable {T : Tolerance δ ε}

theorem say_twin
    (writes : List (Channel × Text)) :
    Action.Twin T.worlds (· = ·)
      (say writes : Action (World φ δ) Unit) (say writes) := by
  induction writes with
  | nil => exact Action.Twin.pure rfl
  | cons piece writes ih =>
      apply Action.Twin.bind (World.write_twin piece.1 piece.2)
      intro _ _ _
      exact ih

theorem run_twin
    (script : Script) :
    Action.Twin T.worlds (· = ·)
      (run script : Action (World φ δ) Int)
      (run script) := by
  apply Action.Twin.bind (say_twin script.writes)
  intro _ _ _
  apply Action.Twin.ofExcept
  cases script.ending with
  | ok status => exact .ok rfl
  | error fault => exact .error fault

end Script

namespace Builtin

variable {φ δ ε : Type}
variable {T : Tolerance δ ε}
variable {M : Machine φ δ}
variable {N : Machine φ ε}

/-
  No builtin looks at the device or at the last status: on the
  same files, every one of them is its own twin.
-/
theorem run_twin
    (hFiles : N.files = M.files)
    (builtin : Builtin)
    (name : Text)
    (args : List Text) :
    Action.Twin T.worlds (· = ·)
      (run M builtin name args) (run N builtin name args) := by
  cases builtin with
  | changeDirectory => exact changeDirectoryTo_twin hFiles name args
  | echo => exact echoWords_twin args
  | exit => exact exitWith_twin name args
  | greet => exact World.say_twin _ _ _
  | printDirectory => exact printWorkingDirectory_twin hFiles
  | describe => exact describeFirst_twin hFiles name args
  | added script => exact Script.run_twin (script name args)

end Builtin

end LineShell
