import LineShell.Proofs.Footprint
import LineShell.Proofs.TwinSessions

/-
  What lasts from one line to the next.

  Where children change nothing, every line but those of `cd`
  leaves the world as it was, up to the last status.  So the
  lines before a command count for as much as the lines of
  `cd` among them, which count for the directory they lead to.

  Main declarations:
    * `Machine.Fixed`
    * `Shell.afterLines`
    * `Shell.execute_alike_of_other`
    * `Shell.afterLines_alike`
    * `Shell.execute_depends_on_directory`
-/

------------------------------------------------------------
-- Worlds with Different Histories
------------------------------------------------------------

namespace LineShell

variable {φ δ : Type}

/- Nothing may differ but the last status. -/
def Tolerance.ofHistory (δ : Type) : Tolerance δ δ where
  shows := fun _ => true
  answers := (· = ·)
  statuses := fun _ _ => True
  devices := (· = ·)
  answers_refl := fun _ => rfl
  statuses_of_answers := fun _ _ _ => trivial

theorem World.launch_twin
    (M : Machine φ δ)
    (request : Request) :
    Action.Twin (Tolerance.ofHistory δ).worlds (· = ·)
      (launch M request) (launch M request) := by
  intro w v hAlike
  have hDevice : w.device = v.device := hAlike.device
  have hChild : v.child M request = w.child M request := by
    unfold child
    rw [hAlike.environment, hAlike.files, hDevice]
  rw [launch_apply, launch_apply, hChild]
  refine ⟨?_, { hAlike with files := rfl, device := rfl }, rfl⟩
  cases (w.child M request).result with
  | ok status => exact .ok rfl
  | error fault => exact .error fault

/- No external command looks at the last status. -/
theorem Invocation.external_twin
    (M : Machine φ δ)
    (path : Path)
    (argv : List Text) :
    Action.Twin (Tolerance.ofHistory δ).worlds (· = ·)
      (external M path argv) (external M path argv) := by
  apply Action.Twin.bind flushBoth_twin
  intro _ _ _
  apply Action.Twin.bind (World.log_twin _ _)
  intro _ _ _
  apply Action.Twin.bind
    (Action.Twin.attempt (World.launch_twin M ⟨path, argv⟩))
  intro first second hResults
  have hLog (message : Text) (status : Int) :
      Action.Twin (Tolerance.ofHistory δ).worlds (· = ·)
        (do
          World.log .process message
          return status : Action (World φ δ) Int)
        (do
          World.log .process message
          return status) := by
    apply Action.Twin.bind (World.log_twin _ _)
    intro _ _ _
    exact Action.Twin.pure rfl
  rw [hResults.eq]
  split
  · exact hLog _ _
  · exact hLog _ _
  · exact Action.Twin.raise _

/- A machine is its own twin for worlds that differ in history. -/
theorem Machine.twin_self
    (M : Machine φ δ) :
    Machine.Twin (Tolerance.ofHistory δ) M M where
  files := rfl
  external := Invocation.external_twin M

end LineShell

------------------------------------------------------------
-- Lines That Leave Nothing Behind
------------------------------------------------------------

namespace LineShell

variable {φ δ : Type}

/-
  A machine that is not changed by its children: neither files
  nor devices remember them.
-/
structure Machine.Fixed
    (M : Machine φ δ) : Prop where
  files :
    ∀ environment files device request,
      (M.launch environment files device request).files = files
  device :
    ∀ environment files device request,
      (M.launch environment files device request).device = device

namespace Effect

/- The device stays as it is. -/
def sameDevice : Effect (World φ δ) :=
  fun before _ after => after.device = before.device

theorem sameDevice_line
    {M : Machine φ δ}
    (hFixed : M.Fixed) :
    (sameDevice : Effect (World φ δ)).Line M where
  still := fun _ => rfl
  join := fun hFirst hSecond => hSecond.trans hFirst
  wrote := fun _ _ _ => rfl
  flushed := fun _ _ => rfl
  failed := fun _ _ _ => rfl
  logged := fun _ _ => rfl
  probed := fun _ _ => rfl
  enter := by
    intro path w
    unfold World.enterDirectory
    cases M.files.enter w.files path with
    | ok files => rfl
    | error fault => rfl
  launch := fun _ _ => hFixed.device _ _ _ _
  remember := fun _ _ => rfl

end Effect

namespace Shell

variable {M : Machine φ δ}
variable {line : Text}
variable {w v : World φ δ}

/- Whether the first word of a line is `cd`. -/
def isChangeOfDirectory
    (line : Text) : Bool :=
  (splitWords (stripTerminator line)).head? == some "cd".toList

/- After a line, the builtins are still the standard ones. -/
theorem execute_standard
    (M : Machine φ δ)
    (line : Text)
    (hBuiltins : w.builtins = Registry.standard) :
    (execute M line w).state.builtins = Registry.standard :=
  (execute_sameSetting M line w).builtins.trans hBuiltins

/- Streams that always answer alike are the same after a line. -/
theorem execute_streams
    (M : Machine φ δ)
    (line : Text)
    (hStreams :
      ∀ channel operation, w.streams.Constant channel operation) :
    (execute M line w).state.streams = w.streams :=
  (execute_sameSetting M line w).streams.eq_of_constant hStreams

/-
  A line leaves the files as they were, or it is a line of `cd`
  that entered a directory.
-/
theorem execute_files_of_fixed
    (hFixed : M.Fixed)
    (hBuiltins : w.builtins = Registry.standard)
    (line : Text) :
    (execute M line w).state.files = w.files ∨
      isChangeOfDirectory line = true ∧
        ∃ path, M.files.enter w.files path =
          .ok (execute M line w).state.files := by
  rcases execute_files M line hBuiltins with
    hStay | ⟨hWord, -, hEnter⟩ | ⟨request, -, hLeft⟩
  · exact Or.inl hStay
  · exact Or.inr ⟨beq_iff_eq.2 hWord, hEnter⟩
  · exact Or.inl (hLeft.trans (hFixed.files _ _ _ _))

/- Any other line than one of `cd` only leaves a last status. -/
theorem execute_alike_of_other
    (hFixed : M.Fixed)
    (hBuiltins : w.builtins = Registry.standard)
    (hStreams :
      ∀ channel operation, w.streams.Constant channel operation)
    (hOther : isChangeOfDirectory line = false)
    (hAlike : World.Alike (Tolerance.ofHistory δ) w v) :
    World.Alike (Tolerance.ofHistory δ)
      (execute M line w).state v := by
  have hSetting := execute_sameSetting M line w
  have hDevice : (execute M line w).state.device = w.device :=
    execute_respects (Effect.sameDevice_line hFixed) line w
  have hFiles : (execute M line w).state.files = w.files := by
    rcases execute_files_of_fixed hFixed hBuiltins line with
      hStay | ⟨hChange, -⟩
    · exact hStay
    · rw [hOther] at hChange
      exact absurd hChange Bool.false_ne_true
  exact
    { environment :=
        hAlike.environment.trans hSetting.environment.symm
      files := hAlike.files.trans hFiles.symm
      builtins := hAlike.builtins.trans hSetting.builtins.symm
      streams :=
        hAlike.streams.trans
          (execute_streams M line hStreams).symm
      lastStatus := trivial
      device := hDevice.trans hAlike.device }

end Shell

end LineShell

------------------------------------------------------------
-- Lines in Order
------------------------------------------------------------

namespace LineShell

namespace Shell

variable {φ δ : Type}
variable {M : Machine φ δ}

/- The world after some lines, whether they return or fail. -/
def afterLines
    (M : Machine φ δ)
    (lines : List Text)
    (w : World φ δ) : World φ δ :=
  lines.foldl (fun w line => (execute M line w).state) w

/- What every line respects, lines in order respect. -/
theorem afterLines_respects
    {R : Effect (World φ δ)}
    (hR : R.Line M)
    (lines : List Text)
    (w : World φ δ) :
    ∃ trace, R w trace (afterLines M lines w) := by
  induction lines generalizing w with
  | nil => exact ⟨[], hR.still w⟩
  | cons line rest ih =>
      rcases ih (execute M line w).state with ⟨trace, hRest⟩
      exact ⟨_, hR.join (execute_respects hR line w) hRest⟩

/-
  Of the lines so far, only those of `cd` count: without the
  others, worlds that are alike stay alike.
-/
theorem afterLines_alike
    (hFixed : M.Fixed)
    (lines : List Text)
    {w v : World φ δ}
    (hBuiltins : w.builtins = Registry.standard)
    (hStreams :
      ∀ channel operation, w.streams.Constant channel operation)
    (hAlike : World.Alike (Tolerance.ofHistory δ) w v) :
    World.Alike (Tolerance.ofHistory δ)
      (afterLines M lines w)
      (afterLines M (lines.filter isChangeOfDirectory) v) := by
  induction lines generalizing w v with
  | nil => exact hAlike
  | cons line rest ih =>
      have hKept := execute_standard M line hBuiltins
      have hAnswers := hStreams
      rw [← execute_streams M line hStreams] at hAnswers
      cases hChange : isChangeOfDirectory line with
      | true =>
          rw [List.filter_cons_of_pos hChange]
          apply ih hKept hAnswers
          exact (execute_twin M.twin_self line w v hAlike).state
      | false =>
          rw [List.filter_cons_of_neg (by simp [hChange])]
          exact ih hKept hAnswers
            (execute_alike_of_other hFixed hBuiltins hStreams
              hChange hAlike)

/-
  What entering a directory leaves alone of the files, lines
  leave alone.
-/
theorem afterLines_nodes
    {ν : Type}
    {nodes : φ → ν}
    (hFixed : M.Fixed)
    (hNodes :
      ∀ files path entered,
        M.files.enter files path = .ok entered →
          nodes entered = nodes files)
    (lines : List Text)
    {w : World φ δ}
    (hBuiltins : w.builtins = Registry.standard) :
    nodes (afterLines M lines w).files = nodes w.files := by
  induction lines generalizing w with
  | nil => rfl
  | cons line rest ih =>
      have hKept := execute_standard M line hBuiltins
      have hLine : nodes (execute M line w).state.files =
          nodes w.files := by
        rcases execute_files_of_fixed hFixed hBuiltins line with
          hStay | ⟨-, path, hEnter⟩
        · rw [hStay]
        · exact hNodes _ path _ hEnter
      exact (ih hKept).trans hLine

end Shell

end LineShell

------------------------------------------------------------
-- The Directory Alone
------------------------------------------------------------

namespace LineShell

variable {φ δ : Type}

/-
  A world in which nothing was executed yet, with the files in
  another state.
-/
def World.fresh
    (w : World φ δ)
    (files : φ) : World φ δ :=
  { environment := w.environment
    files := files
    device := w.device
    streams := w.streams }

/- The children of a tree change nothing. -/
theorem LexicalTree.machine_fixed :
    machine.Fixed :=
  ⟨fun _ _ _ _ => rfl, fun _ _ _ _ => rfl⟩

namespace Shell

/-
  Only the working directory lasts, if the streams always
  answer alike, as those do that work.  After any lines,
  returned or failed, a line that is not empty does exactly
  what it does in a fresh shell over the same files, in the
  directory that the lines of `cd` alone lead to: it ends
  alike, leaves the same trace, event by event, and the same
  directory.  Whatever entering a directory leaves alone is as
  it was at the start.
-/
theorem execute_depends_on_directory
    (M : Machine φ δ)
    (w : World φ δ)
    (lines : List Text)
    (line : Text)
    (hBuiltins : w.builtins = Registry.standard)
    (hStreams :
      ∀ channel operation, w.streams.Constant channel operation)
    (hFixed : M.Fixed)
    (hLine : splitWords (stripTerminator line) ≠ []) :
    let moved :=
      (afterLines M (lines.filter isChangeOfDirectory) w).files
    let later := execute M line (afterLines M lines w)
    let alone := execute M line (w.fresh moved)
    later.result = alone.result ∧
      later.trace = alone.trace ∧
      later.state.files = alone.state.files ∧
      ∀ {ν : Type} (nodes : φ → ν),
        (∀ files path entered,
          M.files.enter files path = .ok entered →
            nodes entered = nodes files) →
        nodes moved = nodes w.files := by
  intro moved later alone
  have hSame : World.Alike (Tolerance.ofHistory δ) w w :=
    ⟨rfl, rfl, rfl, rfl, trivial, rfl⟩
  have hLines :=
    afterLines_alike hFixed lines hBuiltins hStreams hSame
  have hFresh : World.Alike (Tolerance.ofHistory δ)
      (w.fresh moved) (afterLines M lines w) := by
    rcases afterLines_respects (Effect.steady_line M) lines w with
      ⟨_, hSetting, -⟩
    rcases afterLines_respects (Effect.sameDevice_line hFixed)
        lines w with
      ⟨_, hDevice⟩
    exact
      { environment := hSetting.environment
        files := hLines.files.symm
        builtins := hSetting.builtins.trans hBuiltins
        streams := hSetting.streams.eq_of_constant hStreams
        lastStatus := trivial
        device := Eq.symm hDevice }
  cases hParse : CommandLine.parse? line with
  | none =>
      exact absurd ((CommandLine.parse?_eq_none_iff line).1 hParse)
        hLine
  | some command =>
      have hTwin := execute_twin_of_command M.twin_self hParse
        _ _ hFresh
      have hShown (trace : Trace) :
          trace.filter (Tolerance.ofHistory δ).shows = trace :=
        List.filter_eq_self.2 fun _ _ => rfl
      refine ⟨hTwin.result.eq, ?_, hTwin.state.files, ?_⟩
      · rw [← hShown later.trace, ← hShown alone.trace]
        exact hTwin.trace
      · intro ν nodes hNodes
        exact afterLines_nodes hFixed hNodes _ hBuiltins

/-
  A refused `cd`, a child, and a name that is not found leave
  nothing to the relative name after them; `cd` does.
-/
theorem execute_depends_on_directory_relative :
    let w : World LexicalTree (Except Fault Int) :=
      { environment := [("PATH", "bin")]
        files := LexicalTree.build "/" ["/home"]
          [("/home/bin/show", 0o100755)]
        device := .ok 7 }
    let lines : List Text :=
      ["nope", "cd home", "cd /gone", "show", "exit 3", "hello"]
    let moved :=
      afterLines LexicalTree.machine
        (lines.filter isChangeOfDirectory) w
    let later :=
      execute LexicalTree.machine "show a"
        (afterLines LexicalTree.machine lines w)
    let alone :=
      execute LexicalTree.machine "show a" (w.fresh moved.files)
    w.builtins = Registry.standard ∧
      (∀ channel operation,
        w.streams.Constant channel operation) ∧
      LexicalTree.machine.Fixed ∧
      splitWords (stripTerminator "show a") ≠ [] ∧
      lines.filter isChangeOfDirectory =
        ["cd home".toList, "cd /gone".toList] ∧
      moved.files.directory = "/home".toList ∧
      later.trace = alone.trace ∧
      later.trace.requests =
        [⟨"bin/show", ["show".toList, ['a']]⟩] := by
  intro w lines moved later alone
  rcases execute_depends_on_directory LexicalTree.machine w
      lines "show a" rfl (fun _ _ _ => rfl)
      LexicalTree.machine_fixed (by decide) with
    ⟨-, hTrace, -, -⟩
  exact ⟨rfl, fun _ _ _ => rfl, LexicalTree.machine_fixed,
    by decide, by decide, by decide, hTrace, by decide⟩

end Shell

end LineShell
