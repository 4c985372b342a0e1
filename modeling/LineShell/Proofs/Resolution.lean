import LineShell.LexicalTree
import LineShell.Proofs.Execution

/-
  How names are resolved, and that the description of a name
  is true to it.

  `Shell.resolve` is the resolution by itself: a builtin, or
  what a search finds.  Dispatching a command and describing
  its name both follow it, probe by probe.

  Main declarations:
    * `Search.slash_mem_of_find`
    * `Search.find_answers`
    * `Shell.resolve`
    * `Shell.invocation_of_resolve`
    * `Shell.describe_of_resolve`
    * `Shell.describe_agrees_with_invocation`
-/

------------------------------------------------------------
-- Found Paths
------------------------------------------------------------

namespace LineShell

/- A name under a directory has a slash before it. -/
theorem Path.slash_mem_under
    {dir : Path}
    (hDir : dir ≠ [])
    (name : Path) :
    '/' ∈ under dir name := by
  unfold under
  cases hEnds : Text.endsWith '/' dir with
  | true =>
      have hLast : dir.getLast? = some '/' :=
        eq_of_beq hEnds
      have hMem : '/' ∈ dir := List.mem_of_getLast? hLast
      simpa using Or.inl hMem
  | false =>
      have hEmpty : dir.isEmpty = false := by
        simpa using hDir
      simp [hEmpty]

namespace Search

variable {φ : Type}
variable {F : FileSystem φ}
variable {files : φ}
variable {environment : Environment}
variable {name : Text}
variable {path : Path}

/- No directory of a search is empty. -/
theorem directory_ne_nil
    {dir : Path}
    (hDir : dir ∈ directories environment) :
    dir ≠ [] := by
  unfold directories at hDir
  cases hPath : environment.searchPath with
  | none =>
      rw [hPath] at hDir
      exact absurd hDir List.not_mem_nil
  | some search =>
      rw [hPath] at hDir
      have hFilled := (List.mem_filter.1 hDir).2
      simpa using hFilled

theorem slash_mem_candidate
    (hPath : path ∈ candidates environment name) :
    '/' ∈ path := by
  rcases List.mem_map.1 hPath with ⟨dir, hDir, rfl⟩
  exact Path.slash_mem_under (directory_ne_nil hDir) _

/- A search answers with a path that it was given. -/
theorem mem_of_first
    {paths : List Path}
    (hFirst :
      (first F files name paths).result = .ok (some path)) :
    path ∈ paths := by
  induction paths with
  | nil => cases hFirst
  | cons head rest ih =>
      unfold first at hFirst
      cases hExamined : (examine F files head).result with
      | error fault =>
          simp [hExamined] at hFirst
      | ok accepted =>
          cases accepted with
          | true =>
              simp only [hExamined, Except.ok.injEq,
                Option.some.injEq] at hFirst
              rw [hFirst]
              exact List.mem_cons_self
          | false =>
              simp only [hExamined] at hFirst
              exact List.mem_cons_of_mem head (ih hFirst)

theorem slash_mem_of_find
    (hFind :
      (find F environment files name).result =
        .ok (some path)) :
    '/' ∈ path :=
  slash_mem_candidate (mem_of_first hFind)

end Search

end LineShell

------------------------------------------------------------
-- Refusals
------------------------------------------------------------

namespace LineShell

/-
  Whatever mode the files do not tell, the host refuses to
  tell.
-/
def FileSystem.HostRefuses
    {φ : Type}
    (F : FileSystem φ)
    (files : φ) : Prop :=
  ∀ path fault, F.mode files path = .error fault →
    fault.isHost = true

/- A tree refuses as its arranged failures do. -/
theorem LexicalTree.hostRefuses
    {tree : LexicalTree}
    (hFaults :
      ∀ key fault, tree.faults.find? key = some fault →
        fault.isHost = true) :
    fileSystem.HostRefuses tree := by
  intro path fault hMode
  change tree.lookup path = .error fault at hMode
  unfold lookup at hMode
  split at hMode
  · cases hMode
    rfl
  · split at hMode
    · cases hMode
      rfl
    · dsimp only at hMode
      split at hMode
      · next arranged hFind =>
          cases hMode
          exact hFaults _ _ hFind
      · split at hMode
        · cases hMode
          rfl
        · split at hMode
          · cases hMode
            rfl
          · cases hMode

namespace Search

variable {φ : Type}
variable {F : FileSystem φ}
variable {files : φ}

theorem examine_answers
    (hRefuses : F.HostRefuses files)
    (path : Path) :
    ∃ accepted, (examine F files path).result = .ok accepted := by
  unfold examine
  cases hMode : F.mode files path with
  | error fault =>
      have hHost := hRefuses path fault hMode
      simp only [hHost, if_true]
      exact ⟨false, rfl⟩
  | ok mode =>
      by_cases hRegular : FileMode.isRegular mode
      · simp only [hRegular, if_true]
        exact ⟨_, rfl⟩
      · simp only [hRegular]
        exact ⟨false, rfl⟩

theorem first_answers
    (hRefuses : F.HostRefuses files)
    (name : Text)
    (paths : List Path) :
    ∃ path?, (first F files name paths).result = .ok path? := by
  induction paths with
  | nil => exact ⟨none, rfl⟩
  | cons path rest ih =>
      rcases examine_answers hRefuses path with
        ⟨accepted, hExamined⟩
      unfold first
      cases accepted with
      | true =>
          simp only [hExamined]
          exact ⟨some path, rfl⟩
      | false =>
          simp only [hExamined]
          exact ih

/- A search that only the host can refuse has an answer. -/
theorem find_answers
    (hRefuses : F.HostRefuses files)
    (environment : Environment)
    (name : Text) :
    ∃ path?,
      (find F environment files name).result = .ok path? :=
  first_answers hRefuses name (candidates environment name)

end Search

end LineShell

------------------------------------------------------------
-- Resolution
------------------------------------------------------------

namespace LineShell

namespace Shell

variable {φ δ : Type}
variable {M : Machine φ δ}
variable {w : World φ δ}
variable {name : Text}
variable {args : List Text}
variable {executor? : Option Executor}

/- What carries a name out: a builtin, or what a search finds. -/
def resolve
    (M : Machine φ δ)
    (w : World φ δ)
    (name : Text) : Inquiry (Option Executor) :=
  match w.builtins.builtin? name with
  | some builtin => ⟨.ok (some (.builtin builtin)), []⟩
  | none =>
      let found :=
        Search.find M.files w.environment w.files name
      ⟨found.result.map (Option.map .external), found.trace⟩

theorem resolve_of_builtin
    {builtin : Builtin}
    (hBuiltin : w.builtins.builtin? name = some builtin) :
    resolve M w name = ⟨.ok (some (.builtin builtin)), []⟩ := by
  simp [resolve, hBuiltin]

theorem resolve_of_find
    {path? : Option Path}
    (hBuiltin : w.builtins.builtin? name = none)
    (hFind :
      (Search.find M.files w.environment w.files name).result =
        .ok path?) :
    resolve M w name =
      ⟨.ok (path?.map .external),
        (Search.find M.files w.environment w.files
          name).trace⟩ := by
  simp [resolve, hBuiltin, hFind, Except.map]

theorem resolve_of_find_fault
    {fault : Fault}
    (hBuiltin : w.builtins.builtin? name = none)
    (hFind :
      (Search.find M.files w.environment w.files name).result =
        .error fault) :
    resolve M w name =
      ⟨.error fault,
        (Search.find M.files w.environment w.files
          name).trace⟩ := by
  simp [resolve, hBuiltin, hFind, Except.map]

/- A name that only the host can refuse is resolved. -/
theorem resolve_answers
    (hRefuses : M.files.HostRefuses w.files)
    (name : Text) :
    ∃ executor?, (resolve M w name).result = .ok executor? := by
  cases hBuiltin : w.builtins.builtin? name with
  | some builtin =>
      rw [resolve_of_builtin hBuiltin]
      exact ⟨_, rfl⟩
  | none =>
      rcases Search.find_answers hRefuses w.environment name with
        ⟨path?, hFind⟩
      rw [resolve_of_find hBuiltin hFind]
      exact ⟨_, rfl⟩

/- Resolving a name writes nothing. -/
theorem resolve_written
    (M : Machine φ δ)
    (w : World φ δ)
    (name : Text)
    (channel : Channel) :
    (resolve M w name).trace.written channel = [] := by
  unfold resolve
  cases w.builtins.builtin? name with
  | some builtin => rfl
  | none =>
      exact Builtin.findExecutable_respects
        (Effect.mute_quiet channel) M name w

/- A resolved path is told apart from the name of a builtin. -/
theorem resolve_path_ne
    {path : Path}
    (hResolve :
      (resolve M w name).result = .ok (some (.external path))) :
    path ≠ "a shell builtin".toList := by
  cases hBuiltin : w.builtins.builtin? name with
  | some builtin =>
      rw [resolve_of_builtin hBuiltin] at hResolve
      cases hResolve
  | none =>
      cases hFind :
          (Search.find M.files w.environment w.files
            name).result with
      | error fault =>
          rw [resolve_of_find_fault hBuiltin hFind] at hResolve
          cases hResolve
      | ok path? =>
          rw [resolve_of_find hBuiltin hFind] at hResolve
          cases path? with
          | none => cases hResolve
          | some found =>
              cases hResolve
              have hSlash := Search.slash_mem_of_find hFind
              intro hEq
              rw [hEq] at hSlash
              exact absurd hSlash (by decide)

/- A command is prepared as its name is resolved. -/
theorem invocation_of_resolve
    (M : Machine φ δ)
    (w : World φ δ)
    (command : CommandLine) :
    (invocation M command w).result =
        ((resolve M w command.name).result.map fun executor? =>
          ⟨command.name, command.args, executor?⟩) ∧
      (invocation M command w).trace.probes =
        (resolve M w command.name).trace.probes := by
  cases hBuiltin : w.builtins.builtin? command.name with
  | some builtin =>
      rw [invocation_of_builtin hBuiltin,
        resolve_of_builtin hBuiltin]
      exact ⟨rfl, rfl⟩
  | none =>
      cases hFind :
          (Search.find M.files w.environment w.files
            command.name).result with
      | ok path? =>
          rw [invocation_of_find hBuiltin hFind,
            resolve_of_find hBuiltin hFind]
          exact ⟨rfl, rfl⟩
      | error fault =>
          rw [invocation_of_find_fault hBuiltin hFind,
            resolve_of_find_fault hBuiltin hFind]
          exact ⟨rfl, rfl⟩

end Shell

end LineShell

------------------------------------------------------------
-- Descriptions
------------------------------------------------------------

namespace LineShell

/-
  The run answers with the status and writes exactly the text,
  on standard output.
-/
structure Outcome.Says
    {σ : Type}
    (done : Outcome σ Int)
    (text : Text)
    (status : Int) : Prop where
  result : done.result = .ok status
  out : done.trace.written .out = text
  err : done.trace.written .err = []

/- A silent run with one write at its end says what it writes. -/
theorem Outcome.saying_of_write
    {σ : Type}
    (before : Trace)
    (hSilent : ∀ channel, before.written channel = [])
    (text : Text)
    (status : Int)
    (s : σ) :
    Says ⟨.ok status, s, before ++ [.wrote .out text]⟩
      text status := by
  refine ⟨rfl, ?_, ?_⟩
  · rw [Trace.written_append, hSilent]
    exact List.append_nil text
  · rw [Trace.written_append, hSilent]
    rfl

/- What a run says, nothing else is what it says. -/
theorem Outcome.Says.iff
    {σ : Type}
    {done : Outcome σ Int}
    {text : Text}
    {status : Int}
    (hSays : done.Says text status)
    (other : Text)
    (code : Int) :
    done.Says other code ↔ other = text ∧ code = status := by
  constructor
  · intro hOther
    refine ⟨hOther.out.symm.trans hSays.out, ?_⟩
    have hResult := hOther.result.symm.trans hSays.result
    exact Except.ok.inj hResult
  · rintro ⟨rfl, rfl⟩
    exact hSays

namespace Shell

variable {φ δ : Type}
variable {M : Machine φ δ}
variable {w : World φ δ}
variable {name : Text}
variable {executor? : Option Executor}

/- How the resolution of a name is described. -/
def wording
    (name : Text) : Option Executor → Text
  | none => name ++ ": not found\n"
  | some (.builtin _) => name ++ " is a shell builtin\n"
  | some (.external path) => name ++ " is " ++ path ++ "\n"

/- The status that its description has. -/
def standing : Option Executor → Int
  | none => 1
  | some _ => 0

/- A name is described once it is resolved. -/
theorem describe_eq
    (M : Machine φ δ)
    (called name : Text)
    (rest : List Text)
    (w : World φ δ) :
    Builtin.run M .describe called (name :: rest) w =
      Outcome.andThen
        ⟨(resolve M w name).result, w, (resolve M w name).trace⟩
        fun executor? => do
          World.write .out (wording name executor?)
          return standing executor? := by
  have hEnough : (1 : Int) ≤ (name :: rest).length := by
    rw [List.length_cons]
    omega
  have hDescribe :
      Builtin.run M .describe called (name :: rest) w =
        Builtin.describeName M name w := by
    simp only [Builtin.run, Builtin.describeFirst,
      Report.requireArgs, hEnough, if_true, Action.bind_apply,
      Action.pure_apply, Outcome.andThen_ok, List.headD_cons,
      List.nil_append]
  have hHolds := Registry.holds_eq_isSome w.builtins name
  rw [hDescribe]
  cases hBuiltin : w.builtins.builtin? name with
  | some builtin =>
      rw [hBuiltin] at hHolds
      rw [resolve_of_builtin hBuiltin]
      simp only [Builtin.describeName, Action.bind_apply,
        Action.get_apply, Outcome.andThen_ok, hHolds,
        Option.isSome_some, if_true]
      rfl
  | none =>
      rw [hBuiltin] at hHolds
      cases hFind :
          (Search.find M.files w.environment w.files
            name).result with
      | error fault =>
          rw [resolve_of_find_fault hBuiltin hFind]
          simp only [Builtin.describeName, Action.bind_apply,
            Action.get_apply, Outcome.andThen_ok, hHolds,
            Option.isSome_none, Bool.false_eq_true, if_false,
            Builtin.findExecutable, Action.inquire_apply, hFind,
            Outcome.andThen_error, List.nil_append]
      | ok path? =>
          rw [resolve_of_find hBuiltin hFind]
          simp only [Builtin.describeName, Action.bind_apply,
            Action.get_apply, Outcome.andThen_ok, hHolds,
            Option.isSome_none, Bool.false_eq_true, if_false,
            Builtin.findExecutable, Action.inquire_apply, hFind]
          cases path? with
          | none => rfl
          | some path => rfl

/- The description of a name resolves it and words that. -/
theorem describe_of_resolve
    (called : Text)
    (rest : List Text)
    (hOut : w.streams.Takes .out .write)
    (hResolve : (resolve M w name).result = .ok executor?) :
    Builtin.run M .describe called (name :: rest) w =
      ⟨.ok (standing executor?), w,
        (resolve M w name).trace ++
          [.wrote .out (wording name executor?)]⟩ := by
  rw [describe_eq, hResolve, Outcome.andThen_ok,
    World.say_accepted hOut]

theorem describe_wording
    (called : Text)
    (rest : List Text)
    (hOut : w.streams.Takes .out .write)
    (hResolve : (resolve M w name).result = .ok executor?) :
    (Builtin.run M .describe called (name :: rest) w).Says
      (wording name executor?) (standing executor?) := by
  rw [describe_of_resolve called rest hOut hResolve]
  exact Outcome.saying_of_write _ (resolve_written M w name) _ _ w

/- Describing a name probes what resolving it probes. -/
theorem describe_probes
    (called : Text)
    (rest : List Text)
    (hOut : w.streams.Takes .out .write)
    (hResolve : (resolve M w name).result = .ok executor?) :
    (Builtin.run M .describe called (name :: rest)
        w).trace.probes =
      (resolve M w name).trace.probes := by
  rw [describe_of_resolve called rest hOut hResolve,
    Trace.probes_append]
  exact List.append_nil _

end Shell

end LineShell

------------------------------------------------------------
-- Agreement
------------------------------------------------------------

namespace LineShell

namespace Shell

variable {φ δ : Type}
variable {M : Machine φ δ}
variable {w : World φ δ}
variable {name : Text}
variable {executor? : Option Executor}

/- Descriptions by a path differ as the paths do. -/
theorem wording_path_iff
    (name : Text)
    (path other : Path) :
    name ++ " is " ++ path ++ "\n" =
        wording name (some (.external other)) ↔
      path = other := by
  constructor
  · intro hEq
    have hEq : name ++ " is " ++ path ++ "\n" =
        name ++ " is " ++ other ++ "\n" := hEq
    exact List.append_cancel_left (List.append_cancel_right hEq)
  · intro hEq
    rw [hEq]
    rfl

/- The description of a builtin reads like that of a path. -/
theorem wording_builtin
    (name : Text) :
    name ++ " is a shell builtin\n" =
      name ++ " is " ++ "a shell builtin" ++ "\n" := by
  simp only [List.append_assoc]
  rfl

theorem wording_eq_builtin_iff
    (hResolve : (resolve M w name).result = .ok executor?) :
    (name ++ " is a shell builtin\n" = wording name executor? ∧
        0 = standing executor?) ↔
      ∃ builtin, executor? = some (.builtin builtin) := by
  constructor
  · rintro ⟨hText, hStatus⟩
    cases executor? with
    | none => cases hStatus
    | some executor =>
        cases executor with
        | builtin builtin => exact ⟨builtin, rfl⟩
        | external path =>
            rw [wording_builtin, wording_path_iff] at hText
            exact absurd hText.symm (resolve_path_ne hResolve)
  · rintro ⟨builtin, rfl⟩
    exact ⟨rfl, rfl⟩

theorem wording_eq_path_iff
    (hResolve : (resolve M w name).result = .ok executor?)
    (path : Path) :
    ((name ++ " is " ++ path ++ "\n" = wording name executor? ∧
          0 = standing executor?) ∧
        path ≠ "a shell builtin".toList) ↔
      executor? = some (.external path) := by
  constructor
  · rintro ⟨⟨hText, hStatus⟩, hPath⟩
    cases executor? with
    | none => cases hStatus
    | some executor =>
        cases executor with
        | builtin builtin =>
            have hText : name ++ " is " ++ path ++ "\n" =
                name ++ " is a shell builtin\n" := hText
            rw [wording_builtin] at hText
            exact absurd
              ((wording_path_iff name path _).1 hText) hPath
        | external other =>
            rw [(wording_path_iff name path other).1 hText]
  · rintro rfl
    exact ⟨⟨rfl, rfl⟩, resolve_path_ne hResolve⟩

theorem wording_eq_missing_iff
    (name : Text)
    (executor? : Option Executor) :
    (name ++ ": not found\n" = wording name executor? ∧
        1 = standing executor?) ↔
      executor? = none := by
  constructor
  · rintro ⟨-, hStatus⟩
    cases executor? with
    | none => rfl
    | some executor => cases hStatus
  · rintro rfl
    exact ⟨rfl, rfl⟩

/- A name that nothing carries out is told not to be found. -/
theorem run_of_missing_wording
    (M : Machine φ δ)
    (name : Text)
    (args : List Text)
    (hOut : w.streams.Takes .out .write) :
    (Invocation.run M ⟨name, args, none⟩ w).Says
      (name ++ ": command not found\n") 127 := by
  have hTail : (": command not found" : Text) ++ "\n" =
      ": command not found\n" := by
    decide
  have hText : (Fault.notFound name).message ++ "\n" =
      name ++ ": command not found\n" := by
    rw [← hTail, ← List.append_assoc]
    rfl
  rw [Invocation.run_of_no_executor rfl hOut, hText]
  exact Outcome.saying_of_write [] (fun _ => rfl) _ _ w

/-
  The description of a name says how a command of that name is
  carried out, whatever builtins are registered, and it probes
  the same files in the same order.  Its texts for a builtin
  and for a path are alike, but no search finds a path that
  reads "a shell builtin".
-/
theorem describe_agrees_with_invocation
    (M : Machine φ δ)
    (w : World φ δ)
    (called name : Text)
    (rest args : List Text)
    (hRefuses : M.files.HostRefuses w.files)
    (hOut : w.streams.Takes .out .write) :
    let described :=
      Builtin.run M .describe called (name :: rest) w
    let prepared := invocation M ⟨name, args⟩ w
    (∃ executor?,
        prepared.result = .ok ⟨name, args, executor?⟩) ∧
      (described.Says (name ++ " is a shell builtin\n") 0 ↔
        ∃ builtin, prepared.result =
          .ok ⟨name, args, some (.builtin builtin)⟩) ∧
      (∀ path,
        described.Says (name ++ " is " ++ path ++ "\n") 0 ∧
            path ≠ "a shell builtin".toList ↔
          prepared.result =
            .ok ⟨name, args, some (.external path)⟩) ∧
      (described.Says (name ++ ": not found\n") 1 ↔
        prepared.result = .ok ⟨name, args, none⟩) ∧
      (Invocation.run M ⟨name, args, none⟩ prepared.state).Says
        (name ++ ": command not found\n") 127 ∧
      described.trace.probes = prepared.trace.probes := by
  intro described prepared
  rcases resolve_answers hRefuses name with
    ⟨executor?, hResolve⟩
  have hSays := (describe_wording called rest hOut hResolve).iff
  rcases invocation_of_resolve M w ⟨name, args⟩ with
    ⟨hInvocation, hProbes⟩
  have hResult :
      prepared.result = .ok ⟨name, args, executor?⟩ := by
    rw [hResolve] at hInvocation
    exact hInvocation
  have hPrepared (other? : Option Executor) :
      prepared.result = .ok ⟨name, args, other?⟩ ↔
        executor? = other? := by
    rw [hResult]
    constructor
    · intro hEq
      exact congrArg Invocation.executor (Except.ok.inj hEq)
    · rintro rfl
      rfl
  have hState : prepared.state = w :=
    invocation_state M ⟨name, args⟩ w
  refine ⟨⟨executor?, hResult⟩, ?_, ?_, ?_, ?_, ?_⟩
  · simp only [hPrepared]
    exact (hSays _ 0).trans (wording_eq_builtin_iff hResolve)
  · intro path
    rw [hPrepared, ← wording_eq_path_iff hResolve path]
    exact and_congr_left' (hSays _ 0)
  · rw [hPrepared, ← wording_eq_missing_iff name executor?]
    exact hSays _ 1
  · rw [hState]
    exact run_of_missing_wording M name args hOut
  · exact (describe_probes called rest hOut hResolve).trans
      hProbes.symm

/- Slashes before a name lead nowhere else. -/
theorem describe_agrees_with_invocation_leading_slash :
    let w : World LexicalTree (Except Fault Int) :=
      { environment := [("PATH", "/bin")]
        files := LexicalTree.build "/" [] [("/bin/show", 0o100755)]
        device := .ok 0 }
    let described := Builtin.run LexicalTree.machine .describe
      "type" ["//show"] w
    LexicalTree.machine.files.HostRefuses w.files ∧
      w.streams.Takes .out .write ∧
      described.Says "//show is /bin/show\n" 0 ∧
      described.trace.probes = ["/bin/show".toList] := by
  intro w described
  have hRefuses : LexicalTree.machine.files.HostRefuses w.files :=
    LexicalTree.hostRefuses fun _ _ hFind => by cases hFind
  rcases describe_agrees_with_invocation LexicalTree.machine w
      "type" "//show" [] [] hRefuses (fun _ => rfl) with
    ⟨-, -, hPath, -, -, hProbes⟩
  refine ⟨hRefuses, fun _ => rfl, ?_, ?_⟩
  · exact ((hPath "/bin/show").2 rfl).1
  · exact hProbes.trans rfl

end Shell

end LineShell
