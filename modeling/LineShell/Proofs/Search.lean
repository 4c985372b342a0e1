import LineShell.Proofs.SearchPath

/-
  What a search finds and which files it probes.

  A search goes through its candidates in order and stops at
  the first that can be run.  `Search.FirstOf` says so of a
  list of paths, and the files that are probed are exactly
  those that it goes through.

  Main declarations:
    * `FileSystem.Runs`
    * `Search.FirstOf`
    * `Search.first_of_accepted`
    * `Search.first_of_rejected`
    * `Search.first_of_fault`
    * `Search.first_induction`
    * `Search.first_firstOf`
    * `Search.find_firstOf`
-/

------------------------------------------------------------
-- Runnable Paths
------------------------------------------------------------

namespace LineShell

/-
  The path leads to a regular file that somebody may execute.
-/
def FileSystem.Runs
    {φ : Type}
    (F : FileSystem φ)
    (files : φ)
    (path : Path) : Prop :=
  ∃ mode, F.mode files path = .ok mode ∧
    FileMode.isRegular mode = true ∧
    FileMode.isExecutable mode = true

namespace Search

variable {φ : Type}
variable {F : FileSystem φ}
variable {files : φ}
variable {path : Path}

/- A candidate is accepted exactly if it can be run. -/
theorem examine_eq_true_iff :
    (examine F files path).result = .ok true ↔
      F.Runs files path := by
  unfold examine FileSystem.Runs
  cases hMode : F.mode files path with
  | error fault =>
      by_cases hHost : fault.isHost
      · simp [hHost]
      · simp [hHost]
  | ok mode =>
      by_cases hRegular : FileMode.isRegular mode
      · simp [hRegular]
      · simp [hRegular]

theorem not_runs_of_rejected
    (hRejected : (examine F files path).result = .ok false) :
    ¬ F.Runs files path := by
  intro hRuns
  have hAccepted := examine_eq_true_iff.2 hRuns
  rw [hRejected] at hAccepted
  cases hAccepted

/- A candidate is probed, and nothing besides it. -/
theorem examine_probes
    (F : FileSystem φ)
    (files : φ)
    (path : Path) :
    (examine F files path).trace.probes = [path] := by
  unfold examine
  cases F.mode files path with
  | error fault =>
      by_cases hHost : fault.isHost
      · simp only [hHost, if_true]
        rfl
      · simp only [hHost]
        rfl
  | ok mode =>
      by_cases hRegular : FileMode.isRegular mode
      · simp only [hRegular, if_true]
        rfl
      · simp only [hRegular]
        rfl

end Search

end LineShell

------------------------------------------------------------
-- One Step of a Search
------------------------------------------------------------

namespace LineShell

namespace Search

variable {φ : Type}
variable {F : FileSystem φ}
variable {files : φ}
variable {path : Path}

/- A search ends with the candidate that it accepts. -/
theorem first_of_accepted
    (hAccepted : (examine F files path).result = .ok true)
    (name : Text)
    (rest : List Path) :
    first F files name (path :: rest) =
      ⟨.ok (some path),
        (examine F files path).trace ++
          [resolved name path]⟩ := by
  unfold first
  simp only [hAccepted]

/- It goes on after a candidate that it rejects. -/
theorem first_of_rejected
    (hRejected : (examine F files path).result = .ok false)
    (name : Text)
    (rest : List Path) :
    first F files name (path :: rest) =
      ⟨(first F files name rest).result,
        (examine F files path).trace ++
          (first F files name rest).trace⟩ := by
  conv => lhs; unfold first
  simp only [hRejected]

/- A fault of the files ends it. -/
theorem first_of_fault
    {fault : Fault}
    (hFault : (examine F files path).result = .error fault)
    (name : Text)
    (rest : List Path) :
    first F files name (path :: rest) =
      ⟨.error fault, (examine F files path).trace⟩ := by
  unfold first
  simp only [hFault]

/-
  Induction on the paths that a search goes through, with one
  case for each way that the next one is examined.
-/
theorem first_induction
    {motive : List Path → Prop}
    (F : FileSystem φ)
    (files : φ)
    (nil : motive [])
    (fault :
      ∀ path rest fault,
        (examine F files path).result = .error fault →
          motive (path :: rest))
    (accepted :
      ∀ path rest,
        (examine F files path).result = .ok true →
          motive (path :: rest))
    (rejected :
      ∀ path rest,
        (examine F files path).result = .ok false →
          motive rest → motive (path :: rest))
    (paths : List Path) :
    motive paths := by
  induction paths with
  | nil => exact nil
  | cons path rest ih =>
      cases hExamined : (examine F files path).result with
      | error raised => exact fault path rest raised hExamined
      | ok runs =>
          cases runs with
          | true => exact accepted path rest hExamined
          | false => exact rejected path rest hExamined ih

end Search

end LineShell

------------------------------------------------------------
-- The First Runnable Path
------------------------------------------------------------

namespace LineShell

namespace Search

/-
  Paths are gone through in order up to the first that is
  accepted, or all of them if none is: the paths, the accepted
  one, and those that were gone through.
-/
inductive FirstOf
    (Accepts : Path → Prop) :
    List Path → Option Path → List Path → Prop where
  | hit
      (before : List Path)
      (path : Path)
      (after : List Path)
      (hBefore : ∀ earlier ∈ before, ¬ Accepts earlier)
      (hPath : Accepts path) :
      FirstOf Accepts (before ++ path :: after) (some path)
        (before ++ [path])
  | miss
      (paths : List Path)
      (hPaths : ∀ path ∈ paths, ¬ Accepts path) :
      FirstOf Accepts paths none paths

namespace FirstOf

variable {Accepts : Path → Prop}
variable {paths probed : List Path}
variable {path : Path}
variable {path? : Option Path}

/- One more path in front that is not accepted. -/
theorem skip
    (hPath : ¬ Accepts path)
    (hFirst : FirstOf Accepts paths path? probed) :
    FirstOf Accepts (path :: paths) path? (path :: probed) := by
  cases hFirst with
  | hit before found after hBefore hFound =>
      apply hit (path :: before) found after _ hFound
      exact List.forall_mem_cons.2 ⟨hPath, hBefore⟩
  | miss _ hPaths =>
      exact miss _ (List.forall_mem_cons.2 ⟨hPath, hPaths⟩)

/- What is found is accepted, and it is one of the paths. -/
theorem accepts
    (hFirst : FirstOf Accepts paths (some path) probed) :
    Accepts path ∧ path ∈ paths := by
  cases hFirst with
  | hit before _ after _ hPath =>
      refine ⟨hPath, ?_⟩
      exact List.mem_append_right before List.mem_cons_self

/- The probed paths are those up to the one that is found. -/
theorem splits
    (hFirst : FirstOf Accepts paths (some path) probed) :
    ∃ before after,
      paths = before ++ path :: after ∧
        probed = before ++ [path] := by
  cases hFirst with
  | hit before _ after _ _ => exact ⟨before, after, rfl, rfl⟩

/- Where nothing is to be gone through, nothing is found. -/
theorem of_nil
    (hFirst : FirstOf Accepts [] path? probed) :
    path? = none ∧ probed = [] := by
  generalize hPaths : ([] : List Path) = paths at hFirst
  cases hFirst with
  | hit before _ after _ _ =>
      exact absurd hPaths.symm (by simp)
  | miss _ _ =>
      subst hPaths
      exact ⟨rfl, rfl⟩

end FirstOf

variable {φ : Type}
variable {F : FileSystem φ}
variable {files : φ}
variable {name : Text}
variable {path? : Option Path}

/-
  A search that answers found the first path that can be run,
  and probed the paths up to it.
-/
theorem first_firstOf
    {paths : List Path}
    (hResult : (first F files name paths).result = .ok path?) :
    FirstOf (F.Runs files) paths path?
      (first F files name paths).trace.probes := by
  induction paths using first_induction F files with
  | nil =>
      cases hResult
      exact .miss [] (fun _ hMem => absurd hMem List.not_mem_nil)
  | fault path rest fault hFault =>
      rw [first_of_fault hFault] at hResult
      cases hResult
  | accepted path rest hAccepted =>
      rw [first_of_accepted hAccepted] at hResult ⊢
      cases hResult
      rw [Trace.probes_append, examine_probes]
      exact .hit [] path rest
        (fun _ hMem => absurd hMem List.not_mem_nil)
        (examine_eq_true_iff.1 hAccepted)
  | rejected path rest hRejected ih =>
      rw [first_of_rejected hRejected] at hResult ⊢
      rw [Trace.probes_append, examine_probes]
      exact (ih hResult).skip (not_runs_of_rejected hRejected)

end Search

end LineShell

------------------------------------------------------------
-- Searches of the Path
------------------------------------------------------------

namespace LineShell

namespace Search

variable {φ : Type}

/-
  A search goes through one candidate for each directory that
  the search path lists: the directory, a slash unless it ends
  in one, and the stem of the name.  If only the host refuses
  files, it has an answer, which is the first candidate that
  can be run; up to that one each candidate is probed once, in
  order, and no other file is.  A path that is unset or only
  holds colons has no candidates.
-/
theorem find_firstOf
    (F : FileSystem φ)
    (files : φ)
    (environment : Environment)
    (name : Text)
    (hRefuses : F.HostRefuses files) :
    let dirs := directories environment
    let found := find F environment files name
    Lists environment.searchPath dirs ∧
      ∃ stem path?, StemOf name stem ∧
        found.result = .ok path? ∧
        FirstOf (F.Runs files)
          (dirs.map fun dir => dir ++ Path.separator dir ++ stem)
          path? found.trace.probes ∧
        ((environment.searchPath = none ∨
            ∃ n, environment.searchPath =
              some (List.replicate n ':')) →
          path? = none ∧ found.trace.probes = []) := by
  intro dirs found
  rcases find_answers hRefuses environment name with
    ⟨path?, hResult⟩
  have hFirst : FirstOf (F.Runs files) (candidates environment name)
      path? found.trace.probes :=
    first_firstOf hResult
  rw [candidates_eq_map] at hFirst
  refine ⟨lists_directories environment, Text.dropAll '/' name,
    path?, stemOf_dropAll name, hResult, hFirst, ?_⟩
  intro hPath
  have hDirs : directories environment = [] := by
    unfold directories
    rcases hPath with hUnset | ⟨n, hColons⟩
    · rw [hUnset]
    · rw [hColons]
      exact splitPath_colons n
  rw [hDirs] at hFirst
  exact hFirst.of_nil

/-
  The first entry is empty, the second holds a directory of
  that name, the third a file that nobody may execute; the
  entry after the accepted one is not looked at.
-/
theorem find_firstOf_third_entry :
    let tree : LexicalTree :=
      LexicalTree.build "/" ["/a/show"]
        [("/b/show", 0o100644), ("/c/show", 0o100755),
          ("/d/show", 0o100755)]
    let environment : Environment := [("PATH", ":/a:/b/:/c:/d")]
    let found :=
      find LexicalTree.fileSystem environment tree "//show"
    LexicalTree.fileSystem.HostRefuses tree ∧
      Lists (some ":/a:/b/:/c:/d")
        ["/a".toList, "/b/".toList, "/c".toList, "/d".toList] ∧
      LexicalTree.fileSystem.Runs tree "/c/show" ∧
      found.result = .ok (some "/c/show".toList) ∧
      found.trace.probes =
        ["/a/show".toList, "/b/show".toList,
          "/c/show".toList] := by
  intro tree environment found
  have hRefuses : LexicalTree.fileSystem.HostRefuses tree :=
    LexicalTree.hostRefuses fun _ _ hFind => by cases hFind
  have hResult : found.result = .ok (some "/c/show".toList) :=
    rfl
  rcases find_firstOf LexicalTree.fileSystem tree environment
      "//show" hRefuses with
    ⟨hLists, stem, path?, -, hFound, hFirst, -⟩
  have hPath : path? = some "/c/show".toList :=
    Except.ok.inj (hFound.symm.trans hResult)
  subst hPath
  exact ⟨hRefuses, hLists, hFirst.accepts.1, hResult, by decide⟩

end Search

end LineShell
