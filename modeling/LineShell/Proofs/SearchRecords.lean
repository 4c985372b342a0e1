import LineShell.LexicalTree
import LineShell.Proofs.Search

/-
  What a search records of the files that it probes.

  `Search.Accounts` says what a full account of a search is: a
  record for every path that is rejected, and one for how the
  search ends.  A regular file that nobody may execute is
  rejected without a record, and for such files alone the
  account is not full.

  Main declarations:
    * `FileSystem.isInert`
    * `Search.Accounts`
    * `Search.first_accounts`
    * `Search.find_accounts_iff`
    * `Search.find_passes_over_inert`
-/

------------------------------------------------------------
-- Full Accounts
------------------------------------------------------------

namespace LineShell

/-
  Whether the path leads to a regular file that nobody may
  execute.
-/
def FileSystem.isInert
    {φ : Type}
    (F : FileSystem φ)
    (files : φ)
    (path : Path) : Bool :=
  match F.mode files path with
  | .ok mode =>
      FileMode.isRegular mode && !FileMode.isExecutable mode
  | .error _ => false

namespace Search

/-
  A full account of a search for a name: the probed paths, what
  is found, and the records.  Each path that is not accepted
  has one record that it is rejected, for some reason.  After
  these comes one record of the path that is accepted, or one
  that the name was not found.  There are no other records.
-/
inductive Accounts
    (name : Text) :
    List Path → Option Path → List Record → Prop where
  | missing :
      Accounts name [] none
        [⟨.debug, .search, name ++ " not found on PATH"⟩]
  | resolved
      (path : Path) :
      Accounts name [path] (some path)
        [⟨.debug, .search,
          "resolved " ++ name ++ " -> " ++ path⟩]
  | rejected
      {paths : List Path}
      {path? : Option Path}
      {records : List Record}
      (path : Path)
      (reason : Text)
      (hLater : Accounts name paths path? records) :
      Accounts name (path :: paths) path?
        (⟨.debug, .search,
          "rejecting " ++ path ++ ": " ++ reason⟩ :: records)

variable {name : Text}
variable {paths : List Path}
variable {path? : Option Path}
variable {records : List Record}

/- The paths and the end of a search are counted once each. -/
theorem Accounts.length
    (hAccounts : Accounts name paths path? records) :
    records.length + path?.toList.length =
      paths.length + 1 := by
  induction hAccounts with
  | missing => rfl
  | resolved path => rfl
  | rejected path reason hLater ih =>
      rw [List.length_cons, List.length_cons]
      omega

end Search

end LineShell

------------------------------------------------------------
-- Records of a Candidate
------------------------------------------------------------

namespace LineShell

namespace Search

variable {φ : Type}
variable {F : FileSystem φ}
variable {files : φ}
variable {path : Path}

/- A candidate that is accepted has no record of its own. -/
theorem examine_of_accepted
    (hAccepted : (examine F files path).result = .ok true) :
    examine F files path = ⟨.ok true, [.probed path]⟩ ∧
      F.isInert files path = false := by
  rcases examine_eq_true_iff.1 hAccepted with
    ⟨mode, hMode, hRegular, hExecutable⟩
  constructor
  · simp only [examine, hMode, hRegular, hExecutable, if_true]
  · simp [FileSystem.isInert, hMode, hExecutable]

/- Nor has one that nobody may execute, though it is rejected. -/
theorem examine_of_inert
    (hInert : F.isInert files path = true) :
    examine F files path = ⟨.ok false, [.probed path]⟩ := by
  unfold FileSystem.isInert at hInert
  cases hMode : F.mode files path with
  | error fault =>
      rw [hMode] at hInert
      cases hInert
  | ok mode =>
      rw [hMode] at hInert
      rcases (Bool.and_eq_true_iff).1 hInert with
        ⟨hRegular, hForbidden⟩
      rw [Bool.not_eq_true'] at hForbidden
      simp only [examine, hMode, hRegular, hForbidden, if_true]

/- Any other that is rejected is recorded with the reason. -/
theorem examine_of_rejected
    (hRejected : (examine F files path).result = .ok false)
    (hInert : F.isInert files path = false) :
    ∃ reason,
      examine F files path =
        ⟨.ok false, [.probed path, rejecting path reason]⟩ := by
  unfold FileSystem.isInert at hInert
  unfold examine at hRejected ⊢
  cases hMode : F.mode files path with
  | error fault =>
      cases hHost : fault.isHost with
      | true => exact ⟨fault.message, by simp [hHost]⟩
      | false => simp [hMode, hHost] at hRejected
  | ok mode =>
      rw [hMode] at hInert hRejected
      cases hRegular : FileMode.isRegular mode with
      | true =>
          simp only [hRegular, if_true, Except.ok.injEq]
            at hRejected
          simp [hRegular, hRejected] at hInert
      | false => exact ⟨"not a regular file", by simp [hRegular]⟩

end Search

end LineShell

------------------------------------------------------------
-- Records of a Search
------------------------------------------------------------

namespace LineShell

namespace Search

variable {φ : Type}
variable {F : FileSystem φ}
variable {files : φ}
variable {name : Text}
variable {path? : Option Path}

/-
  Of the paths that it probes, a search accounts for those that
  are not inert.
-/
theorem first_accounts
    {paths : List Path}
    (hResult : (first F files name paths).result = .ok path?) :
    Accounts name
      ((first F files name paths).trace.probes.filter
        fun path => !F.isInert files path)
      path? (first F files name paths).trace.records := by
  induction paths using first_induction F files with
  | nil =>
      cases hResult
      exact .missing
  | fault path rest fault hFault =>
      rw [first_of_fault hFault] at hResult
      cases hResult
  | accepted path rest hAccepted =>
      rcases examine_of_accepted hAccepted with
        ⟨hExamined, hInert⟩
      rw [first_of_accepted hAccepted] at hResult ⊢
      cases hResult
      rw [hExamined, Trace.probes_append]
      change Accounts name (List.filter _ [path]) _ _
      rw [List.filter_cons_of_pos (by simp [hInert])]
      exact .resolved path
  | rejected path rest hRejected ih =>
      rw [first_of_rejected hRejected] at hResult ⊢
      have hLater := ih hResult
      cases hInert : F.isInert files path with
      | true =>
          rw [examine_of_inert hInert]
          change Accounts name
            (List.filter _ (path :: Trace.probes _)) _ _
          rw [List.filter_cons_of_neg (by simp [hInert])]
          exact hLater
      | false =>
          rcases examine_of_rejected hRejected hInert with
            ⟨reason, hExamined⟩
          rw [hExamined]
          change Accounts name
            (List.filter _ (path :: Trace.probes _)) _ _
          rw [List.filter_cons_of_pos (by simp [hInert])]
          exact .rejected path reason hLater

/-
  If only the host refuses files, a search accounts in full for
  the paths that it probes exactly if none of them is inert.
  Where some are, the account is full but for them: it has no
  record of their rejection, and one of everything else.
-/
theorem find_accounts_iff
    (F : FileSystem φ)
    (files : φ)
    (environment : Environment)
    (name : Text)
    (hRefuses : F.HostRefuses files) :
    let found := find F environment files name
    ∃ path?, found.result = .ok path? ∧
      (Accounts name found.trace.probes path?
          found.trace.records ↔
        ∀ path ∈ found.trace.probes,
          F.isInert files path = false) ∧
      Accounts name
        (found.trace.probes.filter
          fun path => !F.isInert files path)
        path? found.trace.records := by
  intro found
  rcases find_answers hRefuses environment name with
    ⟨path?, hResult⟩
  have hAccounts :
      Accounts name
        (found.trace.probes.filter
          fun path => !F.isInert files path)
        path? found.trace.records :=
    first_accounts hResult
  refine ⟨path?, hResult, ⟨?_, ?_⟩, hAccounts⟩
  · intro hFull path hPath
    -- Both accounts have the same records, so as many paths.
    have hLength :
        (found.trace.probes.filter
          fun path => !F.isInert files path).length =
            found.trace.probes.length := by
      have hSome := hAccounts.length
      have hAll := hFull.length
      omega
    have hKept :=
      List.length_filter_eq_length_iff.1 hLength path hPath
    simpa using hKept
  · intro hNone
    have hKept :
        (found.trace.probes.filter
          fun path => !F.isInert files path) =
            found.trace.probes := by
      apply List.filter_eq_self.2
      intro path hPath
      rw [hNone path hPath]
      rfl
    rw [hKept] at hAccounts
    exact hAccounts

/-
  A missing file and a directory are recorded as rejected, each
  once, and then the file that is accepted.
-/
theorem find_accounts_iff_rejections :
    let tree : LexicalTree :=
      LexicalTree.build "/" ["/b/show"]
        [("/c/show", 0o100755), ("/d/show", 0o100644)]
    let environment : Environment := [("PATH", "/a:/b:/c:/d")]
    let found :=
      find LexicalTree.fileSystem environment tree "show"
    LexicalTree.fileSystem.HostRefuses tree ∧
      found.trace.probes =
        ["/a/show".toList, "/b/show".toList,
          "/c/show".toList] ∧
      found.trace.records.length = 3 ∧
      Accounts "show" found.trace.probes
        (some "/c/show".toList) found.trace.records := by
  intro tree environment found
  have hRefuses : LexicalTree.fileSystem.HostRefuses tree :=
    LexicalTree.hostRefuses fun _ _ hFind => by cases hFind
  have hNone : ∀ path ∈ found.trace.probes,
      LexicalTree.fileSystem.isInert tree path = false := by
    decide
  rcases find_accounts_iff LexicalTree.fileSystem tree
      environment "show" hRefuses with
    ⟨path?, hResult, hFull, -⟩
  have hPath : path? = some "/c/show".toList :=
    Except.ok.inj (hResult.symm.trans rfl)
  rw [hPath] at hFull
  exact ⟨hRefuses, by decide, by decide, hFull.2 hNone⟩

/-
  A regular file that nobody may execute is probed and
  rejected, and only that the name is not found is recorded.
-/
theorem find_passes_over_inert :
    let tree : LexicalTree :=
      LexicalTree.build "/" [] [("/bin/notes", 0o100644)]
    let environment : Environment := [("PATH", "/bin")]
    let found :=
      find LexicalTree.fileSystem environment tree "notes"
    LexicalTree.fileSystem.HostRefuses tree ∧
      found.result = .ok none ∧
      found.trace.probes = ["/bin/notes".toList] ∧
      found.trace.records =
        [⟨.debug, .search, "notes not found on PATH"⟩] ∧
      ¬ Accounts "notes" found.trace.probes none
        found.trace.records := by
  intro tree environment found
  have hRefuses : LexicalTree.fileSystem.HostRefuses tree :=
    LexicalTree.hostRefuses fun _ _ hFind => by cases hFind
  refine ⟨hRefuses, rfl, by decide, by decide, ?_⟩
  intro hAccounts
  have hLength := hAccounts.length
  revert hLength
  decide

end Search

end LineShell
