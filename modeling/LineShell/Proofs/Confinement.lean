import LineShell.Proofs.Footprint
import LineShell.Proofs.Search
import LineShell.Proofs.Text

/-
  A found path stays under its directory, however the name is
  spelled.

  The slashes before a name do not count, and a path that ends
  in a slash leads to a directory, which nobody runs.  So what
  is found always has a stem, and a name without one, or with
  a slash at its end, is not found.

  Main declarations:
    * `FileSystem.SlashesMarkDirectories`
    * `FileSystem.Runs.not_endsWith_slash`
    * `Search.first_renamed`
    * `Search.endsWith_place`
    * `Search.find_of_slash_at_end`
    * `Search.find_confined`
-/

------------------------------------------------------------
-- Slashes at the End
------------------------------------------------------------

namespace LineShell

namespace Text

/- A text of one character is empty or ends with it. -/
theorem eq_nil_or_endsWith_of_forall
    {c : Char}
    {t : Text}
    (hAll : ∀ d ∈ t, d = c) :
    t = [] ∨ endsWith c t = true := by
  cases hLast : t.getLast? with
  | none => exact Or.inl (List.getLast?_eq_none_iff.1 hLast)
  | some d =>
      have hEq := hAll d (List.mem_of_getLast? hLast)
      apply Or.inr
      unfold endsWith
      rw [hLast, hEq]
      exact beq_self_eq_true (some c)

end Text

/-
  A path that ends in a slash leads to a directory, if it
  leads anywhere.
-/
def FileSystem.SlashesMarkDirectories
    {φ : Type}
    (F : FileSystem φ)
    (files : φ) : Prop :=
  ∀ path mode, Text.endsWith '/' path = true →
    F.mode files path = .ok mode →
    FileMode.isDirectory mode = true

/- In a tree, such a path to any other file is refused. -/
theorem LexicalTree.slashesMarkDirectories
    (tree : LexicalTree) :
    fileSystem.SlashesMarkDirectories tree := by
  intro path mode hEnds hMode
  change tree.lookup path = .ok mode at hMode
  unfold lookup at hMode
  split at hMode
  · cases hMode
  · split at hMode
    · cases hMode
    · dsimp only at hMode
      split at hMode
      · cases hMode
      · split at hMode
        · cases hMode
        · next found _ =>
            cases hDirectory : FileMode.isDirectory found with
            | true =>
                simp only [hEnds, hDirectory, Bool.not_true,
                  Bool.and_false, Bool.false_eq_true,
                  if_false] at hMode
                cases hMode
                exact hDirectory
            | false =>
                simp only [hEnds, hDirectory, Bool.not_false,
                  Bool.and_true, if_true] at hMode
                cases hMode

/- No directory is a regular file. -/
theorem FileMode.not_isRegular_of_isDirectory
    {mode : FileMode}
    (hDirectory : isDirectory mode = true) :
    isRegular mode = false := by
  unfold isDirectory at hDirectory
  unfold isRegular
  rw [eq_of_beq hDirectory]
  rfl

/- So no path that ends in a slash can be run. -/
theorem FileSystem.Runs.not_endsWith_slash
    {φ : Type}
    {F : FileSystem φ}
    {files : φ}
    {path : Path}
    (hSlashes : F.SlashesMarkDirectories files)
    (hRuns : F.Runs files path) :
    Text.endsWith '/' path = false := by
  rcases hRuns with ⟨mode, hMode, hRegular, -⟩
  cases hEnds : Text.endsWith '/' path with
  | false => rfl
  | true =>
      have hDirectory := hSlashes path mode hEnds hMode
      rw [FileMode.not_isRegular_of_isDirectory hDirectory]
        at hRegular
      exact absurd hRegular Bool.false_ne_true

end LineShell

------------------------------------------------------------
-- Places and Their Ends
------------------------------------------------------------

namespace LineShell

/- A directory with its separator ends in a slash. -/
theorem Path.endsWith_separator
    (dir : Path) :
    Text.endsWith '/' (dir ++ separator dir) = true := by
  unfold separator
  cases hEnds : Text.endsWith '/' dir with
  | true =>
      rw [if_pos rfl, List.append_nil]
      exact hEnds
  | false =>
      rw [if_neg Bool.false_ne_true,
        Text.endsWith_append (List.cons_ne_nil '/' [])]
      exact Text.endsWith_singleton '/'

namespace Search

variable {name stem : Text}

/-
  The place of a stem ends in a slash if the stem is empty, or
  if the name ends in one.
-/
theorem endsWith_place
    (hStem : StemOf name stem)
    (hName : stem = [] ∨ Text.endsWith '/' name = true)
    (dir : Path) :
    Text.endsWith '/' (dir ++ Path.separator dir ++ stem) =
      true := by
  by_cases hEmpty : stem = []
  · rw [hEmpty, List.append_nil]
    exact Path.endsWith_separator dir
  · rcases hName with hNil | hEnds
    · exact absurd hNil hEmpty
    · rcases hStem.slashes with ⟨n, hSlashes⟩
      rw [hSlashes, Text.endsWith_append hEmpty] at hEnds
      rw [Text.endsWith_append hEmpty]
      exact hEnds

/- The directories of a search are pieces of its path. -/
theorem exists_piece_of_mem_directories
    {environment : Environment}
    {dir : Path}
    (hDir : dir ∈ directories environment) :
    ∃ path, environment.searchPath = some path ∧
      dir ∈ path.splitOn ':' := by
  unfold directories at hDir
  cases hPath : environment.searchPath with
  | none =>
      rw [hPath] at hDir
      exact absurd hDir List.not_mem_nil
  | some path =>
      rw [hPath] at hDir
      exact ⟨path, rfl, (List.mem_filter.1 hDir).1⟩

end Search

end LineShell

------------------------------------------------------------
-- Spelling of a Name
------------------------------------------------------------

namespace LineShell

namespace Search

variable {φ : Type}
variable {F : FileSystem φ}
variable {files : φ}
variable {environment : Environment}
variable {name : Text}

/-
  The name of a search stands in its records alone: for the
  same candidates, it finds and probes the same.
-/
theorem first_renamed
    (F : FileSystem φ)
    (files : φ)
    (name other : Text)
    (paths : List Path) :
    (first F files name paths).result =
        (first F files other paths).result ∧
      (first F files name paths).trace.probes =
        (first F files other paths).trace.probes := by
  induction paths using first_induction F files with
  | nil => exact ⟨rfl, rfl⟩
  | fault path rest fault hFault =>
      rw [first_of_fault hFault, first_of_fault hFault]
      exact ⟨rfl, rfl⟩
  | accepted path rest hAccepted =>
      rw [first_of_accepted hAccepted,
        first_of_accepted hAccepted]
      refine ⟨rfl, ?_⟩
      rw [Trace.probes_append, Trace.probes_append]
      rfl
  | rejected path rest hRejected ih =>
      rw [first_of_rejected hRejected,
        first_of_rejected hRejected]
      refine ⟨ih.1, ?_⟩
      rw [Trace.probes_append, Trace.probes_append, ih.2]

/- A name has the candidates of its stem. -/
theorem candidates_slashes_append
    (environment : Environment)
    (n : Nat)
    (name : Text) :
    candidates environment (List.replicate n '/' ++ name) =
      candidates environment name := by
  rw [candidates_eq_map, candidates_eq_map,
    Text.dropAll_replicate_append]

/-
  A path that is found has a stem that is not empty, and the
  name ends in no slash, or the path would lead to a directory.
-/
theorem stem_of_find
    {path : Path}
    (hSlashes : F.SlashesMarkDirectories files)
    (hFind :
      (find F environment files name).result =
        .ok (some path)) :
    ∃ dir ∈ directories environment,
      path =
          dir ++ Path.separator dir ++ Text.dropAll '/' name ∧
        Text.dropAll '/' name ≠ [] ∧
        Text.endsWith '/' name ≠ true := by
  rcases (first_firstOf hFind).accepts with ⟨hRuns, hMem⟩
  have hEnds := hRuns.not_endsWith_slash hSlashes
  rw [candidates_eq_map] at hMem
  rcases List.mem_map.1 hMem with ⟨dir, hDir, rfl⟩
  refine ⟨dir, hDir, rfl, not_or.1 ?_⟩
  intro hName
  rw [endsWith_place (stemOf_dropAll name) hName] at hEnds
  exact Bool.false_ne_true hEnds.symm

/- So a name that is empty or ends in a slash is not found. -/
theorem find_of_slash_at_end
    (hSlashes : F.SlashesMarkDirectories files)
    (hRefuses : F.HostRefuses files)
    (environment : Environment)
    (hName : name = [] ∨ Text.endsWith '/' name = true) :
    (find F environment files name).result = .ok none := by
  rcases find_answers hRefuses environment name with
    ⟨path?, hFind⟩
  cases path? with
  | none => exact hFind
  | some path =>
      rcases stem_of_find hSlashes hFind with
        ⟨dir, -, -, hStem, hEnds⟩
      rcases hName with rfl | hSlash
      · exact absurd rfl hStem
      · exact absurd hSlash hEnds

end Search

end LineShell

------------------------------------------------------------
-- Confinement
------------------------------------------------------------

namespace LineShell

namespace Search

variable {φ δ : Type}

/-
  If only the host refuses files, and slashes mark directories,
  then a path that is found is a directory of the search path,
  a slash unless that ends in one, and the stem of the name,
  which is not empty and begins with no slash.  More slashes
  before the name find and probe the same.  A name without a
  stem, or with a slash at its end, is not found, so no line
  asks for a child whose first argument is empty.
-/
theorem find_confined
    (M : Machine φ δ)
    (w : World φ δ)
    (name : Text)
    (hRefuses : M.files.HostRefuses w.files)
    (hSlashes : M.files.SlashesMarkDirectories w.files) :
    let found (name : Text) :=
      find M.files w.environment w.files name
    (∀ path, (found name).result = .ok (some path) →
        '/' ∈ path ∧
          ∃ search dir stem,
            w.environment.searchPath = some search ∧
              dir ∈ search.splitOn ':' ∧ dir ≠ [] ∧
              StemOf name stem ∧ stem ≠ [] ∧
              path = dir ++ Path.separator dir ++ stem) ∧
      (∀ n,
        let slashed := List.replicate n '/' ++ name
        (found slashed).result = (found name).result ∧
          (found slashed).trace.probes =
            (found name).trace.probes) ∧
      (name = [] ∨ (∀ c ∈ name, c = '/') ∨
          Text.endsWith '/' name = true →
        (found name).result = .ok none) ∧
      ∀ line request,
        request ∈ (Shell.execute M line w).trace.requests →
          ∃ c word args, request.argv = (c :: word) :: args := by
  intro found
  refine ⟨?_, ?_, ?_, ?_⟩
  · intro path hFind
    refine ⟨slash_mem_of_find hFind, ?_⟩
    rcases stem_of_find hSlashes hFind with
      ⟨dir, hDir, hPath, hStem, -⟩
    rcases exists_piece_of_mem_directories hDir with
      ⟨search, hSearch, hPiece⟩
    exact ⟨search, dir, Text.dropAll '/' name, hSearch, hPiece,
      directory_ne_nil hDir, stemOf_dropAll name, hStem, hPath⟩
  · intro n slashed
    have hCandidates :=
      candidates_slashes_append w.environment n name
    unfold found find
    rw [hCandidates]
    exact first_renamed M.files w.files slashed name _
  · intro hName
    apply find_of_slash_at_end hSlashes hRefuses w.environment
    rcases hName with hEmpty | hAll | hEnds
    · exact Or.inl hEmpty
    · exact Text.eq_nil_or_endsWith_of_forall hAll
    · exact Or.inr hEnds
  · intro line request hRequest
    rw [Shell.execute_requests, Option.mem_toList,
      Shell.requested?_eq_some_iff] at hRequest
    rcases hRequest with
      ⟨typed, args, path, hWords, -, hFind, -, rfl⟩
    cases typed with
    | nil =>
        rw [find_of_slash_at_end hSlashes hRefuses w.environment
          (Or.inl rfl)] at hFind
        cases hFind
    | cons c word => exact ⟨c, word, args, hWords⟩

/-
  A name that climbs out with dots still stands under its
  directory; a line of spaces asks for nothing.
-/
theorem find_confined_dots :
    let w : World LexicalTree (Except Fault Int) :=
      { environment := [("PATH", "/usr/bin:/bin")]
        files := LexicalTree.build "/" ["/bin"]
          [("/usr/show", 0o100755)]
        device := .ok 0 }
    let F := LexicalTree.machine.files
    F.HostRefuses w.files ∧
      F.SlashesMarkDirectories w.files ∧
      (find F w.environment w.files "//../show").result =
        .ok (some "/usr/bin/../show".toList) ∧
      (∃ dir stem,
        "/usr/bin/../show".toList =
            dir ++ Path.separator dir ++ stem ∧
          stem ≠ [] ∧ StemOf "//../show" stem) ∧
      (find F w.environment w.files "..//").result = .ok none ∧
      (Shell.execute LexicalTree.machine "  a" w).trace.requests =
        [] := by
  intro w F
  have hRefuses : F.HostRefuses w.files :=
    LexicalTree.hostRefuses fun _ _ hFind => by cases hFind
  have hSlashes : F.SlashesMarkDirectories w.files :=
    LexicalTree.slashesMarkDirectories w.files
  have hFound :
      (find F w.environment w.files "//../show").result =
        .ok (some "/usr/bin/../show".toList) :=
    rfl
  rcases find_confined LexicalTree.machine w "//../show"
      hRefuses hSlashes with
    ⟨hUnder, -, -, -⟩
  rcases find_confined LexicalTree.machine w "..//"
      hRefuses hSlashes with
    ⟨-, -, hNone, hRequests⟩
  rcases (hUnder _ hFound).2 with
    ⟨_, dir, stem, -, -, -, hStem, hNe, hPath⟩
  refine ⟨hRefuses, hSlashes, hFound,
    ⟨dir, stem, hPath, hNe, hStem⟩,
    hNone (Or.inr (Or.inr (by decide))), by decide⟩

end Search

end LineShell
