import LineShell.Proofs.Search

/-
  Searches of joined paths.

  A search of two paths that are joined by a colon is a search
  of the first and, if that finds nothing, of the second.  So
  directories that were in vain once can be left out later on,
  and empty entries anywhere.

  Main declarations:
    * `Inquiry.otherwise`
    * `Search.first_append`
    * `Search.first_eq_none_iff`
    * `Search.first_of_repeated`
    * `Search.find_joined`
-/

------------------------------------------------------------
-- A Second Question
------------------------------------------------------------

namespace LineShell

namespace Inquiry

variable {α : Type}

/- Ask a second question if the answer to the first is none. -/
def otherwise
    (first second : Inquiry (Option α)) : Inquiry (Option α) :=
  match first.result with
  | .ok none => ⟨second.result, first.trace ++ second.trace⟩
  | _ => first

variable {first second : Inquiry (Option α)}

theorem otherwise_of_none
    (hNone : first.result = .ok none) :
    first.otherwise second =
      ⟨second.result, first.trace ++ second.trace⟩ := by
  simp only [otherwise, hNone]

theorem otherwise_of_ne_none
    (hSome : first.result ≠ .ok none) :
    first.otherwise second = first := by
  unfold otherwise
  split
  · next hNone => exact absurd hNone hSome
  · rfl

/- What happens before the first question stays before both. -/
theorem otherwise_later
    (before : Trace)
    (first second : Inquiry (Option α)) :
    otherwise ⟨first.result, before ++ first.trace⟩ second =
      ⟨(first.otherwise second).result,
        before ++ (first.otherwise second).trace⟩ := by
  let late : Inquiry (Option α) :=
    ⟨first.result, before ++ first.trace⟩
  by_cases hNone : first.result = .ok none
  · have hLate : late.result = .ok none := hNone
    rw [otherwise_of_none hNone, otherwise_of_none hLate,
      List.append_assoc]
  · have hLate : late.result ≠ .ok none := hNone
    rw [otherwise_of_ne_none hNone, otherwise_of_ne_none hLate]

end Inquiry

end LineShell

------------------------------------------------------------
-- Joined Candidates
------------------------------------------------------------

namespace LineShell

namespace Search

variable {φ : Type}
variable {F : FileSystem φ}
variable {files : φ}
variable {name : Text}

/-
  The second candidates are gone through if the first are in
  vain.  The records differ: each search by itself says that
  it found nothing.
-/
theorem first_append
    (F : FileSystem φ)
    (files : φ)
    (name : Text)
    (paths others : List Path) :
    let joined := first F files name (paths ++ others)
    let apart :=
      (first F files name paths).otherwise
        (first F files name others)
    joined.result = apart.result ∧
      joined.trace.probes = apart.trace.probes := by
  induction paths using first_induction F files with
  | nil => exact ⟨rfl, rfl⟩
  | fault path rest fault hFault =>
      rw [List.cons_append, first_of_fault hFault,
        first_of_fault hFault]
      exact ⟨rfl, rfl⟩
  | accepted path rest hAccepted =>
      rw [List.cons_append, first_of_accepted hAccepted,
        first_of_accepted hAccepted]
      exact ⟨rfl, rfl⟩
  | rejected path rest hRejected ih =>
      rw [List.cons_append, first_of_rejected hRejected,
        first_of_rejected hRejected, Inquiry.otherwise_later]
      refine ⟨ih.1, ?_⟩
      rw [Trace.probes_append, Trace.probes_append, ih.2]

/- A search is in vain if each candidate is rejected. -/
theorem first_eq_none_iff
    (F : FileSystem φ)
    (files : φ)
    (name : Text)
    (paths : List Path) :
    (first F files name paths).result = .ok none ↔
      ∀ path ∈ paths,
        (examine F files path).result = .ok false := by
  induction paths using first_induction F files with
  | nil =>
      exact ⟨fun _ _ hMem => absurd hMem List.not_mem_nil,
        fun _ => rfl⟩
  | fault path rest fault hFault =>
      rw [first_of_fault hFault, List.forall_mem_cons, hFault]
      simp
  | accepted path rest hAccepted =>
      rw [first_of_accepted hAccepted, List.forall_mem_cons,
        hAccepted]
      simp
  | rejected path rest hRejected ih =>
      rw [first_of_rejected hRejected, List.forall_mem_cons, ih]
      exact (and_iff_right hRejected).symm

/-
  Candidates that were gone through before can be left out: if
  they are reached again, they are rejected again.
-/
theorem first_of_repeated
    {before repeated : List Path}
    (hBefore : ∀ path ∈ repeated, path ∈ before)
    (after : List Path) :
    (first F files name (before ++ (repeated ++ after))).result =
      (first F files name (before ++ after)).result := by
  have hJoined (others : List Path) :=
    (first_append F files name before others).1
  rw [hJoined, hJoined]
  by_cases hNone :
      (first F files name before).result = .ok none
  · have hRejected :=
      (first_eq_none_iff F files name before).1 hNone
    have hAgain :
        (first F files name repeated).result = .ok none :=
      (first_eq_none_iff F files name repeated).2
        fun path hPath => hRejected path (hBefore path hPath)
    rw [Inquiry.otherwise_of_none hNone,
      Inquiry.otherwise_of_none hNone]
    exact (first_append F files name repeated after).1.trans
      (by rw [Inquiry.otherwise_of_none hAgain])
  · rw [Inquiry.otherwise_of_ne_none hNone,
      Inquiry.otherwise_of_ne_none hNone]

end Search

end LineShell

------------------------------------------------------------
-- Joined Paths
------------------------------------------------------------

namespace LineShell

namespace Search

variable {φ : Type}

/- A search of the path that the environment is given. -/
theorem find_assign
    (F : FileSystem φ)
    (environment : Environment)
    (files : φ)
    (name path : Text) :
    find F (environment.assign "PATH" (some path)) files name =
      first F files name
        ((splitPath path).map (candidate name)) := by
  unfold find candidates
  rw [directories_assign]

/- The places of a name under paths that are joined by colons. -/
def joinedPlaces
    (name : Text)
    (paths : List Text) : List Path :=
  (paths.flatMap splitPath).map (candidate name)

theorem joinedPlaces_append
    (name : Text)
    (paths others : List Text) :
    joinedPlaces name (paths ++ others) =
      joinedPlaces name paths ++ joinedPlaces name others := by
  unfold joinedPlaces
  rw [List.flatMap_append, List.map_append]

theorem joinedPlaces_subset
    {paths others : List Text}
    (name : Text)
    (hPaths : paths ⊆ others) :
    joinedPlaces name paths ⊆ joinedPlaces name others := by
  apply List.map_subset
  intro dir hDir
  rcases List.mem_flatMap.1 hDir with ⟨path, hPath, hSplit⟩
  exact List.mem_flatMap.2 ⟨path, hPaths hPath, hSplit⟩

/- An entry that is equal to an earlier one can be left out. -/
theorem find_of_repeated_entry
    (F : FileSystem φ)
    (files : φ)
    (environment : Environment)
    (name : Text)
    (before : List Text)
    (entry : Text)
    (between after : List Text) :
    let under (paths : List Text) :=
      find F (environment.assign "PATH"
        (some ([':'].intercalate paths))) files name
    (under (before ++ entry ::
        (between ++ entry :: after))).result =
      (under (before ++ entry :: (between ++ after))).result := by
  intro under
  let earlier := before ++ entry :: between
  have hUnder (paths : List Text) :
      under paths = first F files name (joinedPlaces name paths) := by
    unfold under
    rw [find_assign, splitPath_intercalate]
    rfl
  have hLong : before ++ entry :: (between ++ entry :: after) =
      earlier ++ ([entry] ++ after) := by
    simp [earlier]
  have hShort : before ++ entry :: (between ++ after) =
      earlier ++ after := by
    simp [earlier]
  have hEarlier : [entry] ⊆ earlier := by
    simp [earlier]
  rw [hLong, hShort, hUnder, hUnder,
    joinedPlaces_append name earlier,
    joinedPlaces_append name [entry],
    joinedPlaces_append name earlier]
  exact first_of_repeated (joinedPlaces_subset name hEarlier) _

/-
  Joining search paths by a colon joins the directories that
  they list, and a search of both is a search of the first and,
  only if that finds nothing, of the second: the answer, which
  can be a fault of the files, and the probes are those of one
  after the other.  Colons that are put next to a colon, or at
  either end, change nothing at all, and neither does leaving
  out an entry that is equal to an earlier one change what is
  found.
-/
theorem find_joined
    (F : FileSystem φ)
    (files : φ)
    (environment : Environment)
    (name : Text) :
    let given (path : Text) :=
      environment.assign "PATH" (some path)
    let under (path : Text) := find F (given path) files name
    (∀ path other,
        let joined := path ++ ':' :: other
        let apart := (under path).otherwise (under other)
        directories (given joined) =
            directories (given path) ++
              directories (given other) ∧
          (under joined).result = apart.result ∧
          (under joined).trace.probes = apart.trace.probes) ∧
      (∀ path other n,
        under (path ++ ':' :: (List.replicate n ':' ++ other)) =
          under (path ++ ':' :: other)) ∧
      (∀ path n,
        under (List.replicate n ':' ++ path) = under path ∧
          under (path ++ List.replicate n ':') = under path) ∧
      ∀ before entry between after,
        (under ([':'].intercalate
            (before ++ entry ::
              (between ++ entry :: after)))).result =
          (under ([':'].intercalate
            (before ++ entry :: (between ++ after)))).result := by
  intro given under
  have hUnder (path : Text) : under path = _ :=
    find_assign F environment files name path
  refine ⟨?_, ?_, ?_, ?_⟩
  · intro path other joined apart
    have hListed :
        splitPath joined = splitPath path ++ splitPath other :=
      splitPath_append path other
    refine ⟨?_, ?_⟩
    · unfold given
      rw [directories_assign, directories_assign,
        directories_assign, hListed]
    · unfold apart
      rw [hUnder, hUnder, hUnder, hListed, List.map_append]
      exact first_append F files name _ _
  · intro path other n
    rw [hUnder, hUnder, splitPath_append, splitPath_append,
      splitPath_colons_append]
  · intro path n
    rw [hUnder, hUnder, hUnder, splitPath_colons_append,
      splitPath_append_colons]
    exact ⟨rfl, rfl⟩
  · intro before entry between after
    exact find_of_repeated_entry F files environment name before
      entry between after

end Search

end LineShell
