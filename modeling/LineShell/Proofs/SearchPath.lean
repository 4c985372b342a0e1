import LineShell.Proofs.Resolution
import LineShell.Proofs.Text

/-
  What a search path lists, and where a name lies in what it
  lists.

  `Search.Lists` and `StemOf` say by themselves what the
  directories of a path and the stem of a name are.

  Main declarations:
    * `Search.Lists`
    * `Search.lists_directories`
    * `Search.splitPath_append`
    * `Search.splitPath_intercalate`
    * `Search.directories_assign`
    * `StemOf`
    * `Search.candidates_eq_map`
-/

------------------------------------------------------------
-- Listed Directories
------------------------------------------------------------

namespace LineShell

namespace Search

/-
  What a search path lists: it is cut at all its colons, and
  the pieces that are not empty count, in order.  Where no path
  is set, nothing is listed.
-/
inductive Lists : Option Text → List Path → Prop where
  | unset : Lists none []
  | cut
      (pieces : List Text)
      (hPieces : pieces ≠ [])
      (hColons : ∀ piece ∈ pieces, ':' ∉ piece) :
      Lists (some ([':'].intercalate pieces))
        (pieces.filter (!·.isEmpty))

/- The directories of a search are those that its path lists. -/
theorem lists_directories
    (environment : Environment) :
    Lists environment.searchPath (directories environment) := by
  unfold directories
  cases environment.searchPath with
  | none => exact .unset
  | some path =>
      have hCut :=
        Lists.cut (path.splitOn ':') (List.splitOn_ne_nil ':' path)
          (fun _ hPiece => Text.not_mem_of_mem_splitOn hPiece)
      rw [List.intercalate_splitOn] at hCut
      exact hCut

end Search

end LineShell

------------------------------------------------------------
-- Joined Search Paths
------------------------------------------------------------

namespace LineShell

namespace Search

/- A colon between two search paths joins what they list. -/
theorem splitPath_append
    (first second : Text) :
    splitPath (first ++ ':' :: second) =
      splitPath first ++ splitPath second := by
  unfold splitPath
  rw [List.splitOn_append_cons_self, List.filter_append]

@[simp] theorem splitPath_nil :
    splitPath [] = [] :=
  rfl

/- Colons at the begin of a search path list nothing. -/
theorem splitPath_colons_append
    (n : Nat)
    (path : Text) :
    splitPath (List.replicate n ':' ++ path) =
      splitPath path := by
  induction n with
  | zero => rfl
  | succ n ih =>
      have hColon :
          List.replicate (n + 1) ':' ++ path =
            [] ++ ':' :: (List.replicate n ':' ++ path) :=
        rfl
      rw [hColon, splitPath_append, ih]
      rfl

theorem splitPath_colons
    (n : Nat) :
    splitPath (List.replicate n ':') = [] := by
  have hColons := splitPath_colons_append n []
  rw [List.append_nil] at hColons
  exact hColons

/- Nor do colons at its end. -/
theorem splitPath_append_colons
    (path : Text)
    (n : Nat) :
    splitPath (path ++ List.replicate n ':') =
      splitPath path := by
  cases n with
  | zero =>
      rw [List.replicate_zero, List.append_nil]
  | succ n =>
      rw [List.replicate_succ, splitPath_append,
        splitPath_colons, List.append_nil]

/- Paths that are joined by colons list what each lists. -/
theorem splitPath_intercalate
    (paths : List Text) :
    splitPath ([':'].intercalate paths) =
      paths.flatMap splitPath := by
  induction paths with
  | nil => rfl
  | cons path rest ih =>
      cases rest with
      | nil =>
          rw [List.intercalate_singleton, List.flatMap_singleton]
      | cons next rest =>
          rw [List.intercalate_cons_cons, List.append_assoc,
            List.flatMap_cons, ← ih]
          exact splitPath_append path _

end Search

end LineShell

------------------------------------------------------------
-- Setting the Search Path
------------------------------------------------------------

namespace LineShell

/- A variable that is set has its value, the others theirs. -/
theorem Environment.get?_assign
    (environment : Environment)
    (name other : Text)
    (setting : Option Text) :
    (environment.assign name setting).get? other =
      if name = other then setting else environment.get? other := by
  cases setting with
  | none => exact Table.find?_erase name other environment
  | some value => exact Table.find?_put name other value environment

namespace Search

/- A search path that is set decides what is searched. -/
theorem directories_assign
    (environment : Environment)
    (path : Text) :
    directories (environment.assign "PATH" (some path)) =
      splitPath path := by
  have hPath :
      (environment.assign "PATH" (some path)).searchPath =
        some path :=
    (environment.get?_assign _ _ _).trans (if_pos rfl)
  unfold directories
  rw [hPath]

end Search

end LineShell

------------------------------------------------------------
-- Places of a Name
------------------------------------------------------------

namespace LineShell

/- The stem of a name: the name without the slashes before it. -/
structure StemOf
    (name stem : Text) : Prop where
  slashes : ∃ n, name = List.replicate n '/' ++ stem
  bare : Text.beginsWith '/' stem = false

theorem stemOf_dropAll
    (name : Text) :
    StemOf name (Text.dropAll '/' name) where
  slashes := by
    let slashes := name.takeWhile (· == '/')
    have hSlashes :
        slashes = List.replicate slashes.length '/' := by
      apply List.eq_replicate_iff.2
      refine ⟨rfl, ?_⟩
      intro c hMem
      have hAll : slashes.all (· == '/') = true :=
        List.all_takeWhile
      exact eq_of_beq (List.all_eq_true.1 hAll c hMem)
    refine ⟨slashes.length, ?_⟩
    rw [← hSlashes]
    exact List.takeWhile_append_dropWhile.symm
  bare := Text.beginsWith_dropAll '/' name

/- What stands between a directory and a name in it. -/
def Path.separator
    (dir : Path) : Text :=
  if Text.endsWith '/' dir then
    []
  else
    ['/']

theorem Path.under_eq_append
    {dir : Path}
    (hDir : dir ≠ [])
    (name : Path) :
    under dir name = dir ++ separator dir ++ name := by
  have hEmpty : dir.isEmpty = false := by
    simpa using hDir
  unfold under separator
  cases hEnds : Text.endsWith '/' dir with
  | true => simp
  | false => simp [hEmpty]

namespace Search

/- The candidates are the places of the stem in the directories. -/
theorem candidates_eq_map
    (environment : Environment)
    (name : Text) :
    candidates environment name =
      (directories environment).map fun dir =>
        dir ++ Path.separator dir ++ Text.dropAll '/' name := by
  apply List.map_congr_left
  intro dir hDir
  exact Path.under_eq_append (directory_ne_nil hDir) _

end Search

end LineShell
