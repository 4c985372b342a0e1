import LineShell.Proofs.ChangingDirectory
import LineShell.Proofs.Footprint
import LineShell.Proofs.SearchPath

/-
  Going below the home directory in one step or in two.

  A normalised path is its own normal form, and what comes
  after a directory in a path is resolved from the normal form
  of that directory.  So in a tree it makes no difference
  whether a directory is entered on the way, as long as it can
  be entered, and the home directory is such a directory.

  Main declarations:
    * `LexicalTree.IsPart`
    * `LexicalTree.partsOf_ofParts`
    * `LexicalTree.normalize_under`
    * `LexicalTree.enter_under`
    * `Builtin.changeDirectoryTo_succeeds_iff`
    * `Builtin.changeDirectory_below_home`
-/

------------------------------------------------------------
-- Parts of Normalised Paths
------------------------------------------------------------

namespace LineShell

namespace LexicalTree

/-
  A part of a normalised path: the name of an entry, and not of
  the directory itself or the one above it.
-/
structure IsPart
    (part : Text) : Prop where
  unslashed : '/' ∉ part
  ne_nil : part ≠ []
  ne_dot : part ≠ ['.']
  ne_dots : part ≠ ['.', '.']

/- Such a part is kept as it is. -/
theorem pushPart_of_isPart
    {part : Text}
    (hPart : IsPart part)
    (parts : List Text) :
    pushPart parts part = part :: parts := by
  unfold pushPart
  rw [if_neg, if_neg hPart.ne_dots]
  rintro (hNil | hDot)
  · exact hPart.ne_nil hNil
  · exact hPart.ne_dot hDot

/- No other part is kept. -/
theorem isPart_of_mem_pushPart
    {parts : List Text}
    {part : Text}
    (hParts : ∀ kept ∈ parts, IsPart kept)
    (hPart : '/' ∉ part) :
    ∀ kept ∈ pushPart parts part, IsPart kept := by
  intro kept hKept
  unfold pushPart at hKept
  split at hKept
  · exact hParts kept hKept
  · next hStays =>
      split at hKept
      · exact hParts kept (List.mem_of_mem_tail hKept)
      · next hDots =>
          rcases List.mem_cons.1 hKept with rfl | hEarlier
          · exact ⟨hPart, fun hNil => hStays (Or.inl hNil),
              fun hDot => hStays (Or.inr hDot), hDots⟩
          · exact hParts kept hEarlier

/- All parts that a path is cut into are such parts. -/
theorem isPart_of_mem_partsOf
    (path : Path) :
    ∀ part ∈ partsOf path, IsPart part := by
  have hPush (pieces parts : List Text)
      (hPieces : ∀ piece ∈ pieces, '/' ∉ piece)
      (hParts : ∀ part ∈ parts, IsPart part) :
      ∀ part ∈ pieces.foldl pushPart parts, IsPart part := by
    induction pieces generalizing parts with
    | nil => exact hParts
    | cons piece pieces ih =>
        rcases List.forall_mem_cons.1 hPieces with
          ⟨hPiece, hRest⟩
        exact ih (pushPart parts piece) hRest
          (isPart_of_mem_pushPart hParts hPiece)
  exact hPush (path.splitOn '/') []
    (fun _ hPiece => Text.not_mem_of_mem_splitOn hPiece)
    (fun _ hPart => absurd hPart List.not_mem_nil)

/- What comes after a slash is pushed on what comes before it. -/
theorem partsOf_append_slash
    (dir path : Path) :
    partsOf (dir ++ '/' :: path) =
      (path.splitOn '/').foldl pushPart (partsOf dir) := by
  unfold partsOf
  rw [List.splitOn_append_cons_self, List.foldl_append]

/- The path of some parts has these parts. -/
theorem partsOf_ofParts
    {parts : List Text}
    (hParts : ∀ part ∈ parts, IsPart part) :
    partsOf (ofParts parts) = parts := by
  have hPush :
      parts.reverse.foldl pushPart [] = parts := by
    rw [List.foldl_reverse]
    induction parts with
    | nil => rfl
    | cons part parts ih =>
        rcases List.forall_mem_cons.1 hParts with ⟨hPart, hRest⟩
        rw [List.foldr_cons, ih hRest]
        exact pushPart_of_isPart hPart parts
  have hCut :
      partsOf (ofParts parts) =
        (['/'].intercalate parts.reverse |>.splitOn '/').foldl
          pushPart [] :=
    partsOf_append_slash [] _
  rw [hCut]
  by_cases hNil : parts = []
  · rw [hNil]
    rfl
  · rw [List.splitOn_intercalate '/', hPush]
    · intro part hPart
      exact (hParts part (List.mem_reverse.1 hPart)).unslashed
    · simpa using hNil

/- The parts of a path are those of its normal form. -/
theorem partsOf_normalize
    (directory path : Path) :
    partsOf (normalize directory path) =
      partsOf (absolute directory path) :=
  partsOf_ofParts (isPart_of_mem_partsOf _)

end LexicalTree

end LineShell

------------------------------------------------------------
-- Paths under a Directory
------------------------------------------------------------

namespace LineShell

namespace Path

variable {dir name : Path}

/- A name under a directory begins as the directory does. -/
theorem beginsWith_under
    (hDir : dir ≠ [])
    (name : Path) :
    Text.beginsWith '/' (under dir name) =
      Text.beginsWith '/' dir := by
  cases dir with
  | nil => exact absurd rfl hDir
  | cons c dir =>
      unfold under
      split
      · rfl
      · rfl

/- And it ends as the name does. -/
theorem endsWith_under
    (hName : name ≠ [])
    (dir : Path) :
    Text.endsWith '/' (under dir name) =
      Text.endsWith '/' name := by
  unfold under
  split
  · exact Text.endsWith_append hName
  · rw [Text.endsWith_append (List.cons_ne_nil _ _)]
    exact Text.endsWith_cons hName '/'

/- Only a slash is put between them. -/
theorem mem_under_iff
    {c : Char}
    (hSlash : c ≠ '/') :
    c ∈ under dir name ↔ c ∈ dir ∨ c ∈ name := by
  unfold under
  split
  · exact List.mem_append
  · rw [List.mem_append, List.mem_cons]
    simp [hSlash]

theorem under_ne_nil
    (hName : name ≠ [])
    (dir : Path) :
    under dir name ≠ [] := by
  unfold under
  split
  · exact List.append_ne_nil_of_right_ne_nil dir hName
  · exact List.append_ne_nil_of_right_ne_nil dir
      (List.cons_ne_nil '/' name)

end Path

namespace LexicalTree

variable {dir path : Path}

/- The parts of a name are pushed on those of its directory. -/
theorem partsOf_under
    (hDir : dir ≠ [])
    (path : Path) :
    partsOf (Path.under dir path) =
      (path.splitOn '/').foldl pushPart (partsOf dir) := by
  rw [Path.under_eq_append hDir]
  unfold Path.separator
  cases hEnds : Text.endsWith '/' dir with
  | false =>
      rw [← partsOf_append_slash]
      simp
  | true =>
      rcases List.getLast?_eq_some_iff.1 (eq_of_beq hEnds) with
        ⟨before, rfl⟩
      -- The last slash only leaves an empty part after it.
      have hSlash : partsOf (before ++ ['/']) = partsOf before :=
        partsOf_append_slash before []
      rw [hSlash, ← partsOf_append_slash]
      simp

/- To make a directory absolute is to make all under it so. -/
theorem absolute_under
    (directory : Path)
    (hDir : dir ≠ [])
    (path : Path) :
    absolute directory (Path.under dir path) =
      Path.under (absolute directory dir) path := by
  unfold absolute
  rw [Path.beginsWith_under hDir]
  split
  · rfl
  · have hWhole : directory ++ '/' :: dir ≠ [] := by simp
    have hEnds :
        Text.endsWith '/' (directory ++ '/' :: dir) =
          Text.endsWith '/' dir := by
      rw [Text.endsWith_append (List.cons_ne_nil '/' dir)]
      exact Text.endsWith_cons hDir '/'
    rw [Path.under_eq_append hDir, Path.under_eq_append hWhole]
    unfold Path.separator
    rw [hEnds]
    simp

/-
  A relative path under a directory leads to where it leads
  from the normal form of the directory.
-/
theorem normalize_under
    (directory : Path)
    (hDir : dir ≠ [])
    (hRelative : Text.beginsWith '/' path = false) :
    normalize directory (Path.under dir path) =
      normalize (normalize directory dir) path := by
  have hWhole : absolute directory dir ≠ [] := by
    unfold absolute
    split
    · exact hDir
    · simp
  have hFrom :
      absolute (normalize directory dir) path =
        normalize directory dir ++ '/' :: path := by
    rw [absolute, hRelative]
    rfl
  have hParts :
      partsOf (absolute directory (Path.under dir path)) =
        partsOf (absolute (normalize directory dir) path) := by
    rw [absolute_under directory hDir, partsOf_under hWhole,
      hFrom, partsOf_append_slash, partsOf_normalize]
  exact congrArg ofParts hParts

end LexicalTree

end LineShell

------------------------------------------------------------
-- Entering on the Way
------------------------------------------------------------

namespace LineShell

namespace LexicalTree

variable {tree entered : LexicalTree}
variable {dir path : Path}

/- A path that leads somewhere is not empty and has no NUL in it. -/
theorem nameable_of_enter
    (hEnter : tree.enter dir = .ok entered) :
    nul ∉ dir ∧ dir ≠ [] := by
  rw [enter_eq] at hEnter
  unfold lookup at hEnter
  by_cases hNul : nul ∈ dir
  · simp [hNul] at hEnter
  · by_cases hEmpty : dir = []
    · simp [hEmpty] at hEnter
    · exact ⟨hNul, hEmpty⟩

/-
  From a directory that was entered, a relative path is looked
  up as it is under that directory from where it was entered.
-/
theorem lookup_under
    (hEnter : tree.enter dir = .ok entered)
    (hPath : path ≠ [])
    (hRelative : Text.beginsWith '/' path = false) :
    tree.lookup (Path.under dir path) = entered.lookup path := by
  rcases nameable_of_enter hEnter with ⟨hNul, hDir⟩
  have hKey :=
    normalize_under tree.directory hDir hRelative
  have hContains :
      (Path.under dir path).contains nul = path.contains nul := by
    rw [Bool.eq_iff_iff, List.contains_iff_mem,
      List.contains_iff_mem, Path.mem_under_iff (by decide)]
    exact or_iff_right hNul
  have hEmpty : (Path.under dir path).isEmpty = path.isEmpty := by
    have hUnder := Path.under_ne_nil hPath dir
    rw [Bool.eq_iff_iff, List.isEmpty_iff, List.isEmpty_iff]
    exact iff_of_false hUnder hPath
  rw [enter_moves hEnter]
  unfold lookup
  rw [hContains, hEmpty, hKey, Path.endsWith_under hPath]

/-
  A directory may be entered on the way to one under it: the
  same directories are reached, and the same faults stop it.
-/
theorem enter_under
    (hEnter : tree.enter dir = .ok entered)
    (hPath : path ≠ [])
    (hRelative : Text.beginsWith '/' path = false) :
    tree.enter (Path.under dir path) = entered.enter path := by
  have hLookup := lookup_under hEnter hPath hRelative
  have hKey :=
    normalize_under tree.directory (nameable_of_enter hEnter).2
      hRelative
  rw [enter_eq, enter_eq, hLookup, hKey, enter_moves hEnter]

end LexicalTree

end LineShell

------------------------------------------------------------
-- Changes That Succeed
------------------------------------------------------------

namespace LineShell

namespace Builtin

variable {φ δ : Type}
variable {M : Machine φ δ}
variable {w : World φ δ}
variable {args : List Text}
variable {path : Path}
variable {name : Text}

/- What is said of a change that fails has no status 0. -/
theorem say_one_ne_zero
    (text : Text)
    (w : World φ δ) :
    ((do
      World.write .out text
      return 1 : Action (World φ δ) Int) w).result ≠ .ok 0 := by
  cases hOut : w.streams.answer .out .write with
  | some fault =>
      rw [World.say_refused hOut]
      simp
  | none =>
      rw [World.say_done hOut]
      simp

/- A change succeeds exactly if its target can be entered. -/
theorem changeDirectoryTo_succeeds_iff
    (hTarget : target? w.environment args = some path) :
    (changeDirectoryTo M name args w).result = .ok 0 ↔
      ∃ files, M.files.enter w.files path = .ok files := by
  rw [changeDirectoryTo_of_target name args hTarget]
  cases hEnter : M.files.enter w.files path with
  | ok files =>
      rw [enter_of_ok name hEnter]
      exact iff_of_true rfl ⟨files, rfl⟩
  | error fault =>
      refine iff_of_false ?_ fun ⟨_, hFiles⟩ => by cases hFiles
      cases hHost : fault.isHost with
      | true =>
          rw [enter_of_refusal name hEnter hHost]
          exact say_one_ne_zero _ w
      | false =>
          rw [enter_of_fault name hEnter hHost]
          intro hDone
          cases hDone

/- Without a target it does not succeed. -/
theorem exists_target_of_success
    (hDone : (changeDirectoryTo M name args w).result = .ok 0) :
    ∃ path, target? w.environment args = some path := by
  cases hTarget : target? w.environment args with
  | some path => exact ⟨path, rfl⟩
  | none =>
      rw [changeDirectoryTo_of_no_target name args hTarget]
        at hDone
      exact absurd hDone (say_one_ne_zero _ w)

end Builtin

end LineShell

------------------------------------------------------------
-- Below the Home Directory
------------------------------------------------------------

namespace LineShell

namespace Builtin

/- Slashes after a tilde do not count. -/
theorem target?_of_tilde_slashes
    {environment : Environment}
    {home path : Path}
    (hHome : environment.home = some home)
    (hPath : path ≠ [])
    (hRelative : Text.beginsWith '/' path = false)
    (n : Nat) :
    target? environment
        ['~' :: List.replicate (n + 1) '/' ++ path] =
      some (Path.under home path) := by
  have hTarget :
      target? environment
          ['~' :: List.replicate (n + 1) '/' ++ path] =
        environment.home.map (Path.below · path) :=
    Path.expandHome_bare hRelative environment.home n
  rw [hTarget, hHome, Option.map_some,
    Path.under_eq_below hPath]

/-
  To go below the home directory in one step or in two is the
  same.  In a tree in which `cd` alone succeeds, a tilde, any
  slashes and a relative path lead to where `cd` and then the
  path lead, and they lead there exactly if these do.
-/
theorem changeDirectory_below_home
    (name : Text)
    (w : World LexicalTree (Except Fault Int))
    (path : Path)
    (n : Nat)
    (hHome :
      (run LexicalTree.machine .changeDirectory name []
        w).result = .ok 0)
    (hPath : path ≠ [])
    (hRelative : Text.beginsWith '/' path = false)
    (hPlain : ¬ NeedsHome [path]) :
    let home :=
      run LexicalTree.machine .changeDirectory name [] w
    let once :=
      run LexicalTree.machine .changeDirectory name
        ['~' :: List.replicate (n + 1) '/' ++ path] w
    let twice :=
      run LexicalTree.machine .changeDirectory name [path]
        home.state
    (once.result = .ok 0 ↔ twice.result = .ok 0) ∧
      (once.result = .ok 0 →
        once.state = twice.state ∧
          once.state.files.directory =
            LexicalTree.normalize home.state.files.directory
              path) := by
  intro home once twice
  rcases exists_target_of_success hHome with ⟨dir, hDir⟩
  rcases (changeDirectoryTo_succeeds_iff hDir).1 hHome with
    ⟨entered, hEntered⟩
  have hDone : home = _ :=
    changeDirectoryTo_entered name hDir hEntered
  have hState : home.state = { w with files := entered } := by
    rw [hDone]
  have hOnce :
      target? w.environment
          ['~' :: List.replicate (n + 1) '/' ++ path] =
        some (Path.under dir path) :=
    target?_of_tilde_slashes hDir hPath hRelative n
  have hTwice : target? home.state.environment [path] = some path :=
    target?_of_not_needsHome hPlain _
  have hSame :
      w.files.enter (Path.under dir path) =
        home.state.files.enter path := by
    rw [hState]
    exact LexicalTree.enter_under hEntered hPath hRelative
  have hOnceIff :
      once.result = .ok 0 ↔
        ∃ files, w.files.enter (Path.under dir path) =
          .ok files :=
    changeDirectoryTo_succeeds_iff hOnce
  have hTwiceIff :
      twice.result = .ok 0 ↔
        ∃ files, home.state.files.enter path = .ok files :=
    changeDirectoryTo_succeeds_iff hTwice
  refine ⟨?_, ?_⟩
  · rw [hOnceIff, hTwiceIff, hSame]
  · intro hSucceeds
    rcases hOnceIff.1 hSucceeds with ⟨reached, hReached⟩
    have hThere : home.state.files.enter path = .ok reached :=
      hSame.symm.trans hReached
    have hOnceDone : once = _ :=
      changeDirectoryTo_entered name hOnce hReached
    have hTwiceDone : twice = _ :=
      changeDirectoryTo_entered name hTwice hThere
    rw [hOnceDone, hTwiceDone, LexicalTree.enter_moves hThere,
      hState]
    exact ⟨rfl, rfl⟩

/-
  A relative home directory that ends with a slash, and a path
  that climbs above it, with dots and doubled slashes.
-/
theorem changeDirectory_below_home_climbing :
    let w : World LexicalTree (Except Fault Int) :=
      { environment := [("HOME", "u/")]
        files := LexicalTree.build "/home"
          ["/home/u", "/home/v/src"] []
        device := .ok 0 }
    let path : Path := "../gone/..//v/./src/"
    let home :=
      run LexicalTree.machine .changeDirectory "cd" [] w
    let once :=
      run LexicalTree.machine .changeDirectory "cd"
        ["~//../gone/..//v/./src/"] w
    let twice :=
      run LexicalTree.machine .changeDirectory "cd" [path]
        home.state
    home.result = .ok 0 ∧
      path ≠ [] ∧
      Text.beginsWith '/' path = false ∧
      ¬ NeedsHome [path] ∧
      once.result = .ok 0 ∧
      once.state = twice.state ∧
      twice.state.files.directory = "/home/v/src".toList := by
  intro w path home once twice
  have hHome : home.result = .ok 0 := rfl
  have hPath : path ≠ [] := by decide
  have hRelative : Text.beginsWith '/' path = false := by decide
  have hPlain : ¬ NeedsHome [path] := by
    have hTilde : Text.beginsWith '~' path = false := by decide
    intro hNeeds
    clear_value path
    cases hNeeds with
    | tilde => cases hTilde
    | below => cases hTilde
  have hOnce : once.result = .ok 0 := rfl
  have hSame :=
    ((changeDirectory_below_home "cd" w path 1 hHome hPath
      hRelative hPlain).2 hOnce).1
  exact ⟨hHome, hPath, hRelative, hPlain, hOnce, hSame,
    by decide +kernel⟩

end Builtin

end LineShell
