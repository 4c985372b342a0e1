import LineShell.Proofs.SearchPath

/-
  What a path with a leading tilde is expanded to.

  `Path.StartsAtHome` and `Path.below` say by themselves which
  paths need the home directory, and what a name below it is.
  A path that starts at home only counts by its name, which
  begins with no slash, so that it cannot leave the directory.

  Main declarations:
    * `Path.StartsAtHome`
    * `Path.below`
    * `Path.expandHome_of_not_startsAtHome`
    * `Path.expandHome_slashes`
    * `Path.exists_below_of_startsAtHome`
    * `Path.expandHome_eq_none_iff`
    * `Path.IsSettled`
    * `Path.expandHome_twice_iff`
    * `Path.expandHome_stays_below`
-/

------------------------------------------------------------
-- Paths That Start at Home
------------------------------------------------------------

namespace LineShell

namespace Path

/- A path that starts at home: a tilde, alone or before a slash. -/
def StartsAtHome
    (path : Path) : Prop :=
  path = ['~'] ∨ ['~', '/'] <+: path

instance
    (path : Path) :
    Decidable (StartsAtHome path) :=
  inferInstanceAs (Decidable (_ ∨ _))

/- After the tilde come all the slashes and then a name. -/
theorem startsAtHome_iff
    {path : Path} :
    StartsAtHome path ↔
      path = ['~'] ∨
        ∃ n name, Text.beginsWith '/' name = false ∧
          path = '~' :: List.replicate (n + 1) '/' ++ name := by
  refine or_congr_right ⟨?_, ?_⟩
  · rintro ⟨rest, rfl⟩
    have hStem := stemOf_dropAll rest
    rcases hStem.slashes with ⟨n, hSlashes⟩
    refine ⟨n, Text.dropAll '/' rest, hStem.bare, ?_⟩
    exact congrArg (['~', '/'] ++ ·) hSlashes
  · rintro ⟨n, name, -, rfl⟩
    exact ⟨List.replicate n '/' ++ name, rfl⟩

theorem beginsWith_of_startsAtHome
    {path : Path}
    (hHome : StartsAtHome path) :
    Text.beginsWith '~' path = true := by
  rcases hHome with rfl | ⟨rest, rfl⟩
  · rfl
  · rfl

/- Any other path is kept, with or without a home directory. -/
theorem expandHome_of_not_startsAtHome
    {path : Path}
    (hPath : ¬ StartsAtHome path)
    (home : Option Path) :
    expandHome home path = some path := by
  unfold expandHome
  split
  · exact absurd (.inl rfl) hPath
  · next rest => exact absurd (.inr ⟨rest, rfl⟩) hPath
  · rfl

end Path

end LineShell

------------------------------------------------------------
-- Names below a Directory
------------------------------------------------------------

namespace LineShell

namespace Path

/-
  What a name below a directory is: the directory, a slash
  unless it ends in one, and the name.  Where one of the two is
  empty, it is the other.
-/
def below
    (dir name : Path) : Path :=
  if name = [] then
    dir
  else if dir = [] then
    name
  else
    dir ++ separator dir ++ name

@[simp] theorem below_nil
    (dir : Path) :
    below dir [] = dir :=
  if_pos rfl

theorem below_eq_append
    {dir name : Path}
    (hDir : dir ≠ [])
    (hName : name ≠ []) :
    below dir name = dir ++ separator dir ++ name := by
  rw [below, if_neg hName, if_neg hDir]

theorem under_eq_below
    {name : Path}
    (hName : name ≠ [])
    (dir : Path) :
    under dir name = below dir name := by
  by_cases hDir : dir = []
  · rw [below, if_neg hName, if_pos hDir, hDir]
    rfl
  · rw [under_eq_append hDir, below_eq_append hDir hName]

/- It is the directory with something after it. -/
theorem prefix_below
    (dir name : Path) :
    dir <+: below dir name := by
  by_cases hDir : dir = []
  · rw [hDir]
    exact List.nil_prefix
  · by_cases hName : name = []
    · simp [hName]
    · rw [below_eq_append hDir hName, List.append_assoc]
      exact List.prefix_append dir _

/- So it begins as the directory does. -/
theorem beginsWith_below
    {dir : Path}
    (hDir : dir ≠ [])
    (c : Char)
    (name : Path) :
    Text.beginsWith c (below dir name) =
      Text.beginsWith c dir := by
  rcases prefix_below dir name with ⟨rest, hRest⟩
  rw [← hRest]
  cases dir with
  | nil => exact absurd rfl hDir
  | cons d dir => rfl

/- Only the empty name leads to the directory itself. -/
theorem below_eq_self_iff
    {dir name : Path}
    (hDir : dir ≠ []) :
    below dir name = dir ↔ name = [] := by
  by_cases hName : name = []
  · rw [hName, below_nil]
    simp
  · rw [below_eq_append hDir hName, List.append_assoc,
      List.append_right_eq_self, List.append_eq_nil_iff]
    exact and_iff_right_of_imp fun hNil => absurd hNil hName

end Path

end LineShell

------------------------------------------------------------
-- Expansions
------------------------------------------------------------

namespace LineShell

namespace Path

/- The slashes after the tilde do not count. -/
theorem expandHome_slashes
    (home : Option Path)
    (n : Nat)
    (text : Text) :
    expandHome home
        ('~' :: List.replicate (n + 1) '/' ++ text) =
      home.map fun dir => below dir (Text.dropAll '/' text) := by
  have hExpand :
      expandHome home
          ('~' :: List.replicate (n + 1) '/' ++ text) =
        home.map fun dir =>
          let name :=
            Text.dropAll '/' (List.replicate n '/' ++ text)
          if name.isEmpty then dir else under dir name :=
    rfl
  rw [hExpand, Text.dropAll_replicate_append]
  congr 1
  funext dir
  by_cases hName : Text.dropAll '/' text = []
  · simp [hName]
  · simp [hName, under_eq_below]

theorem expandHome_bare
    {name : Path}
    (hName : Text.beginsWith '/' name = false)
    (home : Option Path)
    (n : Nat) :
    expandHome home
        ('~' :: List.replicate (n + 1) '/' ++ name) =
      home.map (below · name) := by
  rw [expandHome_slashes,
    Text.dropAll_of_not_beginsWith hName]

/- A tilde with nothing but slashes is the home directory. -/
theorem expandHome_tilde
    (home : Option Path)
    (n : Nat) :
    expandHome home ('~' :: List.replicate n '/') = home := by
  cases n with
  | zero => rfl
  | succ n =>
      have hBare :
          expandHome home
              ('~' :: List.replicate (n + 1) '/' ++ []) =
            home.map (below · []) :=
        expandHome_bare rfl home n
      rw [List.append_nil] at hBare
      simpa using hBare

/- A path that starts at home leads to a name below it. -/
theorem exists_below_of_startsAtHome
    {path : Path}
    (hPath : StartsAtHome path) :
    ∃ name, Text.beginsWith '/' name = false ∧
      ∀ home, expandHome home path = home.map (below · name) := by
  rcases startsAtHome_iff.1 hPath with rfl | ⟨n, name, hName, rfl⟩
  · refine ⟨[], rfl, ?_⟩
    intro home
    have hTilde := expandHome_tilde home 0
    simpa using hTilde
  · exact ⟨name, hName,
      fun home => expandHome_bare hName home n⟩

/- Only such a path needs the home directory to be set. -/
theorem expandHome_eq_none_iff
    (home : Option Path)
    (path : Path) :
    expandHome home path = none ↔
      home = none ∧ StartsAtHome path := by
  by_cases hPath : StartsAtHome path
  · rcases exists_below_of_startsAtHome hPath with
      ⟨name, -, hBelow⟩
    rw [hBelow home, Option.map_eq_none_iff]
    exact (and_iff_left hPath).symm
  · rw [expandHome_of_not_startsAtHome hPath]
    refine iff_of_false (Option.some_ne_none path) ?_
    exact fun hNeeds => hPath hNeeds.2

/-
  A path with a leading tilde is only made absolute by an
  absolute home directory, and then it lies below that.
-/
theorem absolute_of_expandHome
    {home expanded : Path}
    {text : Text}
    (hExpand :
      expandHome (some home) ('~' :: text) = some expanded)
    (hAbsolute : Text.beginsWith '/' expanded = true) :
    Text.beginsWith '/' home = true ∧
      ∃ name, Text.beginsWith '/' name = false ∧
        expanded = below home name := by
  by_cases hPath : StartsAtHome ('~' :: text)
  · rcases exists_below_of_startsAtHome hPath with
      ⟨name, hName, hBelow⟩
    rw [hBelow (some home)] at hExpand
    have hExpanded : below home name = expanded :=
      Option.some.inj hExpand
    refine ⟨?_, name, hName, hExpanded.symm⟩
    by_cases hHome : home = []
    · -- A name alone is not absolute.
      have hAlone : below [] name = name := by
        simp [below]
      rw [← hExpanded, hHome, hAlone, hName] at hAbsolute
      cases hAbsolute
    · rw [← beginsWith_below hHome, hExpanded]
      exact hAbsolute
  · rw [expandHome_of_not_startsAtHome hPath] at hExpand
    rw [← Option.some.inj hExpand] at hAbsolute
    cases hAbsolute

end Path

end LineShell

------------------------------------------------------------
-- Expanding Twice
------------------------------------------------------------

namespace LineShell

namespace Path

/-
  A home directory below which nothing is expanded again: it is
  not empty, and it does not lie below home itself.
-/
structure IsSettled
    (home : Path) : Prop where
  ne_nil : home ≠ []
  top : StartsAtHome home →
    ∃ n, home = '~' :: List.replicate n '/'

/- An absolute directory is such a directory. -/
theorem isSettled_of_absolute
    {home : Path}
    (hHome : Text.beginsWith '/' home = true) :
    IsSettled home := by
  cases home with
  | nil => cases hHome
  | cons c home =>
      refine ⟨List.cons_ne_nil c home, ?_⟩
      intro hStarts
      have hSlash : c = '/' := by
        simpa [Text.beginsWith] using hHome
      have hTilde : c = '~' := by
        simpa [Text.beginsWith] using
          beginsWith_of_startsAtHome hStarts
      exact absurd (hSlash.symm.trans hTilde) (by decide)

/- Only the first two characters of a path count for it. -/
theorem startsAtHome_of_append
    {home rest : Path}
    (hHome : home ≠ [])
    (hPath : StartsAtHome (home ++ rest)) :
    StartsAtHome home := by
  match home with
  | [] => exact absurd rfl hHome
  | [c] =>
      have hTilde := beginsWith_of_startsAtHome hPath
      have hChar : c = '~' := by
        simpa [Text.beginsWith] using hTilde
      exact .inl (congrArg ([·]) hChar)
  | c :: d :: more =>
      rcases hPath with hAlone | hSlash
      · simp at hAlone
      · refine .inr ?_
        simpa using hSlash

/- Some slashes after a tilde, and a name below them. -/
theorem exists_below_slashes
    {name : Path}
    (hName : name ≠ [])
    (n : Nat) :
    ∃ m, below ('~' :: List.replicate n '/') name =
      '~' :: List.replicate (m + 1) '/' ++ name := by
  rw [below_eq_append (List.cons_ne_nil _ _) hName]
  cases n with
  | zero => exact ⟨0, rfl⟩
  | succ n =>
      refine ⟨n, ?_⟩
      have hEnds :
          Text.endsWith '/'
            ('~' :: List.replicate (n + 1) '/') = true := by
        rw [List.replicate_succ', ← List.cons_append]
        exact Text.endsWith_concat _ '/'
      rw [separator, if_pos hEnds, List.append_nil]

/- A name below a settled directory is not expanded again. -/
theorem IsSettled.expandHome_below
    {home name : Path}
    (hHome : IsSettled home)
    (hName : Text.beginsWith '/' name = false) :
    expandHome (some home) (below home name) =
      some (below home name) := by
  by_cases hStarts : StartsAtHome home
  · rcases hHome.top hStarts with ⟨n, rfl⟩
    by_cases hNil : name = []
    · rw [hNil, below_nil]
      exact expandHome_tilde _ n
    · rcases exists_below_slashes hNil n with ⟨m, hBelow⟩
      rw [hBelow, expandHome_bare hName, Option.map_some, hBelow]
  · refine expandHome_of_not_startsAtHome ?_ (some home)
    intro hBelow
    rcases prefix_below home name with ⟨rest, hRest⟩
    rw [← hRest] at hBelow
    exact hStarts (startsAtHome_of_append hHome.ne_nil hBelow)

/-
  To expand twice is to expand once, for all paths, exactly if
  the home directory is settled.
-/
theorem expandHome_twice_iff
    (home : Path) :
    (∀ path,
      (expandHome (some home) path).bind
          (expandHome (some home)) =
        expandHome (some home) path) ↔
      IsSettled home := by
  constructor
  · intro hTwice
    have hNe : home ≠ [] := by
      -- Below the empty directory, a tilde stands alone again.
      rintro rfl
      have hTilde := hTwice ['~', '/', '~']
      revert hTilde
      decide
    refine ⟨hNe, ?_⟩
    intro hStarts
    have hSelf : expandHome (some home) home = some home :=
      hTwice ['~']
    rcases startsAtHome_iff.1 hStarts with
      hTilde | ⟨n, name, hName, hHome⟩
    · exact ⟨0, hTilde⟩
    · have hBelow := expandHome_bare hName (some home) n
      rw [← hHome, hSelf] at hBelow
      have hNil : name = [] :=
        (below_eq_self_iff hNe).1 (Option.some.inj hBelow).symm
      rw [hNil, List.append_nil] at hHome
      exact ⟨n + 1, hHome⟩
  · intro hHome path
    by_cases hPath : StartsAtHome path
    · rcases exists_below_of_startsAtHome hPath with
        ⟨name, hName, hBelow⟩
      rw [hBelow (some home)]
      exact hHome.expandHome_below hName
    · rw [expandHome_of_not_startsAtHome hPath]
      exact expandHome_of_not_startsAtHome hPath (some home)

/- A home directory below home is put before its names again. -/
example :
    let home : Path := "~/a"
    expandHome (some home) "~" = some "~/a" ∧
      expandHome (some home) "~/a" = some "~/a/a" := by
  decide

end Path

end LineShell

------------------------------------------------------------
-- Staying below Home
------------------------------------------------------------

namespace LineShell

namespace Path

/-
  Only a path that starts at home depends on the home
  directory, and it needs that to be set.  A tilde alone leads
  to it, and slashes and a name lead to the name below it, as
  many slashes as there are.  So a text after a tilde leads to
  no absolute path but those below an absolute home directory.
  To expand twice is to expand once for exactly the settled
  home directories, and so for all absolute ones.
-/
theorem expandHome_stays_below
    (home : Path) :
    let expand := expandHome (some home)
    (∀ path, ¬ StartsAtHome path →
        ∀ setting, expandHome setting path = some path) ∧
      (∀ path, StartsAtHome path →
        ∀ setting,
          expandHome setting path = none ↔ setting = none) ∧
      expand ['~'] = some home ∧
      (∀ n name, Text.beginsWith '/' name = false →
        expand ('~' :: List.replicate (n + 1) '/' ++ name) =
          some (below home name)) ∧
      (∀ n m text,
        expand ('~' :: List.replicate (n + 1) '/' ++ text) =
          expand ('~' :: List.replicate (m + 1) '/' ++ text)) ∧
      (∀ text expanded,
        expand ('~' :: text) = some expanded →
          Text.beginsWith '/' expanded = true →
            Text.beginsWith '/' home = true ∧
              ∃ name, Text.beginsWith '/' name = false ∧
                expanded = below home name) ∧
      ((∀ path, (expand path).bind expand = expand path) ↔
        IsSettled home) ∧
      (Text.beginsWith '/' home = true →
        ∀ path, (expand path).bind expand = expand path) := by
  intro expand
  refine ⟨?_, ?_, rfl, ?_, ?_, ?_, expandHome_twice_iff home, ?_⟩
  · intro path hPath setting
    exact expandHome_of_not_startsAtHome hPath setting
  · intro path hPath setting
    exact (expandHome_eq_none_iff setting path).trans
      (and_iff_left hPath)
  · intro n name hName
    exact expandHome_bare hName (some home) n
  · intro n m text
    exact (expandHome_slashes (some home) n text).trans
      (expandHome_slashes (some home) m text).symm
  · intro text expanded hExpand hAbsolute
    exact absolute_of_expandHome hExpand hAbsolute
  · intro hHome
    exact (expandHome_twice_iff home).2
      (isSettled_of_absolute hHome)

/-
  A name with doubled slashes before it, and a home directory
  that ends in a slash.
-/
theorem expandHome_stays_below_doubled_slashes :
    let home : Path := "/home/u/"
    let expand := expandHome (some home)
    let path : Path := "~///etc"
    ¬ StartsAtHome "~root/etc" ∧
      expandHome none "~root/etc" = some "~root/etc" ∧
      StartsAtHome path ∧
      expandHome none path = none ∧
      Text.beginsWith '/' "etc" = false ∧
      expand path = some (below home "etc") ∧
      below home "etc" = "/home/u/etc".toList ∧
      Text.beginsWith '/' home = true ∧
      (expand path).bind expand = expand path := by
  intro home expand path
  rcases expandHome_stays_below home with
    ⟨hKept, hNeeds, -, hBelow, -, -, -, hTwice⟩
  have hOther : ¬ StartsAtHome "~root/etc" := by decide
  have hPath : StartsAtHome path := by decide
  have hName : Text.beginsWith '/' "etc" = false := by decide
  have hHome : Text.beginsWith '/' home = true := by decide
  exact ⟨hOther, hKept _ hOther none, hPath,
    (hNeeds path hPath none).2 rfl, hName, hBelow 2 "etc" hName,
    by decide, hHome, hTwice hHome path⟩

end Path

end LineShell
