import LineShell.Options.Reading
import LineShell.Proofs.Config

/-
  How options that are spelled out in full are read.

  An option with its value behind an equals sign is taken with
  that value, whatever it is.  Options are taken in order, each
  is checked as it is taken, and a later one replaces an
  earlier one of its kind.

  Main declarations:
    * `Argument.classify_of_value`
    * `SpelledOption`
    * `SpelledOption.read_eq`
    * `SpelledOption.read_of_admissible`
    * `SpelledOption.read_of_not_admissible`
    * `SpelledOption.foldl_kept_eq`
    * `SpelledOption.selected_overrides`
-/

------------------------------------------------------------
-- Spellings
------------------------------------------------------------

namespace LineShell

namespace Flag

variable {spelling : Text}
variable {flag : Flag}

theorem mem_of_spelled?
    (hSpelled : spelled? spelling = some flag) :
    spelling ∈ flag.spellings := by
  unfold spelled? at hSpelled
  have hContains := List.find?_some hSpelled
  exact List.contains_iff_mem.1 hContains

/- No spelling has an equals sign, and all begin with a dash. -/
theorem spelled?_form
    (hSpelled : spelled? spelling = some flag) :
    '=' ∉ spelling ∧ ∃ rest, spelling = '-' :: rest := by
  have hMem := mem_of_spelled? hSpelled
  have hForms :
      ∀ given ∈ flag.spellings,
        '=' ∉ given ∧ given.head? = some '-' := by
    cases flag with
    | _ => decide
  rcases hForms spelling hMem with ⟨hPlain, hDash⟩
  cases spelling with
  | nil => cases hDash
  | cons c rest =>
      cases hDash
      exact ⟨hPlain, rest, rfl⟩

end Flag

namespace Argument

variable {stem spelling : Text}
variable {flag : Flag}

/- A text is cut where its first equals sign is. -/
theorem splitValue_append
    (hStem : '=' ∉ stem)
    (value : Text) :
    splitValue (stem ++ '=' :: value) = (stem, some value) := by
  have hOther : ∀ c ∈ stem, (c != '=') = true := by
    intro c hMem
    exact bne_iff_ne.2 fun hEq => hStem (hEq ▸ hMem)
  unfold splitValue
  rw [List.dropWhile_append_of_pos hOther,
    List.takeWhile_append_of_pos hOther]
  simp

theorem classify_of_spelled
    (hSpelled : Flag.spelled? spelling = some flag) :
    classify spelling = .ok (option flag spelling none) := by
  rcases (Flag.spelled?_form hSpelled).2 with ⟨rest, rfl⟩
  simp only [classify, hSpelled]

/- A spelling with a value behind it has that value. -/
theorem classify_of_value
    (hSpelled : Flag.spelled? stem = some flag)
    (value : Text) :
    classify (stem ++ '=' :: value) =
      .ok (option flag stem (some value)) := by
  rcases Flag.spelled?_form hSpelled with ⟨hPlain, rest, rfl⟩
  -- The whole argument is not looked up as a spelling.
  have hWhole :
      Flag.spelled? ('-' :: rest ++ '=' :: value) = none := by
    cases hOther :
        Flag.spelled? ('-' :: rest ++ '=' :: value) with
    | none => rfl
    | some other =>
        have hEquals :
            '=' ∈ '-' :: rest ++ '=' :: value := by
          simp
        exact absurd hEquals (Flag.spelled?_form hOther).1
  have hSplit := splitValue_append hPlain value
  rw [List.cons_append] at hWhole hSplit ⊢
  simp only [classify, hWhole, hSplit, hSpelled]

end Argument

end LineShell

------------------------------------------------------------
-- Taking One Option
------------------------------------------------------------

namespace LineShell

/- An option that takes a value takes all text behind it. -/
theorem cluster_of_takesValue
    {flag : Flag}
    (hTakes : flag.takesValue = true)
    (spelling value : Text) :
    cluster flag spelling value = .ok ([], flag, some value) := by
  cases value with
  | nil => simp only [cluster, hTakes, if_true]
  | cons c rest => simp only [cluster, hTakes, if_true]

namespace Selection

variable {flag : Flag}

/- A choice is kept in the form in which it is compared. -/
theorem takeValue_of_choice
    {given : Text}
    (selection : Selection)
    (hText : Given.ofText given = .text given)
    (hChoice :
      flag.choices.contains (flag.convert given) = true) :
    selection.takeValue flag given =
      .ok (selection.keep (.text (flag.convert given)) flag) := by
  simp only [takeValue, hText, hChoice, Bool.or_true, if_true]

/- Where there are choices, any other value is refused. -/
theorem takeValue_of_no_choice
    {given : Text}
    (selection : Selection)
    (hText : Given.ofText given = .text given)
    (hLimited : flag.choices.isEmpty = false)
    (hChoice :
      flag.choices.contains (flag.convert given) ≠ true) :
    selection.takeValue flag given =
      .error (.fault (.invalidChoice flag (flag.convert given)))
      := by
  have hOther := Bool.eq_false_iff.2 hChoice
  simp only [takeValue, hText, hLimited, hOther, Bool.or_false,
    Bool.false_eq_true, if_false]

theorem consume_of_value
    (hTakes : flag.takesValue = true)
    (selection : Selection)
    (given spelling value : Text)
    (rest : List (Text × Argument)) :
    selection.consume
        ((given, .option flag spelling (some value)) :: rest) =
      (selection.takeValue flag value).bind (consume · rest) := by
  have hParts :
      parts flag spelling (some value) =
        .ok ([], flag, some value) := by
    simp only [parts, cluster_of_takesValue hTakes]
    rfl
  rw [consume, hParts]
  simp only [bind, Except.bind, hTakes, if_true]
  rfl

theorem consume_of_switch
    (hTakes : flag.takesValue = false)
    (selection : Selection)
    (given spelling : Text)
    (rest : List (Text × Argument)) :
    selection.consume
        ((given, .option flag spelling none) :: rest) =
      (selection.takeSwitch flag).bind (consume · rest) := by
  rw [consume]
  simp only [parts, bind, Except.bind, hTakes,
    Bool.false_eq_true, if_false]
  rfl

end Selection

end LineShell

------------------------------------------------------------
-- Options Spelled Out
------------------------------------------------------------

namespace LineShell

/-
  An option of the configuration as it is spelled out, with its
  value behind an equals sign if it takes one.
-/
inductive SpelledOption where
  | prompt (given : Text)
  | spawner (given : Text)
  | level (given : Text)
  | v
  | verbose

namespace SpelledOption

/- The argument that an option is. -/
def argument :
    SpelledOption → Text
  | prompt given => "--prompt=" ++ given
  | spawner given => "--spawner=" ++ given
  | level given => "--log-level=" ++ given
  | v => "-v"
  | verbose => "--verbose"

/- The value that it gives, if it takes one. -/
def value? :
    SpelledOption → Option Text
  | prompt given => some given
  | spawner given => some given
  | level given => some given
  | v => none
  | verbose => none

/- The class of its argument. -/
def form :
    SpelledOption → Argument
  | prompt given => .option .prompt "--prompt" (some given)
  | spawner given => .option .spawner "--spawner" (some given)
  | level given => .option .level "--log-level" (some given)
  | v => .option .verbose "-v" none
  | verbose => .option .verbose "--verbose" none

/- Take the option. -/
def take
    (selection : Selection) :
    SpelledOption → Except Stop Selection
  | prompt given => selection.takeValue .prompt given
  | spawner given => selection.takeValue .spawner given
  | level given => selection.takeValue .level given
  | v => selection.takeSwitch .verbose
  | verbose => selection.takeSwitch .verbose

theorem classify_argument
    (spelled : SpelledOption) :
    Argument.classify spelled.argument = .ok spelled.form := by
  cases spelled with
  | prompt given =>
      have hSpelled :
          Flag.spelled? "--prompt".toList = some .prompt :=
        rfl
      exact Argument.classify_of_value hSpelled given
  | spawner given =>
      have hSpelled :
          Flag.spelled? "--spawner".toList = some .spawner :=
        rfl
      exact Argument.classify_of_value hSpelled given
  | level given =>
      have hSpelled :
          Flag.spelled? "--log-level".toList = some .level :=
        rfl
      exact Argument.classify_of_value hSpelled given
  | v => exact Argument.classify_of_spelled rfl
  | verbose => exact Argument.classify_of_spelled rfl

/- No option is the two dashes that end the options. -/
theorem argument_ne_separator
    (spelled : SpelledOption) :
    spelled.argument ≠ ['-', '-'] := by
  cases spelled with
  | v => decide
  | verbose => decide
  | _ =>
      intro hDashes
      cases hDashes

theorem classifyAll_arguments
    (options : List SpelledOption) :
    Argument.classifyAll (options.map argument) =
      .ok (options.map fun spelled =>
        (spelled.argument, spelled.form)) := by
  induction options with
  | nil => rfl
  | cons spelled options ih =>
      simp only [List.map_cons, Argument.classifyAll,
        argument_ne_separator, if_false, classify_argument, ih]
      rfl

/-
  Options are taken in order, and nothing is left over.  The
  induction is on the options, over what is selected so far.
-/
theorem consume_options
    (selection : Selection)
    (options : List SpelledOption) :
    selection.consume
        (options.map fun spelled =>
          (spelled.argument, spelled.form)) =
      (options.foldlM take selection).map (·, []) := by
  induction options generalizing selection with
  | nil => rfl
  | cons spelled options ih =>
      have hStep :
          selection.consume
              ((spelled :: options).map fun spelled =>
                (spelled.argument, spelled.form)) =
            (spelled.take selection).bind fun next =>
              next.consume (options.map fun spelled =>
                (spelled.argument, spelled.form)) := by
        cases spelled with
        | v => exact Selection.consume_of_switch rfl _ _ _ _
        | verbose => exact Selection.consume_of_switch rfl _ _ _ _
        | _ => exact Selection.consume_of_value rfl _ _ _ _ _
      rw [hStep, List.foldlM_cons]
      cases spelled.take selection with
      | error stop => rfl
      | ok next => exact ih next

/- Reading the options takes them in order. -/
theorem read_eq
    (options : List SpelledOption) :
    Selection.read (options.map argument) =
      options.foldlM take {} := by
  have hClassified :
      (Argument.classifyAll (options.map argument)).mapError
          Stop.fault =
        .ok (options.map fun spelled =>
          (spelled.argument, spelled.form)) := by
    rw [classifyAll_arguments]
    rfl
  unfold Selection.read
  rw [hClassified]
  simp only [bind, Except.bind, consume_options]
  cases options.foldlM take {} with
  | error stop => rfl
  | ok selection => rfl

end SpelledOption

end LineShell

------------------------------------------------------------
-- Options That Are Admitted
------------------------------------------------------------

namespace LineShell

namespace SpelledOption

/- An option whose value is one of its choices, if it has any. -/
def Admissible :
    SpelledOption → Prop
  | spawner given => SpawnMethod.IsName given
  | level given => Level.IsName (Text.upper given)
  | _ => True

instance : DecidablePred Admissible
  | prompt _ => isTrue trivial
  | spawner given =>
      inferInstanceAs (Decidable (SpawnMethod.IsName given))
  | level given =>
      inferInstanceAs
        (Decidable (Level.IsName (Text.upper given)))
  | v => isTrue trivial
  | verbose => isTrue trivial

/- What is selected once the option is taken. -/
def kept
    (selection : Selection) :
    SpelledOption → Selection
  | prompt given => { selection with prompt := some (.text given) }
  | spawner given =>
      { selection with spawner := some (.text given) }
  | level given =>
      { selection with level := some (.text (Text.upper given)) }
  | v => { selection with verbose := true }
  | verbose => { selection with verbose := true }

/- Two dashes alone would count as no value. -/
theorem ofText_of_value
    {spelled : SpelledOption}
    {given : Text}
    (hDashes : spelled.value? ≠ some ['-', '-'])
    (hValue : spelled.value? = some given) :
    Given.ofText given = .text given := by
  have hGiven : given ≠ ['-', '-'] := by
    rintro rfl
    exact hDashes hValue
  unfold Given.ofText
  rw [if_neg hGiven]

theorem spawner_choices
    (given : Text) :
    Flag.spawner.choices.contains given = true ↔
      SpawnMethod.IsName given := by
  have hChoices :
      Flag.spawner.choices =
        ["fork".toList, "subprocess".toList] :=
    rfl
  rw [List.contains_iff_mem, hChoices, List.mem_cons,
    List.mem_singleton]
  exact or_comm

theorem level_choices
    (given : Text) :
    Flag.level.choices.contains given = true ↔
      Level.IsName given :=
  List.contains_iff_mem

/- An admissible option is kept. -/
theorem take_of_admissible
    (selection : Selection)
    {spelled : SpelledOption}
    (hDashes : spelled.value? ≠ some ['-', '-'])
    (hAdmissible : spelled.Admissible) :
    spelled.take selection = .ok (spelled.kept selection) := by
  cases spelled with
  | prompt given =>
      have hText := ofText_of_value hDashes rfl
      simp only [take, Selection.takeValue, hText]
      rfl
  | spawner given =>
      exact Selection.takeValue_of_choice selection
        (ofText_of_value hDashes rfl)
        ((spawner_choices given).2 hAdmissible)
  | level given =>
      exact Selection.takeValue_of_choice selection
        (ofText_of_value hDashes rfl)
        ((level_choices _).2 hAdmissible)
  | v => rfl
  | verbose => rfl

/- Any other option is refused. -/
theorem take_of_not_admissible
    (selection : Selection)
    {spelled : SpelledOption}
    (hDashes : spelled.value? ≠ some ['-', '-'])
    (hNot : ¬ spelled.Admissible) :
    ∃ fault, spelled.take selection = .error (.fault fault) := by
  cases spelled with
  | spawner given =>
      exact ⟨_, Selection.takeValue_of_no_choice selection
        (ofText_of_value hDashes rfl) rfl
        (mt (spawner_choices given).1 hNot)⟩
  | level given =>
      exact ⟨_, Selection.takeValue_of_no_choice selection
        (ofText_of_value hDashes rfl) rfl
        (mt (level_choices _).1 hNot)⟩
  | _ => exact absurd trivial hNot

variable {options : List SpelledOption}

/- Options that are all admissible are all kept. -/
theorem read_of_admissible
    (hDashes : ∀ spelled ∈ options,
      spelled.value? ≠ some ['-', '-'])
    (hAdmissible : ∀ spelled ∈ options, spelled.Admissible) :
    Selection.read (options.map argument) =
      .ok (options.foldl kept {}) := by
  rw [read_eq]
  generalize ({} : Selection) = selection
  induction options generalizing selection with
  | nil => rfl
  | cons spelled options ih =>
      rw [List.forall_mem_cons] at hDashes hAdmissible
      rw [List.foldlM_cons, take_of_admissible selection
        hDashes.1 hAdmissible.1]
      exact ih hDashes.2 hAdmissible.2 (spelled.kept selection)

/- The first one that is not ends the reading. -/
theorem read_of_not_admissible
    (hDashes : ∀ spelled ∈ options,
      spelled.value? ≠ some ['-', '-'])
    (hNot : ∃ spelled ∈ options, ¬ spelled.Admissible) :
    ∃ fault, Selection.read (options.map argument) =
      .error (.fault fault) := by
  rw [read_eq]
  generalize ({} : Selection) = selection
  induction options generalizing selection with
  | nil =>
      rcases hNot with ⟨spelled, hMem, -⟩
      cases hMem
  | cons spelled options ih =>
      rw [List.forall_mem_cons] at hDashes
      rw [List.foldlM_cons]
      by_cases hAdmissible : spelled.Admissible
      · -- The first option is kept, so it is a later one.
        have hLater :
            ∃ later ∈ options, ¬ later.Admissible := by
          rcases hNot with ⟨other, hMem, hOther⟩
          rcases List.mem_cons.1 hMem with rfl | hMem
          · exact absurd hAdmissible hOther
          · exact ⟨other, hMem, hOther⟩
        rw [take_of_admissible selection hDashes.1 hAdmissible]
        exact ih hDashes.2 hLater (spelled.kept selection)
      · rcases take_of_not_admissible selection hDashes.1
            hAdmissible with
          ⟨fault, hFault⟩
        rw [hFault]
        exact ⟨fault, rfl⟩

end SpelledOption

end LineShell

------------------------------------------------------------
-- The Last of Each Kind
------------------------------------------------------------

namespace LineShell

namespace SpelledOption

/- The prompt that an option gives, if it is one. -/
def prompt? :
    SpelledOption → Option Text
  | prompt given => some given
  | _ => none

/- The way to start children that it gives, if it is one. -/
def spawner? :
    SpelledOption → Option Text
  | spawner given => some given
  | _ => none

/- The level that it gives, if it is one. -/
def level? :
    SpelledOption → Option Text
  | level given => some given
  | _ => none

/- Whether it asks for everything to be logged. -/
def isVerbose :
    SpelledOption → Bool
  | v => true
  | verbose => true
  | _ => false

/- The last text of a kind among some options. -/
def last?
    (pick : SpelledOption → Option Text)
    (options : List SpelledOption) : Option Text :=
  (options.filterMap pick).getLast?

/-
  What is replaced by each text of a kind, and by nothing else,
  is that of the last one.
-/
theorem foldl_kept
    (pick : SpelledOption → Option Text)
    (field : Selection → Option Given)
    (convert : Text → Text)
    (hField : ∀ selection spelled,
      field (kept selection spelled) =
        ((pick spelled).map fun given =>
          Given.text (convert given)).or (field selection))
    (options : List SpelledOption)
    (selection : Selection) :
    field (options.foldl kept selection) =
      ((last? pick options).map fun given =>
        Given.text (convert given)).or (field selection) := by
  unfold last?
  induction options generalizing selection with
  | nil => rfl
  | cons spelled options ih =>
      rw [List.foldl_cons, ih, hField]
      cases hPick : pick spelled with
      | none => simp [hPick]
      | some given =>
          rw [List.filterMap_cons_some hPick,
            List.getLast?_cons]
          cases (options.filterMap pick).getLast? with
          | none => rfl
          | some later => rfl

theorem foldl_kept_verbose
    (options : List SpelledOption)
    (selection : Selection) :
    (options.foldl kept selection).verbose =
      (options.any isVerbose || selection.verbose) := by
  induction options generalizing selection with
  | nil => rfl
  | cons spelled options ih =>
      rw [List.foldl_cons, ih, List.any_cons]
      cases spelled with
      | v => simp [kept, isVerbose]
      | verbose => simp [kept, isVerbose]
      | _ => rfl

theorem foldl_kept_line
    (options : List SpelledOption)
    (selection : Selection) :
    (options.foldl kept selection).line = selection.line := by
  induction options generalizing selection with
  | nil => rfl
  | cons spelled options ih =>
      rw [List.foldl_cons, ih]
      cases spelled with
      | _ => rfl

/- The last text of each kind, and whether all is logged. -/
def selected
    (options : List SpelledOption) : Selection where
  prompt := (last? prompt? options).map .text
  spawner := (last? spawner? options).map .text
  level := (last? level? options).map fun given =>
    .text (Text.upper given)
  verbose := options.any isVerbose

/- To keep options one by one is to select the last of each. -/
theorem foldl_kept_eq
    (options : List SpelledOption) :
    options.foldl kept {} = selected options := by
  have hLine := foldl_kept_line options {}
  have hPrompt :=
    foldl_kept prompt? Selection.prompt id
      (fun selection spelled => by cases spelled <;> rfl)
      options {}
  have hSpawner :=
    foldl_kept spawner? Selection.spawner id
      (fun selection spelled => by cases spelled <;> rfl)
      options {}
  have hLevel :=
    foldl_kept level? Selection.level Text.upper
      (fun selection spelled => by cases spelled <;> rfl)
      options {}
  have hVerbose := foldl_kept_verbose options {}
  rw [Option.or_none] at hPrompt hSpawner hLevel
  rw [Bool.or_false] at hVerbose
  unfold selected
  cases hKept : options.foldl kept {} with
  | mk line prompt spawner level verbose =>
      rw [hKept] at hLine hPrompt hSpawner hLevel hVerbose
      simp only at hLine hPrompt hSpawner hLevel hVerbose
      rw [hLine, hPrompt, hSpawner, hLevel, hVerbose]
      rfl

/- What it overrides, in the same words. -/
theorem selected_overrides
    (options : List SpelledOption) :
    (selected options).overrides =
      ⟨last? prompt? options, last? spawner? options,
        if options.any isVerbose then
          some Level.debug.name
        else
          (last? level? options).map Text.upper⟩ := by
  have hText (given? : Option Text) :
      (given?.map Given.text).bind Given.text? = given? := by
    cases given? with
    | none => rfl
    | some given => rfl
  have hUpper (given? : Option Text) :
      (given?.map fun given =>
          Given.text (Text.upper given)).bind Given.text? =
        given?.map Text.upper := by
    cases given? with
    | none => rfl
    | some given => rfl
  unfold selected Selection.overrides
  rw [hText, hText, hUpper]

/- Every option that it has brings a text. -/
theorem selected_brings
    (options : List SpelledOption) :
    (selected options).prompt ≠ some .nothing ∧
      (selected options).spawner ≠ some .nothing ∧
      (selected options).lacksLevel = false := by
  unfold selected Selection.lacksLevel
  refine ⟨?_, ?_, ?_⟩
  · simp
  · simp
  · simp

end SpelledOption

end LineShell
