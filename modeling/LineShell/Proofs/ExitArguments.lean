import Mathlib.Data.Nat.Digits.Defs
import LineShell.Proofs.Leaving
import LineShell.Proofs.Session

/-
  Which arguments are taken as exit statuses.

  A numeral has the value of its digits in base ten, leading
  zeros or not.  The numerals of up to 255 are taken as
  statuses and all else is refused, but for the numerals beyond
  the digit limit, which fail the command.

  Main declarations:
    * `Text.numeralValue_eq_ofDigits`
    * `ExitStatus.Spells`
    * `ExitStatus.parse_eq_ok_iff_spells`
    * `Shell.TakesStatus`
    * `Shell.takesStatus_iff`
-/

------------------------------------------------------------
-- Numerals
------------------------------------------------------------

namespace LineShell

namespace Text

theorem isNumeral_iff
    (t : Text) :
    isNumeral t = true ↔
      t ≠ [] ∧ ∀ c ∈ t, '0' ≤ c ∧ c ≤ '9' := by
  have hDigit (c : Char) :
      c.isDigit = true ↔ '0' ≤ c ∧ c ≤ '9' := by
    unfold Char.isDigit
    rw [Bool.and_eq_true, decide_eq_true_iff, decide_eq_true_iff]
    rfl
  unfold isNumeral
  rw [Bool.and_eq_true, List.all_eq_true]
  simp only [hDigit, Bool.not_eq_true', List.isEmpty_eq_false_iff]

/- A numeral is read in base ten, its last digit first. -/
theorem numeralValue_eq_ofDigits
    (t : Text) :
    numeralValue t = Nat.ofDigits 10 (t.reverse.map digitValue) := by
  rw [Nat.ofDigits_eq_foldr, List.foldr_map, List.foldr_reverse]
  unfold numeralValue
  congr 1
  funext n c
  simp [Nat.add_comm]

/- Leading zeros do not count. -/
theorem numeralValue_zeros
    (zeros : Nat)
    (t : Text) :
    numeralValue (List.replicate zeros '0' ++ t) =
      numeralValue t := by
  have hZero : digitValue '0' = 0 := rfl
  rw [numeralValue_eq_ofDigits, numeralValue_eq_ofDigits,
    List.reverse_append, List.reverse_replicate, List.map_append,
    List.map_replicate, hZero, Nat.ofDigits_append_replicate_zero]

end Text

end LineShell

------------------------------------------------------------
-- Statuses
------------------------------------------------------------

namespace LineShell

namespace ExitStatus

/-
  The argument is a decimal numeral of the status: at least one
  ASCII digit, nothing else, and a value of up to 255.
-/
structure Spells
    (argument : Text)
    (code : Nat) : Prop where
  nonempty : argument ≠ []
  digits : ∀ c ∈ argument, '0' ≤ c ∧ c ≤ '9'
  value :
    Nat.ofDigits 10
        (argument.reverse.map fun c => c.toNat - '0'.toNat) =
      code
  small : code ≤ 255

/- A row of ASCII digits that is longer than the limit. -/
structure TooLong
    (argument : Text) : Prop where
  digits : ∀ c ∈ argument, '0' ≤ c ∧ c ≤ '9'
  long : digitLimit < argument.length

variable {name argument : Text}
variable {code : Nat}

theorem spells_iff :
    Spells argument code ↔
      Text.isNumeral argument = true ∧
        Text.numeralValue argument ≤ largest ∧
        Text.numeralValue argument = code := by
  rw [Text.isNumeral_iff, Text.numeralValue_eq_ofDigits]
  constructor
  · intro hSpells
    refine ⟨⟨hSpells.nonempty, hSpells.digits⟩, ?_, hSpells.value⟩
    exact hSpells.value.trans_le hSpells.small
  · rintro ⟨⟨hNonempty, hDigits⟩, hSmall, hValue⟩
    exact ⟨hNonempty, hDigits, hValue, hValue ▸ hSmall⟩

/- With leading zeros it is the same status. -/
theorem Spells.zeros
    (hSpells : Spells argument code)
    (zeros : Nat) :
    Spells (List.replicate zeros '0' ++ argument) code := by
  have hValue := (spells_iff.1 hSpells).2
  rw [spells_iff, Text.isNumeral_iff, Text.numeralValue_zeros]
  refine ⟨⟨?_, ?_⟩, hValue⟩
  · intro hNil
    exact hSpells.nonempty (List.append_eq_nil_iff.1 hNil).2
  · intro c hMem
    rcases List.mem_append.1 hMem with hZero | hArgument
    · rw [List.eq_of_mem_replicate hZero]
      decide
    · exact hSpells.digits c hArgument

theorem tooLong_iff :
    TooLong argument ↔
      Text.isNumeral argument = true ∧
        digitLimit < argument.length := by
  rw [Text.isNumeral_iff]
  constructor
  · intro hLong
    refine ⟨⟨?_, hLong.digits⟩, hLong.long⟩
    exact List.length_pos_iff.1
      (Nat.zero_lt_of_lt hLong.long)
  · rintro ⟨⟨-, hDigits⟩, hLong⟩
    exact ⟨hDigits, hLong⟩

/- Only its length makes it too long. -/
theorem Spells.tooLong_zeros_iff
    (hSpells : Spells argument code)
    (zeros : Nat) :
    TooLong (List.replicate zeros '0' ++ argument) ↔
      digitLimit < zeros + argument.length := by
  have hLength :
      (List.replicate zeros '0' ++ argument).length =
        zeros + argument.length := by
    rw [List.length_append, List.length_replicate]
  constructor
  · intro hLong
    exact hLength ▸ hLong.long
  · intro hLong
    exact ⟨(hSpells.zeros zeros).digits, hLength ▸ hLong⟩

/- Up to the limit, what spells a status is read as it. -/
theorem parse_eq_ok_iff_spells
    (hShort : ¬ TooLong argument) :
    parse name argument = .ok code ↔ Spells argument code := by
  rw [parse_eq_ok_iff, spells_iff]
  rw [tooLong_iff] at hShort
  constructor
  · rintro ⟨hNumeral, -, hSmall, hValue⟩
    exact ⟨hNumeral, hSmall, hValue⟩
  · rintro ⟨hNumeral, hSmall, hValue⟩
    refine ⟨hNumeral, ?_, hSmall, hValue⟩
    exact Nat.not_lt.1 fun hLong => hShort ⟨hNumeral, hLong⟩

/- All else is not numeric. -/
theorem parse_of_not_spells
    (name : Text)
    (hShort : ¬ TooLong argument)
    (hOther : ∀ code, ¬ Spells argument code) :
    parse name argument = .error (notNumeric name argument) := by
  cases hParse : parse name argument with
  | ok code =>
      exact absurd ((parse_eq_ok_iff_spells hShort).1 hParse)
        (hOther code)
  | error fault =>
      rw [tooLong_iff] at hShort
      unfold parse at hParse
      split at hParse
      · exact hParse.symm
      · next hNumeral =>
          split at hParse
          · next hLong =>
              rw [Bool.not_eq_true, Bool.not_eq_false']
                at hNumeral
              exact absurd ⟨hNumeral, hLong⟩ hShort
          · split at hParse
            · exact hParse.symm
            · cases hParse

/- Beyond the limit, nothing is read. -/
theorem parse_of_tooLong
    (name : Text)
    (hLong : TooLong argument) :
    parse name argument = .error (tooLong argument.length) := by
  rcases tooLong_iff.1 hLong with ⟨hNumeral, hLength⟩
  simp [parse, hNumeral, hLength]

end ExitStatus

end LineShell

------------------------------------------------------------
-- Leaving with an Argument
------------------------------------------------------------

namespace LineShell

/-
  The run answers with the status and writes exactly the text,
  on standard error.
-/
structure Outcome.Complains
    {σ : Type}
    (done : Outcome σ Int)
    (text : Text)
    (status : Int) : Prop where
  result : done.result = .ok status
  err : done.trace.written .err = text
  out : done.trace.written .out = []

namespace Builtin

variable {φ δ : Type}
variable {w : World φ δ}
variable {argument : Text}

/- What is said about an argument that is no status. -/
def notNumeric
    (name argument : Text) : Text :=
  name ++ ": " ++ argument ++ ": numeric argument required\n"

/- An argument that is no status is refused. -/
theorem exitWith_of_not_spells
    (name : Text)
    (rest : List Text)
    (hErr : w.streams.Takes .err .write)
    (hShort : ¬ ExitStatus.TooLong argument)
    (hOther : ∀ code, ¬ ExitStatus.Spells argument code) :
    exitWith name (argument :: rest) w =
      ⟨.ok 2, w, [.wrote .err (notNumeric name argument)]⟩ := by
  have hParse :=
    ExitStatus.parse_of_not_spells name hShort hOther
  have hText :
      (ExitStatus.notNumeric name argument).message ++ "\n" =
        notNumeric name argument := by
    unfold notNumeric
    exact (List.append_assoc _ _ _).trans
      (List.append_assoc _ _ _)
  unfold ExitStatus.notNumeric at hParse hText
  simp only [exitWith, hParse, Report.bareError, hText]
  exact World.say_accepted hErr _ 2

/- One beyond the limit fails the command. -/
theorem exitWith_of_tooLong
    (name : Text)
    (rest : List Text)
    (w : World φ δ)
    (hLong : ExitStatus.TooLong argument) :
    exitWith name (argument :: rest) w =
      ⟨.error (ExitStatus.tooLong argument.length), w, []⟩ := by
  have hParse := ExitStatus.parse_of_tooLong name hLong
  unfold ExitStatus.tooLong at hParse ⊢
  simp only [exitWith, hParse, Action.raise_apply]

/- Up to the limit, statuses are what the shell exits with. -/
theorem exitWith_leaves_iff
    (name : Text)
    (rest : List Text)
    (hErr : w.streams.Takes .err .write)
    (hShort : ¬ ExitStatus.TooLong argument)
    (code : Int) :
    let done := exitWith name (argument :: rest) w
    (done.result = .error (.exit code) ∧
        ∀ channel, done.trace.written channel = []) ↔
      ∃ n : Nat, code = n ∧ ExitStatus.Spells argument n := by
  intro done
  by_cases hSpells : ∃ n, ExitStatus.Spells argument n
  · rcases hSpells with ⟨n, hSpells⟩
    have hDone : done = ⟨.error (.exit n), w, []⟩ :=
      exitWith_of_code
        ((ExitStatus.parse_eq_ok_iff_spells hShort).2 hSpells)
        rest
    rw [hDone]
    constructor
    · rintro ⟨hResult, -⟩
      cases hResult
      exact ⟨n, rfl, hSpells⟩
    · rintro ⟨m, rfl, hOther⟩
      rw [← hSpells.value.symm.trans hOther.value]
      exact ⟨rfl, fun channel => rfl⟩
  · have hOther (n : Nat) : ¬ ExitStatus.Spells argument n :=
      fun hThis => hSpells ⟨n, hThis⟩
    have hDone : done = _ :=
      exitWith_of_not_spells name rest hErr hShort hOther
    rw [hDone]
    constructor
    · rintro ⟨hResult, -⟩
      cases hResult
    · rintro ⟨n, -, hThis⟩
      exact absurd hThis (hOther n)

end Builtin

end LineShell

------------------------------------------------------------
-- Lines That Leave with an Argument
------------------------------------------------------------

namespace LineShell

namespace Shell

variable {φ δ : Type}
variable {M : Machine φ δ}
variable {w : World φ δ}
variable {argument : Text}

/-
  The argument is taken as a status exactly if it spells one.
  Otherwise it is refused with status 2, and a line that leaves
  with it does not end the shell.
-/
structure TakesStatus
    (M : Machine φ δ)
    (w : World φ δ)
    (argument : Text) : Prop where
  leaves :
    ∀ name rest (code : Int),
      let done := Builtin.run M .exit name (argument :: rest) w
      (done.result = .error (.exit code) ∧
          ∀ channel, done.trace.written channel = []) ↔
        ∃ n : Nat, code = n ∧ ExitStatus.Spells argument n
  refuses :
    (∀ n, ¬ ExitStatus.Spells argument n) → ∀ name rest,
      (Builtin.run M .exit name (argument :: rest) w).Complains
        (name ++ ": " ++ argument ++
          ": numeric argument required\n")
        2
  goesOn :
    (∀ n, ¬ ExitStatus.Spells argument n) →
      ∀ line name rest,
        splitWords (stripTerminator line) =
            name :: argument :: rest →
          w.builtins.builtin? name = some .exit →
            (execute M line w).result = .ok 2 ∧
              (execute M line w).state =
                { w with lastStatus := 2 } ∧
              (obey M line w).result = .ok none

/- Up to the digit limit, arguments are taken as they spell. -/
theorem takesStatus_of_short
    (M : Machine φ δ)
    (hErr : w.streams.Takes .err .write)
    (hFlushes : w.streams.Flushes)
    (hShort : ¬ ExitStatus.TooLong argument) :
    TakesStatus M w argument where
  leaves := fun name rest code =>
    Builtin.exitWith_leaves_iff name rest hErr hShort code
  refuses := by
    intro hOther name rest
    have hDone :
        Builtin.run M .exit name (argument :: rest) w = _ :=
      Builtin.exitWith_of_not_spells name rest hErr hShort hOther
    rw [hDone]
    exact ⟨rfl, List.append_nil _, rfl⟩
  goesOn := by
    intro hOther line name rest hWords hBuiltin
    have hParse :
        CommandLine.parse? line =
          some ⟨name, argument :: rest⟩ :=
      (CommandLine.parse?_eq_some_iff line _).2 hWords
    have hDone :
        Builtin.run M .exit name (argument :: rest) w = _ :=
      Builtin.exitWith_of_not_spells name rest hErr hShort hOther
    have hLine := execute_of_builtin_ok hParse hBuiltin hDone hFlushes
    have hResult : (execute M line w).result = .ok 2 := by
      rw [hLine]
    refine ⟨hResult, ?_, ?_⟩
    · rw [hLine]
    · rw [obey_of_ok hResult]

/- Beyond it, they are neither statuses nor refused. -/
theorem not_takesStatus_of_tooLong
    (M : Machine φ δ)
    (w : World φ δ)
    (hLong : ExitStatus.TooLong argument) :
    ¬ TakesStatus M w argument := by
  intro hTakes
  have hDone : Builtin.run M .exit "exit" [argument] w = _ :=
    Builtin.exitWith_of_tooLong "exit" [] w hLong
  by_cases hSpells : ∃ n, ExitStatus.Spells argument n
  · rcases hSpells with ⟨n, hSpells⟩
    have hLeaves :=
      (hTakes.leaves "exit" [] n).2 ⟨n, rfl, hSpells⟩
    rw [hDone] at hLeaves
    cases hLeaves.1
  · have hOther (n : Nat) : ¬ ExitStatus.Spells argument n :=
      fun hThis => hSpells ⟨n, hThis⟩
    have hRefused := (hTakes.refuses hOther "exit" []).result
    rw [hDone] at hRefused
    cases hRefused

/- A line that leaves with a longer one fails with status 1. -/
theorem execute_of_tooLong
    (M : Machine φ δ)
    (hErr : w.streams.Takes .err .write)
    (hFlushes : w.streams.Flushes)
    (hLong : ExitStatus.TooLong argument)
    {line name : Text}
    {rest : List Text}
    (hWords :
      splitWords (stripTerminator line) =
        name :: argument :: rest)
    (hBuiltin : w.builtins.builtin? name = some .exit) :
    (execute M line w).TellsFault name
      (ExitStatus.tooLong argument.length) := by
  have hParse :
      CommandLine.parse? line = some ⟨name, argument :: rest⟩ :=
    (CommandLine.parse?_eq_some_iff line _).2 hWords
  have hFound :
      (invocation M ⟨name, argument :: rest⟩ w).result = .ok _ :=
    congrArg Outcome.result (invocation_of_builtin hBuiltin)
  have hDone :=
    Builtin.exitWith_of_tooLong name rest w hLong
  exact execute_tellsFault hParse hFound rfl hErr hFlushes
    (congrArg Outcome.result hDone) rfl
    (congrArg (Trace.written .err ·.trace) hDone)

/-
  An argument is taken as it spells exactly up to the digit
  limit.  Beyond it the command fails, whatever the value.
-/
theorem takesStatus_iff
    (M : Machine φ δ)
    (w : World φ δ)
    (argument : Text)
    (hErr : w.streams.Takes .err .write)
    (hFlushes : w.streams.Flushes) :
    (TakesStatus M w argument ↔ ¬ ExitStatus.TooLong argument) ∧
      (ExitStatus.TooLong argument →
        (∀ name rest,
          Builtin.run M .exit name (argument :: rest) w =
            ⟨.error (ExitStatus.tooLong argument.length), w,
              []⟩) ∧
        ∀ line name rest,
          splitWords (stripTerminator line) =
              name :: argument :: rest →
            w.builtins.builtin? name = some .exit →
              (execute M line w).TellsFault name
                (ExitStatus.tooLong argument.length)) := by
  refine ⟨⟨?_, takesStatus_of_short M hErr hFlushes⟩, ?_⟩
  · intro hTakes hLong
    exact not_takesStatus_of_tooLong M w hLong hTakes
  · intro hLong
    refine ⟨?_, ?_⟩
    · intro name rest
      exact Builtin.exitWith_of_tooLong name rest w hLong
    · intro line name rest hWords hBuiltin
      exact execute_of_tooLong M hErr hFlushes hLong hWords
        hBuiltin

/- At the limit, a seven after zeros is still the status 7. -/
theorem takesStatus_iff_leading_zeros :
    let argument := List.replicate 4299 '0' ++ ['7']
    let w : World LexicalTree (Except Fault Int) :=
      { environment := []
        files := LexicalTree.build "/" [] []
        device := .ok 0 }
    let done :=
      Builtin.run LexicalTree.machine .exit "exit"
        [argument, "8"] w
    w.streams.Takes .err .write ∧
      w.streams.Flushes ∧
      ¬ ExitStatus.TooLong argument ∧
      TakesStatus LexicalTree.machine w argument ∧
      done.result = .error (.exit 7) ∧
      ∀ channel, done.trace.written channel = [] := by
  intro argument w done
  have hSeven : ExitStatus.Spells ['7'] 7 :=
    ExitStatus.spells_iff.2 (by decide)
  have hShort : ¬ ExitStatus.TooLong argument := by
    intro hLong
    have hLimit := (hSeven.tooLong_zeros_iff 4299).1 hLong
    exact absurd hLimit (by decide)
  have hTakes :=
    (takesStatus_iff LexicalTree.machine w argument
      (fun _ => rfl) (fun _ _ => rfl)).1.2 hShort
  have hLeaves :=
    (hTakes.leaves "exit" ["8"] 7).2 ⟨7, rfl, hSeven.zeros 4299⟩
  exact ⟨fun _ => rfl, fun _ _ => rfl, hShort, hTakes, hLeaves⟩

/- One more zero, and the command fails instead. -/
theorem takesStatus_fails_beyond_limit :
    let argument := List.replicate 4300 '0' ++ ['7']
    let w : World LexicalTree (Except Fault Int) :=
      { environment := []
        files := LexicalTree.build "/" [] []
        device := .ok 0 }
    let done :=
      Builtin.run LexicalTree.machine .exit "exit" [argument] w
    w.streams.Takes .err .write ∧
      w.streams.Flushes ∧
      ExitStatus.Spells argument 7 ∧
      done.result =
        .error (ExitStatus.tooLong argument.length) ∧
      ¬ TakesStatus LexicalTree.machine w argument := by
  intro argument w done
  have hSeven : ExitStatus.Spells ['7'] 7 :=
    ExitStatus.spells_iff.2 (by decide)
  have hSpells : ExitStatus.Spells argument 7 := hSeven.zeros 4300
  have hLong : ExitStatus.TooLong argument :=
    (hSeven.tooLong_zeros_iff 4300).2 (by decide)
  have hFails :=
    not_takesStatus_of_tooLong LexicalTree.machine w hLong
  -- The zeros must not be unfolded from here on.
  clear_value argument
  have hDone : done = _ :=
    Builtin.exitWith_of_tooLong "exit" [] w hLong
  exact ⟨fun _ => rfl, fun _ _ => rfl, hSpells,
    congrArg Outcome.result hDone, hFails⟩

end Shell

end LineShell
