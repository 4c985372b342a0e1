import LineShell.Proofs.Leaving
import LineShell.Proofs.Session

/-
  What can end a session.

  A session goes on until it reaches a line that makes the
  shell end, or until its input is used up.

  Main declarations:
    * `Shell.Reaches`
    * `Shell.executeLines_fault_iff`
    * `Shell.Ends`
    * `Shell.run_ends`
    * `Shell.run_ends_by_leaving`
-/

------------------------------------------------------------
-- Reached Lines
------------------------------------------------------------

namespace LineShell

namespace Shell

variable {φ δ : Type}
variable {M : Machine φ δ}
variable {w v : World φ δ}
variable {lines : List Text}
variable {line : Text}

/-
  From a world, the execution of some lines reaches a line in
  another world, when all lines before it return.
-/
inductive Reaches
    (M : Machine φ δ) :
    World φ δ → List Text → World φ δ → Text → Prop
  | first
      {w : World φ δ}
      {line : Text}
      {rest : List Text} :
      Reaches M w (line :: rest) w line
  | later
      {w v : World φ δ}
      {line other : Text}
      {rest : List Text}
      {status : Int}
      (hLine : (execute M line w).result = .ok status)
      (hRest : Reaches M (execute M line w).state rest v other) :
      Reaches M w (line :: rest) v other

/- A fault is let out by a line that is reached. -/
theorem reaches_of_fault
    {fault : Fault}
    (hFault : (executeLines M lines w).fault = some fault) :
    ∃ v line, Reaches M w lines v line ∧
      (execute M line v).result = .error fault := by
  induction lines generalizing w with
  | nil => cases hFault
  | cons line rest ih =>
      cases hLine : (execute M line w).result with
      | ok status =>
          rw [executeLines_of_ok hLine] at hFault
          rcases ih hFault with ⟨v, other, hReaches, hOther⟩
          exact ⟨v, other, .later hLine hReaches, hOther⟩
      | error other =>
          rw [executeLines_of_error hLine] at hFault
          cases hFault
          exact ⟨w, line, .first, hLine⟩

/- The fault of a line that is reached is let out. -/
theorem Reaches.fault
    {fault : Fault}
    (hReaches : Reaches M w lines v line)
    (hLine : (execute M line v).result = .error fault) :
    (executeLines M lines w).fault = some fault := by
  induction hReaches with
  | first => rw [executeLines_of_error hLine]
  | later hFirst hRest ih =>
      rw [executeLines_of_ok hFirst]
      exact ih hLine

theorem Reaches.ordinary
    {fits : φ → δ → Prop}
    (hMachine : M.FailsAsHost fits)
    (hReaches : Reaches M w lines v line)
    (hOrdinary : w.Ordinary fits) :
    v.Ordinary fits := by
  induction hReaches with
  | first => exact hOrdinary
  | later hLine hRest ih =>
      exact ih (hOrdinary.execute hMachine _)

/-
  Lines let out a fault exactly if they reach a line whose
  words make the shell end with it.
-/
theorem executeLines_fault_iff
    {fits : φ → δ → Prop}
    (hMachine : M.FailsAsHost fits)
    (hOrdinary : w.Ordinary fits)
    (lines : List Text)
    (fault : Fault) :
    (executeLines M lines w).fault = some fault ↔
      ∃ v line, Reaches M w lines v line ∧
        Leaves M.files v.files
          (splitWords (stripTerminator line)) fault := by
  constructor
  · intro hFault
    rcases reaches_of_fault hFault with
      ⟨v, line, hReaches, hLine⟩
    have hThere := hReaches.ordinary hMachine hOrdinary
    refine ⟨v, line, hReaches, ?_⟩
    exact (execute_error_iff hMachine hThere line fault).1 hLine
  · rintro ⟨v, line, hReaches, hLeaves⟩
    have hThere := hReaches.ordinary hMachine hOrdinary
    apply hReaches.fault
    exact (execute_error_iff hMachine hThere line fault).2 hLeaves

end Shell

end LineShell

------------------------------------------------------------
-- Sessions
------------------------------------------------------------

namespace LineShell

namespace Shell

variable {φ δ : Type}
variable {fits : φ → δ → Prop}
variable {M : Machine φ δ}
variable {w : World φ δ}
variable {lines : List Text}

/-
  How a session over some lines can end: the lines are used
  up, or it reaches a line that asks to exit, with or without a
  status, or one that asks for a working directory which the
  system cannot tell.
-/
inductive Ends
    (M : Machine φ δ)
    (w : World φ δ)
    (lines : List Text) : Except Fault Int → Prop
  | usedUp
      (hFault : (executeLines M lines w).fault = none) :
      Ends M w lines (.ok 0)
  | exit
      {v : World φ δ}
      {line : Text}
      (hReaches : Reaches M w lines v line)
      (hWords :
        splitWords (stripTerminator line) = ["exit".toList]) :
      Ends M w lines (.ok 0)
  | exitWith
      {v : World φ δ}
      {line argument : Text}
      {rest : List Text}
      {code : Nat}
      (hReaches : Reaches M w lines v line)
      (hWords :
        splitWords (stripTerminator line) =
          "exit".toList :: argument :: rest)
      (hCode : ExitStatus.parse "exit" argument = .ok code) :
      Ends M w lines (.ok code)
  | lost
      {v : World φ δ}
      {line : Text}
      {rest : List Text}
      {fault : Fault}
      (hReaches : Reaches M w lines v line)
      (hWords :
        splitWords (stripTerminator line) = "pwd".toList :: rest)
      (hLost : M.files.workingDirectory v.files = .error fault)
      (hSystem : fault.isSystem = true) :
      Ends M w lines
        (.error
          (.fatal
            ("pwd: cannot get current directory: " ++
              fault.message)
            1))

/- The result is a status of 8 bits, or a fatal fault. -/
theorem Ends.result
    {result : Except Fault Int}
    (hEnds : Ends M w lines result) :
    (∃ code : Nat, code ≤ 255 ∧ result = .ok code) ∨
      ∃ text, result = .error (.fatal text 1) := by
  cases hEnds with
  | usedUp hFault => exact Or.inl ⟨0, by decide, rfl⟩
  | exit hReaches hWords => exact Or.inl ⟨0, by decide, rfl⟩
  | exitWith hReaches hWords hCode =>
      rcases ExitStatus.parse_eq_ok_iff.1 hCode with
        ⟨-, -, hSmall, hValue⟩
      rw [hValue] at hSmall
      exact Or.inl ⟨_, hSmall, rfl⟩
  | lost hReaches hWords hLost hSystem =>
      exact Or.inr ⟨_, rfl⟩

/- A status other than 0 is asked for. -/
theorem Ends.numeral
    {status : Int}
    (hEnds : Ends M w lines (.ok status))
    (hStatus : status ≠ 0) :
    ∃ v line argument rest,
      Reaches M w lines v line ∧
        splitWords (stripTerminator line) =
          "exit".toList :: argument :: rest ∧
        Text.isNumeral argument = true ∧
        status = Text.numeralValue argument := by
  cases hEnds with
  | usedUp hFault => exact absurd rfl hStatus
  | exit hReaches hWords => exact absurd rfl hStatus
  | exitWith hReaches hWords hCode =>
      rcases ExitStatus.parse_eq_ok_iff.1 hCode with
        ⟨hNumeral, -, -, hValue⟩
      exact ⟨_, _, _, _, hReaches, hWords, hNumeral,
        congrArg Int.ofNat hValue.symm⟩

/- A fault is let out where the system has lost the directory. -/
theorem Ends.directory
    {fault : Fault}
    (hEnds : Ends M w lines (.error fault)) :
    ∃ v line rest errno text path,
      Reaches M w lines v line ∧
        splitWords (stripTerminator line) =
          "pwd".toList :: rest ∧
        M.files.workingDirectory v.files =
          .error (.os errno text path) := by
  cases hEnds with
  | @lost v line rest other hReaches hWords hLost hSystem =>
      cases other with
      | os errno text path =>
          exact ⟨v, line, rest, errno, text, path, hReaches,
            hWords, hLost⟩
      | _ => cases hSystem

variable {prompt : Text}
variable {c : Console φ δ}

theorem run_ends
    (hMachine : M.FailsAsHost fits)
    (hOrdinary : c.world.Ordinary fits) :
    Ends M c.world (Text.inputLines c.input)
      (run M prompt c).result := by
  let lines := Text.inputLines c.input
  rw [run_eq_outcome M prompt hOrdinary.out]
  change Ends M c.world lines
    (executeLines M lines c.world).result
  unfold Progress.result
  cases hFault : (executeLines M lines c.world).fault with
  | none => exact .usedUp hFault
  | some fault =>
      rcases (executeLines_fault_iff hMachine hOrdinary lines
          fault).1 hFault with
        ⟨v, line, hReaches, hLeaves⟩
      generalize hWords : splitWords (stripTerminator line) =
        words at hLeaves
      cases hLeaves with
      | exit => exact .exit hReaches hWords
      | exitWith hCode => exact .exitWith hReaches hWords hCode
      | lost hLost hSystem =>
          exact .lost hReaches hWords hLost hSystem

/- Where no line that is reached leaves, the input is used up. -/
theorem run_of_no_leaving
    (hMachine : M.FailsAsHost fits)
    (hOrdinary : c.world.Ordinary fits)
    (hStays :
      ∀ v line,
        Reaches M c.world (Text.inputLines c.input) v line →
        ∀ fault,
          ¬ Leaves M.files v.files
            (splitWords (stripTerminator line)) fault) :
    (run M prompt c).result = .ok 0 ∧
      (run M prompt c).state.input = [] ∧
      (run M prompt c).trace.awaits =
        (Text.inputLines c.input).length + 1 := by
  let lines := Text.inputLines c.input
  let progress := executeLines M lines c.world
  have hFault : progress.fault = none := by
    cases hFault : progress.fault with
    | none => rfl
    | some fault =>
        rcases (executeLines_fault_iff hMachine hOrdinary lines
            fault).1 hFault with
          ⟨v, line, hReaches, hLeaves⟩
        exact absurd hLeaves (hStays v line hReaches fault)
  have hAll := executeLines_complete M lines c.world hFault
  have hUnread := executeLines_unread M lines c.world
  rw [hAll, List.drop_length] at hUnread
  rw [run_eq_outcome M prompt hOrdinary.out]
  refine ⟨?_, ?_, ?_⟩
  · exact (Progress.result_eq_zero_iff progress).2
      (Or.inl hFault)
  · exact congrArg List.flatten hUnread
  · have hPrompts : progress.prompts = lines.length + 1 := by
      rw [Progress.prompts, hFault]
      exact congrArg (· + 1) hAll
    rw [← hPrompts]
    exact Progress.outcome_awaits prompt progress
      (executeLines_awaits M lines c.world)

/-
  What can end a session.  Its result is a status up to 255 or
  a fatal fault with status 1.  A status other than 0 is asked
  for by a line of `exit` that is reached, as the value of its
  second word, and a fatal fault is that of a line of `pwd` in
  a world whose working directory the system cannot tell.  Any
  other line that is reached returns, and if there are only
  such lines, the session ends with its input, with status 0.
-/
theorem run_ends_by_leaving
    (M : Machine φ δ)
    (prompt : Text)
    (c : Console φ δ)
    (hMachine : M.FailsAsHost fits)
    (hOrdinary : c.world.Ordinary fits) :
    let lines := Text.inputLines c.input
    let done := run M prompt c
    ((∃ code : Nat, code ≤ 255 ∧ done.result = .ok code) ∨
        ∃ text, done.result = .error (.fatal text 1)) ∧
      (∀ status, done.result = .ok status → status ≠ 0 →
        ∃ v line argument rest,
          Reaches M c.world lines v line ∧
            splitWords (stripTerminator line) =
              "exit".toList :: argument :: rest ∧
            Text.isNumeral argument = true ∧
            status = Text.numeralValue argument) ∧
      (∀ fault, done.result = .error fault →
        ∃ v line rest errno text path,
          Reaches M c.world lines v line ∧
            splitWords (stripTerminator line) =
              "pwd".toList :: rest ∧
            M.files.workingDirectory v.files =
              .error (.os errno text path)) ∧
      (∀ v line, Reaches M c.world lines v line →
        (∀ fault,
          ¬ Leaves M.files v.files
            (splitWords (stripTerminator line)) fault) →
        ∃ status, (execute M line v).result = .ok status) ∧
      ((∀ v line, Reaches M c.world lines v line → ∀ fault,
          ¬ Leaves M.files v.files
            (splitWords (stripTerminator line)) fault) →
        done.result = .ok 0 ∧
          done.state.input = [] ∧
          done.trace.awaits = lines.length + 1) := by
  intro lines done
  have hEnds : Ends M c.world lines done.result :=
    run_ends hMachine hOrdinary
  refine ⟨hEnds.result, ?_, ?_, ?_, ?_⟩
  · intro status hStatus hOther
    rw [hStatus] at hEnds
    exact hEnds.numeral hOther
  · intro fault hFault
    rw [hFault] at hEnds
    exact hEnds.directory
  · intro v line hReaches hStays
    have hThere := hReaches.ordinary hMachine hOrdinary
    cases hLine : (execute M line v).result with
    | ok status => exact ⟨status, rfl⟩
    | error fault =>
        exact absurd
          ((execute_error_iff hMachine hThere line fault).1 hLine)
          (hStays fault)
  · exact run_of_no_leaving hMachine hOrdinary

/-
  An unknown name, a refused `cd`, a number that is no status,
  and a child with a NUL in its arguments do not end a session.
  The status that ends it is written with a leading zero.
-/
theorem run_ends_by_leaving_numeral :
    let tree : LexicalTree :=
      { LexicalTree.build "/" [] [("/bin/show", 0o100755)] with
        directoryFault := some Errno.noEntry.fault }
    let c : Console LexicalTree (Except Fault Int) :=
      ⟨{ environment := [("PATH", "/bin")]
         files := tree
         device := .error embeddedNul },
        "nope\ncd /gone\nexit 256\nshow \x00\nexit 042\nhello"⟩
    let done := run LexicalTree.machine "$ " c
    LexicalTree.machine.FailsAsHost LexicalTree.FailsAsHost ∧
      c.world.Ordinary LexicalTree.FailsAsHost ∧
      done.result = .ok 42 ∧
      done.state.input = "hello".toList ∧
      ∃ v line argument rest,
        Reaches LexicalTree.machine c.world
            (Text.inputLines c.input) v line ∧
          splitWords (stripTerminator line) =
            "exit".toList :: argument :: rest ∧
          Text.isNumeral argument = true ∧
          (42 : Int) = Text.numeralValue argument := by
  intro tree c done
  have hMachine := LexicalTree.machine_failsAsHost
  have hTree : LexicalTree.FailsAsHost tree
      (.error embeddedNul) := by
    refine ⟨?_, ?_, ?_⟩
    · intro key fault hFind
      cases hFind
    · intro fault hFault
      cases hFault
      rfl
    · intro fault hFault
      cases hFault
      exact Or.inl rfl
  have hOrdinary : c.world.Ordinary LexicalTree.FailsAsHost :=
    ⟨rfl, fun _ _ => rfl, fun _ _ => rfl, hTree⟩
  have hDone : done = _ :=
    run_eq_outcome LexicalTree.machine "$ " hOrdinary.out
  have hStatus : done.result.toOption = some 42 := by
    rw [hDone]
    decide +kernel
  have hResult : done.result = .ok 42 := by
    cases hResult : done.result with
    | ok status =>
        rw [hResult] at hStatus
        exact congrArg Except.ok (Option.some.inj hStatus)
    | error fault =>
        rw [hResult] at hStatus
        cases hStatus
  rcases run_ends_by_leaving LexicalTree.machine "$ " c hMachine
      hOrdinary with
    ⟨-, hNumeral, -, -, -⟩
  refine ⟨hMachine, hOrdinary, hResult, ?_, ?_⟩
  · rw [hDone]
    decide +kernel
  · exact hNumeral 42 hResult (by decide)

end Shell

end LineShell
