import LineShell.LexicalTree
import LineShell.Proofs.CommandLine
import LineShell.Proofs.Resolution

/-
  Which lines make the shell end.

  On a machine that fails only as a host does, a line lets out
  a fault exactly if it asks to exit with a status, or asks for
  the working directory when the system cannot tell it.  Every
  other line returns.

  Main declarations:
    * `Machine.FailsAsHost`
    * `World.Ordinary`
    * `Shell.Leaves`
    * `Builtin.run_ends_iff`
    * `Shell.execute_error_iff`
-/

------------------------------------------------------------
-- Machines and Worlds
------------------------------------------------------------

namespace LineShell

variable {φ δ : Type}

/-
  In the states that fit, files fail only with faults of a
  host, and so do children, unless they cannot be started.
  What can be done in such a state leads to another one.
-/
structure Machine.FailsAsHost
    (fits : φ → δ → Prop)
    (M : Machine φ δ) : Prop where
  mode :
    ∀ {files device}, fits files device →
      M.files.HostRefuses files
  workingDirectory :
    ∀ {files device fault}, fits files device →
      M.files.workingDirectory files = .error fault →
        fault.isHost = true
  enter :
    ∀ {files device path fault}, fits files device →
      M.files.enter files path = .error fault →
        fault.isHost = true
  entered :
    ∀ {files device path entered}, fits files device →
      M.files.enter files path = .ok entered →
        fits entered device
  launch :
    ∀ {environment files device request fault},
      fits files device →
      (M.launch environment files device request).result =
          .error fault →
        fault.isHost = true ∨
          ∃ path details, fault = .spawn path details
  launched :
    ∀ {environment files device request}, fits files device →
      fits (M.launch environment files device request).files
        (M.launch environment files device request).device

/-
  A world with the six standard builtins and working streams,
  in a state that fits.
-/
structure World.Ordinary
    (fits : φ → δ → Prop)
    (w : World φ δ) : Prop where
  builtins : w.builtins = Registry.standard
  out : w.streams.Works .out
  err : w.streams.Works .err
  fits : fits w.files w.device

theorem World.Ordinary.flushes
    {fits : φ → δ → Prop}
    {w : World φ δ}
    (hOrdinary : w.Ordinary fits) :
    w.streams.Flushes := by
  intro channel
  cases channel with
  | out => exact hOrdinary.out .flush
  | err => exact hOrdinary.err .flush

/- A state that fits is not left. -/
def Effect.fitting
    (fits : φ → δ → Prop) : Effect (World φ δ) :=
  fun before _ after =>
    fits before.files before.device →
      fits after.files after.device

theorem Effect.fitting_line
    {fits : φ → δ → Prop}
    {M : Machine φ δ}
    (hMachine : M.FailsAsHost fits) :
    (fitting fits : Effect (World φ δ)).Line M where
  still := fun _ hFits => hFits
  join := fun hFirst hSecond hFits => hSecond (hFirst hFits)
  wrote := fun _ _ _ hFits => hFits
  flushed := fun _ _ hFits => hFits
  failed := fun _ _ _ hFits => hFits
  logged := fun _ _ hFits => hFits
  probed := fun _ _ hFits => hFits
  enter := by
    intro path w hFits
    unfold World.enterDirectory
    cases hEnter : M.files.enter w.files path with
    | ok files => exact hMachine.entered hFits hEnter
    | error fault => exact hFits
  launch := fun _ _ hFits => hMachine.launched hFits
  remember := fun _ _ hFits => hFits

/- After a line, an ordinary world is still ordinary. -/
theorem World.Ordinary.execute
    {fits : φ → δ → Prop}
    {M : Machine φ δ}
    {w : World φ δ}
    (hMachine : M.FailsAsHost fits)
    (hOrdinary : w.Ordinary fits)
    (line : Text) :
    (Shell.execute M line w).state.Ordinary fits := by
  have hSame := Shell.execute_sameSetting M line w
  have hFits := Shell.execute_respects
    (Effect.fitting_line hMachine) line w
  exact
    { builtins := hSame.builtins.trans hOrdinary.builtins
      out := hSame.streams.works hOrdinary.out
      err := hSame.streams.works hOrdinary.err
      fits := hFits hOrdinary.fits }

namespace LexicalTree

/-
  All arranged failures of a tree, and that of its children,
  are failures of a host.
-/
structure FailsAsHost
    (tree : LexicalTree)
    (ending : Except Fault Int) : Prop where
  faults :
    ∀ key fault, tree.faults.find? key = some fault →
      fault.isHost = true
  directoryFault :
    ∀ fault, tree.directoryFault = some fault →
      fault.isHost = true
  ending :
    ∀ fault, ending = .error fault →
      fault.isHost = true ∨
        ∃ path details, fault = .spawn path details

/- A tree in which no failure is arranged fails as a host. -/
theorem failsAsHost_build
    (directory : Path)
    (dirs : List Path)
    (files : List (Path × FileMode))
    (status : Int) :
    (build directory dirs files).FailsAsHost (.ok status) where
  faults := by
    intro key fault hFind
    cases hFind
  directoryFault := by
    intro fault hFault
    cases hFault
  ending := by
    intro fault hFault
    cases hFault

/- A tree with such failures fails as they do. -/
theorem machine_failsAsHost :
    machine.FailsAsHost FailsAsHost where
  mode := fun hTree => hostRefuses hTree.faults
  workingDirectory := by
    intro tree ending fault hTree hFault
    change tree.workingDirectory = .error fault at hFault
    unfold workingDirectory at hFault
    split at hFault
    · next arranged hArranged =>
        cases hFault
        exact hTree.directoryFault _ hArranged
    · cases hFault
  enter := by
    intro tree ending path fault hTree hFault
    change tree.enter path = .error fault at hFault
    rw [enter_eq] at hFault
    split at hFault
    · next refused hMode =>
        cases hFault
        exact hostRefuses hTree.faults path _ hMode
    · split at hFault
      · cases hFault
      · cases hFault
        rfl
  entered := by
    intro tree ending path entered hTree hEntered
    change tree.enter path = .ok entered at hEntered
    rw [enter_eq] at hEntered
    split at hEntered
    · cases hEntered
    · split at hEntered
      · cases hEntered
        exact { hTree with }
      · cases hEntered
  launch := fun hTree hFault => hTree.ending _ hFault
  launched := fun hTree => hTree

end LexicalTree

end LineShell

------------------------------------------------------------
-- Builtins That Answer
------------------------------------------------------------

namespace LineShell

variable {φ δ : Type}

namespace Builtin

variable {fits : φ → δ → Prop}
variable {M : Machine φ δ}
variable {w : World φ δ}

theorem echoWords_answers
    (hOut : w.streams.Takes .out .write)
    (words : List Text) :
    ∃ status, (echoWords words w).result = .ok status := by
  rw [echoWords_apply hOut]
  exact ⟨0, rfl⟩

/- A change of directory answers, whether it is refused or not. -/
theorem changeDirectoryTo_answers
    (hMachine : M.FailsAsHost fits)
    (hOrdinary : w.Ordinary fits)
    (name : Text)
    (args : List Text) :
    ∃ status,
      (changeDirectoryTo M name args w).result = .ok status := by
  have hAccepts := hOrdinary.out .write
  cases hTarget : target? w.environment args with
  | none =>
      rw [changeDirectoryTo_of_no_target name args hTarget,
        World.say_accepted hAccepts]
      exact ⟨1, rfl⟩
  | some path =>
      rw [changeDirectoryTo_of_target name args hTarget]
      cases hEnter : M.files.enter w.files path with
      | ok files =>
          rw [enter_of_ok name hEnter]
          exact ⟨0, rfl⟩
      | error fault =>
          have hHost := hMachine.enter hOrdinary.fits hEnter
          rw [enter_of_refusal name hEnter hHost]
          unfold Report.directory
          rw [World.say_accepted hAccepts]
          exact ⟨1, rfl⟩

theorem describe_answers
    (hMachine : M.FailsAsHost fits)
    (hOrdinary : w.Ordinary fits)
    (called : Text)
    (args : List Text) :
    ∃ status,
      (run M .describe called args w).result = .ok status := by
  cases args with
  | nil =>
      have hAccepts := hOrdinary.err .write
      refine ⟨1, ?_⟩
      simp [run, describeFirst, Report.requireArgs, Report.error,
        World.write_accepted hAccepts]
  | cons name rest =>
      rcases Shell.resolve_answers
          (hMachine.mode hOrdinary.fits) name with
        ⟨executor?, hResolve⟩
      rw [Shell.describe_of_resolve called rest
        (hOrdinary.out .write) hResolve]
      exact ⟨_, rfl⟩

end Builtin

end LineShell

------------------------------------------------------------
-- Requests to Exit
------------------------------------------------------------

namespace LineShell

namespace ExitStatus

variable {name argument : Text}

/- The arguments that are statuses: short, small numerals. -/
theorem parse_eq_ok_iff
    {code : Nat} :
    parse name argument = .ok code ↔
      Text.isNumeral argument = true ∧
        argument.length ≤ digitLimit ∧
        Text.numeralValue argument ≤ largest ∧
        Text.numeralValue argument = code := by
  unfold parse
  by_cases hNumeral : Text.isNumeral argument
  · by_cases hLong : digitLimit < argument.length
    · simp [hNumeral, hLong, Nat.not_le.2 hLong]
    · by_cases hLarge : largest < Text.numeralValue argument
      · simp [hNumeral, hLong, hLarge, Nat.not_le.2 hLarge]
      · simp [hNumeral, hLong, hLarge, Nat.not_lt.1 hLong,
          Nat.not_lt.1 hLarge]
  · simp [hNumeral]

/- No other argument makes the shell end. -/
theorem endsShell_of_parse
    {fault : Fault}
    (hParse : parse name argument = .error fault) :
    fault.endsShell = false := by
  unfold parse at hParse
  split at hParse
  · cases hParse
    rfl
  · split at hParse
    · cases hParse
      rfl
    · split at hParse
      · cases hParse
        rfl
      · cases hParse

end ExitStatus

/- Faults of the host are told and do not end the shell. -/
theorem Fault.endsShell_of_isHost
    {fault : Fault}
    (hHost : fault.isHost = true) :
    fault.endsShell = false := by
  cases fault with
  | os errno text path => rfl
  | value text => rfl
  | _ => cases hHost

namespace Shell

variable {φ δ : Type}

/-
  The words of a line that makes the shell end, each with its
  fault: to exit with or without a status, and to print a
  working directory that the system cannot tell.
-/
inductive Leaves
    (F : FileSystem φ)
    (files : φ) : List Text → Fault → Prop
  | exit : Leaves F files ["exit"] (.exit 0)
  | exitWith
      {argument : Text}
      {rest : List Text}
      {code : Nat}
      (hCode : ExitStatus.parse "exit" argument = .ok code) :
      Leaves F files ("exit" :: argument :: rest) (.exit code)
  | lost
      {rest : List Text}
      {fault : Fault}
      (hLost : F.workingDirectory files = .error fault)
      (hSystem : fault.isSystem = true) :
      Leaves F files ("pwd" :: rest)
        (.fatal
          ("pwd: cannot get current directory: " ++
            fault.message)
          1)

variable {F : FileSystem φ}
variable {files : φ}
variable {words : List Text}
variable {fault : Fault}

theorem Leaves.name
    {name : Text}
    {args : List Text}
    (hLeaves : Leaves F files (name :: args) fault) :
    name = "exit".toList ∨ name = "pwd".toList := by
  cases hLeaves with
  | exit => exact Or.inl rfl
  | exitWith hCode => exact Or.inl rfl
  | lost hLost hSystem => exact Or.inr rfl

theorem Leaves.endsShell
    (hLeaves : Leaves F files words fault) :
    fault.endsShell = true := by
  cases hLeaves with
  | exit => rfl
  | exitWith hCode => rfl
  | lost hLost hSystem => rfl

end Shell

end LineShell

------------------------------------------------------------
-- Builtins That End the Shell
------------------------------------------------------------

namespace LineShell

namespace Builtin

variable {φ δ : Type}
variable {fits : φ → δ → Prop}
variable {M : Machine φ δ}
variable {w : World φ δ}
variable {fault : Fault}

/- A status is what the shell is asked to exit with. -/
theorem exitWith_of_code
    {name argument : Text}
    {code : Nat}
    (hCode : ExitStatus.parse name argument = .ok code)
    (rest : List Text) :
    exitWith name (argument :: rest) w =
      ⟨.error (.exit code), w, []⟩ := by
  simp [exitWith, hCode]

/- Only a status, or no argument, makes the shell end. -/
theorem exitWith_ends
    {name : Text}
    {args : List Text}
    (hErr : w.streams.Takes .err .write)
    (hFault : (exitWith name args w).result = .error fault)
    (hEnds : fault.endsShell = true) :
    args = [] ∧ fault = .exit 0 ∨
      ∃ argument rest code,
        args = argument :: rest ∧
          ExitStatus.parse name argument = .ok code ∧
          fault = .exit (Int.ofNat code) := by
  cases args with
  | nil =>
      cases hFault
      exact Or.inl ⟨rfl, rfl⟩
  | cons argument rest =>
      cases hCode : ExitStatus.parse name argument with
      | ok code =>
          rw [exitWith_of_code hCode] at hFault
          cases hFault
          exact Or.inr ⟨argument, rest, code, rfl, hCode, rfl⟩
      | error other =>
          have hOther := ExitStatus.endsShell_of_parse hCode
          cases other with
          | badArgument command given detail =>
              simp [exitWith, hCode, Report.bareError,
                World.write_accepted hErr] at hFault
          | _ =>
              simp only [exitWith, hCode] at hFault
              cases hFault
              rw [hOther] at hEnds
              cases hEnds

/- Printing the working directory goes by how it is told. -/
theorem printWorkingDirectory_apply
    (M : Machine φ δ)
    (w : World φ δ) :
    printWorkingDirectory M w =
      match M.files.workingDirectory w.files with
      | .ok path =>
          (do
            World.write .out (path ++ "\n")
            return 0 : Action (World φ δ) Int) w
      | .error fault =>
          if fault.isSystem then
            ⟨.error (.fatal
                ("pwd: cannot get current directory: " ++
                  fault.message)
                1), w, []⟩
          else
            ⟨.error fault, w, []⟩ := by
  have hTold : World.workingDirectory M w =
      ⟨M.files.workingDirectory w.files, w, []⟩ := by
    unfold World.workingDirectory
    cases M.files.workingDirectory w.files with
    | ok path => rfl
    | error fault => rfl
  simp only [printWorkingDirectory, Action.bind_apply,
    Action.attempt_apply, hTold, Outcome.andThen_ok,
    List.nil_append]
  cases M.files.workingDirectory w.files with
  | ok path => rfl
  | error fault =>
      cases hSystem : fault.isSystem with
      | true => simp only [hSystem, if_true, Action.raise_apply]
      | false =>
          simp only [hSystem, Bool.false_eq_true, if_false,
            Action.raise_apply]

/- Only a system that cannot tell it makes the shell end. -/
theorem printWorkingDirectory_ends
    (hMachine : M.FailsAsHost fits)
    (hOrdinary : w.Ordinary fits)
    (hFault : (printWorkingDirectory M w).result = .error fault)
    (hEnds : fault.endsShell = true) :
    ∃ lost, M.files.workingDirectory w.files = .error lost ∧
      lost.isSystem = true ∧
      fault =
        .fatal
          ("pwd: cannot get current directory: " ++ lost.message)
          1 := by
  rw [printWorkingDirectory_apply] at hFault
  split at hFault
  · rw [World.say_accepted (hOrdinary.out .write)] at hFault
    cases hFault
  · next lost hLost =>
      split at hFault
      · next hSystem =>
          cases hFault
          exact ⟨lost, hLost, hSystem, rfl⟩
      · cases hFault
        have hHost :=
          hMachine.workingDirectory hOrdinary.fits hLost
        rw [Fault.endsShell_of_isHost hHost] at hEnds
        cases hEnds

end Builtin

end LineShell

------------------------------------------------------------
-- Lines That End the Shell
------------------------------------------------------------

namespace LineShell

variable {φ δ : Type}
variable {fits : φ → δ → Prop}
variable {M : Machine φ δ}
variable {w : World φ δ}
variable {fault : Fault}

/-
  Of the standard builtins, the shell ends by those that leave,
  and with their fault.
-/
theorem Builtin.run_ends_iff
    (hMachine : M.FailsAsHost fits)
    (hOrdinary : w.Ordinary fits)
    {name : Text}
    {builtin : Builtin}
    (hBuiltin :
      Registry.standard.builtin? name = some builtin)
    (args : List Text) :
    ((run M builtin name args w).result = .error fault ∧
        fault.endsShell = true) ↔
      Shell.Leaves M.files w.files (name :: args) fault := by
  -- A builtin that answers does not end the shell, and it is
  -- called by another name than those that do.
  have hStays
      (hAnswers :
        ∃ status, (run M builtin name args w).result = .ok status)
      (hExit : name ≠ "exit".toList)
      (hPrint : name ≠ "pwd".toList) :
      ((run M builtin name args w).result = .error fault ∧
          fault.endsShell = true) ↔
        Shell.Leaves M.files w.files (name :: args) fault := by
    rcases hAnswers with ⟨status, hStatus⟩
    constructor
    · rintro ⟨hFault, -⟩
      rw [hStatus] at hFault
      cases hFault
    · intro hLeaves
      rcases hLeaves.name with hName | hName
      · exact absurd hName hExit
      · exact absurd hName hPrint
  have hMember := Table.mem_of_find? hBuiltin
  simp only [Registry.standard, List.mem_cons, List.not_mem_nil,
    or_false, Prod.mk.injEq] at hMember
  rcases hMember with
    ⟨rfl, rfl⟩ | ⟨rfl, rfl⟩ | ⟨rfl, rfl⟩ |
      ⟨rfl, rfl⟩ | ⟨rfl, rfl⟩ | ⟨rfl, rfl⟩
  · exact hStays
      (changeDirectoryTo_answers hMachine hOrdinary _ args)
      (by decide) (by decide)
  · exact hStays (echoWords_answers (hOrdinary.out .write) args)
      (by decide) (by decide)
  · constructor
    · rintro ⟨hFault, hEnds⟩
      rcases exitWith_ends (hOrdinary.err .write) hFault
          hEnds with
        ⟨rfl, rfl⟩ | ⟨argument, rest, code, rfl, hCode, rfl⟩
      · exact .exit
      · exact .exitWith hCode
    · intro hLeaves
      refine ⟨?_, hLeaves.endsShell⟩
      cases hLeaves with
      | exit => rfl
      | @exitWith argument rest code hCode =>
          exact congrArg Outcome.result
            (exitWith_of_code hCode rest)
  · apply hStays ⟨0, ?_⟩ (by decide) (by decide)
    exact congrArg Outcome.result
      (World.say_accepted (hOrdinary.out .write) _ 0)
  · constructor
    · rintro ⟨hFault, hEnds⟩
      rcases printWorkingDirectory_ends hMachine hOrdinary
          hFault hEnds with
        ⟨lost, hLost, hSystem, rfl⟩
      exact .lost hLost hSystem
    · intro hLeaves
      refine ⟨?_, hLeaves.endsShell⟩
      cases hLeaves with
      | lost hLost hSystem =>
          change (printWorkingDirectory M w).result = _
          rw [printWorkingDirectory_apply, hLost]
          simp only [hSystem, if_true]
  · exact hStays (describe_answers hMachine hOrdinary _ args)
      (by decide) (by decide)

/- A child that fails as a host does does not end the shell. -/
theorem Invocation.external_goesOn
    (hMachine : M.FailsAsHost fits)
    (hFits : fits w.files w.device)
    (hNext : w.streams.FlushesNext)
    {path : Path}
    {argv : List Text}
    (hFault : (external M path argv w).result = .error fault) :
    fault.endsShell = false := by
  rw [external_result M path argv hNext, Launch.counted]
    at hFault
  cases hLaunch : (w.child M ⟨path, argv⟩).result with
  | ok status =>
      rw [hLaunch] at hFault
      cases hFault
  | error other =>
      rw [hLaunch] at hFault
      rcases hMachine.launch hFits hLaunch with
        hHost | ⟨program, details, hSpawn⟩
      · cases other with
        | spawn program details => cases hHost
        | _ =>
            cases hFault
            exact Fault.endsShell_of_isHost hHost
      · rw [hSpawn] at hFault
        cases hFault

namespace Shell

variable {line : Text}

/-
  On working streams, a line lets out the faults of its
  executor that end the shell, and no others.
-/
theorem execute_error_iff_of_executor
    {command : CommandLine}
    {found : Invocation}
    {executor : Executor}
    (hParse : CommandLine.parse? line = some command)
    (hFound : (invocation M command w).result = .ok found)
    (hExecutor : found.executor = some executor)
    (hErr : w.streams.Takes .err .write)
    (hFlushes : w.streams.Flushes) :
    (execute M line w).result = .error fault ↔
      (found.perform M executor w).result = .error fault ∧
        fault.endsShell = true := by
  have hLater :
      w.streams.Later
        (found.perform M executor w).state.streams :=
    (Invocation.perform_respects (Effect.steady_line M)
      found executor w).1.streams
  rw [execute_result hParse hFound (hFlushes .out),
    Invocation.run_of_executor hExecutor]
  cases hEnding : (found.perform M executor w).result with
  | ok status =>
      rw [Invocation.recover_ok found status
        (hLater.flushes hFlushes)]
      simp [Outcome.after]
  | error other =>
      cases hEnds : other.endsShell with
      | true =>
          rw [Invocation.recover_ending found hEnds]
          constructor
          · intro hFault
            cases hFault
            exact ⟨rfl, hEnds⟩
          · exact And.left
      | false =>
          rw [Invocation.recover_told found hEnds
            (hLater.takes hErr) (hLater.flushes hFlushes)]
          constructor
          · intro hFault
            cases hFault
          · rintro ⟨hFault, hOther⟩
            cases hFault
            rw [hEnds] at hOther
            cases hOther

/-
  A line lets out a fault exactly if its words make the shell
  end with that fault.  So every other line returns.
-/
theorem execute_error_iff
    (hMachine : M.FailsAsHost fits)
    (hOrdinary : w.Ordinary fits)
    (line : Text)
    (fault : Fault) :
    (execute M line w).result = .error fault ↔
      Leaves M.files w.files
        (splitWords (stripTerminator line)) fault := by
  cases hParse : CommandLine.parse? line with
  | none =>
      rw [execute_of_empty M hParse,
        (CommandLine.parse?_eq_none_iff line).1 hParse]
      constructor
      · intro hFault
        cases hFault
      · intro hLeaves
        cases hLeaves
  | some command =>
      rw [(CommandLine.parse?_eq_some_iff line command).1 hParse]
      cases hBuiltin : w.builtins.builtin? command.name with
      | some builtin =>
          have hInvocation :=
            invocation_of_builtin (M := M) hBuiltin
          have hFound :
              (invocation M command w).result = .ok _ :=
            congrArg Outcome.result hInvocation
          rw [execute_error_iff_of_executor hParse hFound rfl
            (hOrdinary.err .write) hOrdinary.flushes]
          rw [hOrdinary.builtins] at hBuiltin
          exact Builtin.run_ends_iff hMachine hOrdinary hBuiltin
            command.args
      | none =>
          -- No name that makes the shell end is searched for.
          have hStays :
              ¬ Leaves M.files w.files command.words fault := by
            intro hLeaves
            rw [hOrdinary.builtins] at hBuiltin
            rcases hLeaves.name with hName | hName
            · rw [hName] at hBuiltin
              cases hBuiltin
            · rw [hName] at hBuiltin
              cases hBuiltin
          rcases Search.find_answers
              (hMachine.mode hOrdinary.fits)
              w.environment command.name with
            ⟨path?, hFind⟩
          have hFound :
              (invocation M command w).result = .ok _ :=
            congrArg Outcome.result
              (invocation_of_find hBuiltin hFind)
          refine iff_of_false ?_ hStays
          intro hFault
          cases path? with
          | none =>
              rw [execute_result hParse hFound
                  (hOrdinary.out .flush),
                Invocation.run_of_no_executor rfl
                  (hOrdinary.out .write)] at hFault
              cases hFault
          | some path =>
              rw [execute_error_iff_of_executor hParse hFound rfl
                (hOrdinary.err .write) hOrdinary.flushes]
                at hFault
              have hGoesOn := Invocation.external_goesOn hMachine
                hOrdinary.fits hOrdinary.flushes.next hFault.1
              rw [hFault.2] at hGoesOn
              cases hGoesOn

end Shell

end LineShell
