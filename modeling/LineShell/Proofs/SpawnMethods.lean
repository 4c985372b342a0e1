import LineShell.Proofs.ChildStatuses
import LineShell.Proofs.CommandLine
import LineShell.Spawning

/-
  When the two ways to start a child can stand for each other.

  A start that is handled ends the same line in the same way:
  with the same status and no word from the shell, if its
  streams can be passed on, and in any case with the same
  result.  A fork handles every start.  The other way does not
  handle a start that the host refuses, and its fault is told.

  Main declarations:
    * `Start.status`
    * `SpawnMethod.Handles`
    * `Kernel.Conforms`
    * `Shell.execute_of_handled`
    * `Shell.execute_of_refused`
    * `Shell.spawnMethods_interchangeable_iff`
-/

------------------------------------------------------------
-- Starts
------------------------------------------------------------

namespace LineShell

/- The status that a start counts as. -/
def Start.status : Start → Int
  | .refused => 1
  | .failed _ => 1
  | .ended (.exited code) => code
  | .ended (.killed signal) => 128 + signal

/- The signals that end children are numbered from 1. -/
def Start.NumbersSignals
    (start : Start) : Prop :=
  ∀ signal, start = .ended (.killed signal) → 0 < signal

namespace SpawnMethod

variable {method : SpawnMethod}
variable {start : Start}

/- Only a fork gives a status to a start that is refused. -/
def Handles
    (method : SpawnMethod)
    (start : Start) : Prop :=
  start = .refused → method = .fork

theorem fork_handles
    (start : Start) :
    fork.Handles start :=
  fun _ => rfl

theorem handles_of_ne_refused
    (method : SpawnMethod)
    (hStart : start ≠ .refused) :
    method.Handles start :=
  fun hRefused => absurd hRefused hStart

/-
  A start that is handled is reported by its status, or as
  one that could not be made.
-/
theorem report_of_handled
    (path : Path)
    (hHandles : method.Handles start)
    (hSignal : start.NumbersSignals) :
    method.report path start = .ok start.status ∨
      start.status = 1 ∧
        ∃ reason,
          method.report path start =
            .error (.spawn path reason) := by
  cases start with
  | refused =>
      rw [hHandles rfl]
      exact Or.inl rfl
  | failed reason =>
      cases method with
      | subprocess => exact Or.inr ⟨rfl, reason, rfl⟩
      | fork => exact Or.inl rfl
  | ended ending =>
      apply Or.inl
      cases ending with
      | exited code =>
          have hCode : ExitStatus.normalize code = code := by
            unfold ExitStatus.normalize
            rw [if_neg (by omega)]
          exact congrArg Except.ok hCode
      | killed signal =>
          have hPositive : 0 < signal := hSignal signal rfl
          have hCode :
              ExitStatus.normalize (-signal) = 128 + signal := by
            unfold ExitStatus.normalize
            rw [if_pos (by omega)]
            omega
          exact congrArg Except.ok hCode

end SpawnMethod

end LineShell

------------------------------------------------------------
-- Kernels
------------------------------------------------------------

namespace LineShell

/-
  A kernel as the two ways meet it.  It refuses a request with
  a named program exactly when a text of it cannot be passed
  on, and numbers its signals.
-/
structure Kernel.Conforms
    {φ δ : Type}
    (K : Kernel φ δ) : Prop where
  refused :
    ∀ environment files device path name args, name ≠ [] →
      ((K environment files device
          ⟨path, name :: args⟩).start = .refused ↔
        ∃ text ∈ path :: name :: args, nul ∈ text)
  signalled :
    ∀ environment files device request,
      (K environment files device request).start.NumbersSignals

/-
  A kernel over a tree that starts every child it does not
  refuse, and whose children all exit with one code.
-/
def LexicalTree.kernel
    (code : Nat) : Kernel LexicalTree Unit :=
  fun _ tree _ request =>
    ⟨if (request.path :: request.argv).any (·.contains nul) then
        .refused
      else
        .ended (.exited code),
      tree, (), []⟩

theorem LexicalTree.kernel_conforms
    (code : Nat) :
    (kernel code).Conforms where
  refused := by
    intro _ _ _ path name args _
    have hAny :
        (path :: name :: args).any (·.contains nul) = true ↔
          ∃ text ∈ path :: name :: args, nul ∈ text := by
      simp only [List.any_eq_true, List.contains_iff_mem]
    rw [← hAny]
    unfold kernel
    constructor
    · intro hStart
      split at hStart
      · assumption
      · cases hStart
    · intro hNul
      exact if_pos hNul
  signalled := by
    intro _ _ _ request signal hStart
    unfold kernel at hStart
    split at hStart
    · cases hStart
    · cases hStart

/- The world as a child leaves it. -/
def World.afterStart
    {φ δ : Type}
    (w : World φ δ)
    (started : Started φ δ) : World φ δ :=
  { w with files := started.files, device := started.device }

namespace Kernel

variable {φ δ : Type}

/- What the kernel makes of a request. -/
def start
    (K : Kernel φ δ)
    (w : World φ δ)
    (request : Request) : Started φ δ :=
  K w.environment w.files w.device request

/- What is seen of a child: the request and what it writes. -/
def child
    (K : Kernel φ δ)
    (w : World φ δ)
    (request : Request) : Trace :=
  .launched request :: Trace.ofChild (K.start w request).writes

theorem launch_apply
    (F : FileSystem φ)
    (K : Kernel φ δ)
    (method : SpawnMethod)
    (request : Request)
    (w : World φ δ) :
    World.launch (K.machine F method) request w =
      ⟨method.report request.path (K.start w request).start,
        w.afterStart (K.start w request),
        K.child w request⟩ :=
  rfl

/- A child writes past the streams of the interpreter. -/
theorem child_written
    (K : Kernel φ δ)
    (w : World φ δ)
    (request : Request)
    (channel : Channel) :
    (K.child w request).written channel = [] :=
  Trace.written_ofChild _

end Kernel

end LineShell

------------------------------------------------------------
-- External Commands
------------------------------------------------------------

namespace LineShell

namespace Invocation

variable {φ δ : Type}
variable {F : FileSystem φ}
variable {K : Kernel φ δ}
variable {method : SpawnMethod}
variable {w : World φ δ}
variable {path : Path}
variable {argv : List Text}

/- Where a start is handled, the method only shows in a record. -/
theorem external_of_handled
    (hNext : w.streams.FlushesNext)
    (hHandles : method.Handles (K.start w ⟨path, argv⟩).start)
    (hSignal :
      (K.start w ⟨path, argv⟩).start.NumbersSignals) :
    ∃ record : Record,
      external (K.machine F method) path argv w =
        ⟨.ok (K.start w ⟨path, argv⟩).start.status,
          w.passedOn.afterStart (K.start w ⟨path, argv⟩),
          spawning path argv ++ K.child w ⟨path, argv⟩ ++
            [.logged record]⟩ := by
  have hLaunch :=
    K.launch_apply F method ⟨path, argv⟩ w.passedOn
  have hStart :
      K.start w.passedOn ⟨path, argv⟩ = K.start w ⟨path, argv⟩ :=
    rfl
  rw [hStart] at hLaunch
  have hResult := congrArg Outcome.result hLaunch
  rcases SpawnMethod.report_of_handled path hHandles hSignal with
    hStatus | ⟨hOne, reason, hSpawn⟩
  · rw [hStatus] at hResult
    rw [external_of_ok path argv hNext hResult, hLaunch]
    exact ⟨_, rfl⟩
  · rw [hSpawn] at hResult
    rw [external_of_spawn path path argv reason hNext hResult,
      hLaunch, hOne]
    exact ⟨_, rfl⟩

/- A start that is refused is a fault of the first way. -/
theorem external_of_refused
    (hNext : w.streams.FlushesNext)
    (hStart : (K.start w ⟨path, argv⟩).start = .refused) :
    external (K.machine F .subprocess) path argv w =
      ⟨.error embeddedNul,
        w.passedOn.afterStart (K.start w ⟨path, argv⟩),
        spawning path argv ++ K.child w ⟨path, argv⟩⟩ := by
  have hLaunch :=
    K.launch_apply F .subprocess ⟨path, argv⟩ w.passedOn
  have hResult := congrArg Outcome.result hLaunch
  have hRefused :
      (K.start w.passedOn ⟨path, argv⟩).start = .refused :=
    hStart
  rw [hRefused] at hResult
  have hOther : ∀ program details,
      embeddedNul ≠ Fault.spawn program details := by
    intro program details hEq
    cases hEq
  rw [external_of_error path argv hNext hResult hOther, hLaunch]
  rfl

end Invocation

end LineShell

------------------------------------------------------------
-- Lines with a Child
------------------------------------------------------------

namespace LineShell

namespace Shell

variable {φ δ : Type}
variable {F : FileSystem φ}
variable {K : Kernel φ δ}
variable {method : SpawnMethod}
variable {w : World φ δ}
variable {line : Text}
variable {command : CommandLine}
variable {path : Path}

/- What the line of a found name does until its child has ended. -/
def untilChildEnds
    (F : FileSystem φ)
    (K : Kernel φ δ)
    (w : World φ δ)
    (command : CommandLine)
    (path : Path) : Trace :=
  tokens command ::
    (Search.find F w.environment w.files command.name).trace ++
      (Invocation.spawning path command.words ++
        K.child w ⟨path, command.words⟩)

/- Until its child has ended, the line writes nothing itself. -/
theorem untilChildEnds_written
    (F : FileSystem φ)
    (K : Kernel φ δ)
    (w : World φ δ)
    (command : CommandLine)
    (path : Path)
    (channel : Channel) :
    (untilChildEnds F K w command path).written channel = [] := by
  have hSearch :
      (Search.find F w.environment w.files
        command.name).trace.written channel = [] :=
    Search.first_trace_respects (Effect.mute_quiet channel)
      F w.files command.name _ w
  have hChild :=
    K.child_written w ⟨path, command.words⟩ channel
  unfold untilChildEnds
  rw [Trace.written_append, Trace.written_append,
    Trace.written_cons, hSearch, hChild]
  rfl

variable (hParse : CommandLine.parse? line = some command)
variable (hBuiltin : w.builtins.builtin? command.name = none)
variable (hFind :
  (Search.find F w.environment w.files
    command.name).result = .ok (some path))
include hParse hBuiltin hFind

/- Once the child has ended, only the ending is recovered from. -/
theorem execute_of_external
    {result : Except Fault Int}
    {after : World φ δ}
    {rest : Trace}
    (hExternal :
      Invocation.external (K.machine F method) path
          command.words w =
        ⟨result, after,
          Invocation.spawning path command.words ++
            K.child w ⟨path, command.words⟩ ++ rest⟩) :
    execute (K.machine F method) line w =
      let ended := Invocation.recover
        ⟨command.name, command.args, some (.external path)⟩
        result after
      Outcome.flushed
        ⟨ended.result, ended.state.concluded ended.result,
          untilChildEnds F K w command path ++
            (rest ++ ended.trace)⟩ := by
  have hLine := execute_of_path (M := K.machine F method)
    hParse hBuiltin hFind
  rw [hLine, hExternal]
  simp only [untilChildEnds, List.cons_append,
    List.append_assoc]
  rfl

/-
  The line of a found name ends with the status of the start,
  if the method handles it and the streams can be passed on.
-/
theorem execute_of_handled
    (hFlushes : w.streams.Flushes)
    (hHandles :
      method.Handles (K.start w ⟨path, command.words⟩).start)
    (hSignal :
      (K.start w ⟨path, command.words⟩).start.NumbersSignals) :
    let started := K.start w ⟨path, command.words⟩
    ∃ record : Record,
      execute (K.machine F method) line w =
        ⟨.ok started.start.status,
          { w.afterStart started with
            lastStatus := started.start.status },
          untilChildEnds F K w command path ++
            [.logged record, .flushed .out, .flushed .err,
              .flushed .out]⟩ := by
  intro started
  rcases Invocation.external_of_handled (F := F) hFlushes.next
      hHandles hSignal with
    ⟨record, hExternal⟩
  rw [World.passedOn_of_flushes hFlushes] at hExternal
  have hEnded :=
    Invocation.recover_ok (w := w.afterStart started)
      ⟨command.name, command.args, some (.external path)⟩
      started.start.status hFlushes
  refine ⟨record, ?_⟩
  rw [execute_of_external hParse hBuiltin hFind hExternal, hEnded,
    Outcome.flushed_accepted]
  · simp [World.concluded, started]
  · exact hFlushes .out

/-
  Wherever the streams fail, two methods that handle a start
  do the same but for what they log.
-/
theorem sameButRecords_of_handled
    {other : SpawnMethod}
    (hMethod :
      method.Handles (K.start w ⟨path, command.words⟩).start)
    (hOther :
      other.Handles (K.start w ⟨path, command.words⟩).start)
    (hSignal :
      (K.start w ⟨path, command.words⟩).start.NumbersSignals) :
    Outcome.SameButRecords
      (execute (K.machine F method) line w)
      (execute (K.machine F other) line w) := by
  by_cases hNext : w.streams.FlushesNext
  · rcases Invocation.external_of_handled (F := F) hNext
        hMethod hSignal with
      ⟨record, hFirst⟩
    rcases Invocation.external_of_handled (F := F) hNext
        hOther hSignal with
      ⟨record', hSecond⟩
    rw [execute_of_external hParse hBuiltin hFind hFirst,
      execute_of_external hParse hBuiltin hFind hSecond]
    apply Outcome.SameButRecords.flushed
    refine ⟨rfl, rfl, ?_⟩
    simp only [Trace.unlogged_append]
    rfl
  · rcases Invocation.flushBoth_failed hNext with
      ⟨fault, -, hFlush⟩
    have hFirst := execute_of_path (M := K.machine F method)
      hParse hBuiltin hFind
    have hSecond := execute_of_path (M := K.machine F other)
      hParse hBuiltin hFind
    rw [Invocation.external_of_failed_flush _ path _ hFlush]
      at hFirst hSecond
    rw [hFirst, hSecond]
    exact ⟨rfl, rfl, rfl⟩

/-
  If the host refuses the start, the first way tells a fault,
  unless the stream for it fails.
-/
theorem execute_of_refused
    (hFlushes : w.streams.Flushes)
    (hStart :
      (K.start w ⟨path, command.words⟩).start = .refused) :
    let done := execute (K.machine F .subprocess) line w
    let report : Text :=
      "Error executing '" ++ command.name ++ "': " ++
        "embedded null byte" ++ "\n"
    let untold? := w.streams.answer .err .write
    done.result =
        (match untold? with
        | none => .ok 1
        | some fault => .error fault) ∧
      done.trace.written .out = [] ∧
      done.trace.written .err =
        (if untold? = none then report else []) := by
  intro done report untold?
  let after := w.afterStart (K.start w ⟨path, command.words⟩)
  have hBefore (channel : Channel) :=
    untilChildEnds_written F K w command path channel
  have hExternal := Invocation.external_of_refused (F := F)
    hFlushes.next hStart
  rw [World.passedOn_of_flushes hFlushes,
    ← List.append_nil (_ ++ K.child _ _)] at hExternal
  have hDone : done = _ :=
    execute_of_external hParse hBuiltin hFind hExternal
  have hAfter : after.streams.Flushes := hFlushes
  have hAsked :
      (after.asked .err .write).streams.Takes .out .flush :=
    (after.streams.later_after .err .write).takes (hAfter .out)
  cases hErr : untold? with
  | some fault =>
      have hUntold : after.streams.answer .err .write =
          some fault := hErr
      rw [hDone, Invocation.recover_untold _ rfl hUntold,
        Outcome.flushed_accepted]
      · refine ⟨rfl, ?_, ?_⟩
        · rw [Trace.written_append, Trace.written_append, hBefore]
          rfl
        · rw [Trace.written_append, Trace.written_append, hBefore]
          rfl
      · exact hAsked
  | none =>
      have hTold : after.streams.answer .err .write = none := hErr
      rw [hDone, Invocation.recover_done _ rfl hTold hAfter,
        Outcome.flushed_accepted]
      · refine ⟨rfl, ?_, ?_⟩
        · rw [Trace.written_append, Trace.written_append, hBefore]
          rfl
        · rw [Trace.written_append, Trace.written_append, hBefore]
          exact (List.append_nil _).trans (List.append_nil _)
      · exact hAsked

end Shell

end LineShell

------------------------------------------------------------
-- Interchangeability
------------------------------------------------------------

namespace LineShell

/-
  Two runs that end with the same status in the same state,
  and of which neither writes anything.  Only log records can
  tell them apart.
-/
structure Outcome.Interchangeable
    {σ : Type}
    (status : Int)
    (first second : Outcome σ Int) : Prop where
  firstResult : first.result = .ok status
  secondResult : second.result = .ok status
  state : first.state = second.state
  silent :
    ∀ channel, first.trace.written channel = [] ∧
      second.trace.written channel = []
  trace : first.trace.unlogged = second.trace.unlogged

namespace Shell

variable {φ δ : Type}
variable {F : FileSystem φ}
variable {K : Kernel φ δ}
variable {method : SpawnMethod}
variable {w : World φ δ}
variable {line : Text}
variable {command : CommandLine}
variable {path : Path}

/- Two methods that handle a start are interchangeable for it. -/
theorem interchangeable_of_handled
    {other : SpawnMethod}
    (hParse : CommandLine.parse? line = some command)
    (hBuiltin : w.builtins.builtin? command.name = none)
    (hFind :
      (Search.find F w.environment w.files
        command.name).result = .ok (some path))
    (hFlushes : w.streams.Flushes)
    (hMethod :
      method.Handles (K.start w ⟨path, command.words⟩).start)
    (hOther :
      other.Handles (K.start w ⟨path, command.words⟩).start)
    (hSignal :
      (K.start w ⟨path, command.words⟩).start.NumbersSignals) :
    Outcome.Interchangeable
      (K.start w ⟨path, command.words⟩).start.status
      (execute (K.machine F method) line w)
      (execute (K.machine F other) line w) := by
  have hBefore (channel : Channel) :=
    untilChildEnds_written F K w command path channel
  rcases execute_of_handled hParse hBuiltin hFind hFlushes
      hMethod hSignal with
    ⟨record, hFirst⟩
  rcases execute_of_handled hParse hBuiltin hFind hFlushes
      hOther hSignal with
    ⟨record', hSecond⟩
  rw [hFirst, hSecond]
  refine ⟨rfl, rfl, rfl, ?_, ?_⟩
  · intro channel
    rw [Trace.written_append, Trace.written_append, hBefore]
    exact ⟨rfl, rfl⟩
  · rw [Trace.unlogged_append, Trace.unlogged_append]
    rfl

/-
  The two ways to start a child are interchangeable for an
  external command exactly when no text of its request holds
  the character that ends texts.  A fork is silent and has the
  status of the start in any case.  The other way then reports
  a fault on standard error, or fails with that stream.  Where
  the streams cannot be passed on, a command has no status of
  its start, but the two ways still do the same.
-/
theorem spawnMethods_interchangeable_iff
    (F : FileSystem φ)
    (K : Kernel φ δ)
    (line : Text)
    (w : World φ δ)
    {name : Text}
    {args : List Text}
    {path : Path}
    (hKernel : K.Conforms)
    (hWords :
      splitWords (stripTerminator line) = name :: args)
    (hName : name ≠ [])
    (hBuiltin : w.builtins.builtin? name = none)
    (hFind :
      (Search.find F w.environment w.files name).result =
        .ok (some path)) :
    let start := (K.start w ⟨path, name :: args⟩).start
    let first := execute (K.machine F .subprocess) line w
    let second := execute (K.machine F .fork) line w
    let report : Text :=
      "Error executing '" ++ name ++ "': " ++
        "embedded null byte" ++ "\n"
    let untold? := w.streams.answer .err .write
    ((∀ text ∈ path :: name :: args, nul ∉ text) →
        Outcome.SameButRecords first second) ∧
      (w.streams.Flushes →
        (Outcome.Interchangeable start.status first second ↔
          ∀ text ∈ path :: name :: args, nul ∉ text) ∧
        (second.result = .ok start.status ∧
          ∀ channel, second.trace.written channel = []) ∧
        ((∃ text ∈ path :: name :: args, nul ∈ text) →
          start.status = 1 ∧
            first.result =
              (match untold? with
              | none => .ok 1
              | some fault => .error fault) ∧
            first.trace.written .out = [] ∧
            first.trace.written .err =
              (if untold? = none then report else []))) := by
  intro start first second report untold?
  have hParse : CommandLine.parse? line = some ⟨name, args⟩ :=
    (CommandLine.parse?_eq_some_iff line ⟨name, args⟩).2 hWords
  have hRefused :=
    hKernel.refused w.environment w.files w.device path name
      args hName
  have hSignal :=
    hKernel.signalled w.environment w.files w.device
      ⟨path, name :: args⟩
  have hHandled
      (hClean : ∀ text ∈ path :: name :: args, nul ∉ text)
      (method : SpawnMethod) : method.Handles start := by
    apply SpawnMethod.handles_of_ne_refused
    intro hStart
    rcases hRefused.1 hStart with ⟨text, hText, hNul⟩
    exact hClean text hText hNul
  have hTold (hFlushes : w.streams.Flushes)
      (hStart : start = .refused) :=
    execute_of_refused hParse hBuiltin hFind hFlushes hStart
  refine ⟨?_, fun hFlushes => ⟨⟨?_, ?_⟩, ?_, ?_⟩⟩
  · intro hClean
    exact sameButRecords_of_handled hParse hBuiltin hFind
      (hHandled hClean _) (hHandled hClean _) hSignal
  · intro hSame text hText hNul
    have hStart : start = .refused :=
      hRefused.2 ⟨text, hText, hNul⟩
    rcases hTold hFlushes hStart with ⟨hResult, -, hErr⟩
    cases hFails : w.streams.answer .err .write with
    | some fault =>
        rw [hFails] at hResult
        cases hSame.firstResult.symm.trans hResult
    | none =>
        rw [hFails, if_pos rfl] at hErr
        have hReport : report ≠ [] := List.cons_ne_nil _ _
        exact hReport (hErr.symm.trans (hSame.silent .err).1)
  · intro hClean
    exact interchangeable_of_handled hParse hBuiltin hFind
      hFlushes (hHandled hClean _) (hHandled hClean _) hSignal
  · have hFork : Outcome.Interchangeable start.status
        second second :=
      interchangeable_of_handled hParse hBuiltin hFind hFlushes
        (SpawnMethod.fork_handles _) (SpawnMethod.fork_handles _)
        hSignal
    exact ⟨hFork.secondResult,
      fun channel => (hFork.silent channel).2⟩
  · intro hNul
    have hStart : start = .refused := hRefused.2 hNul
    refine ⟨?_, hTold hFlushes hStart⟩
    rw [hStart]
    rfl

/- Empty arguments are passed on alike. -/
theorem spawnMethods_interchangeable_iff_empty_words :
    let K := LexicalTree.kernel 3
    let w : World LexicalTree Unit :=
      { environment := [("PATH", "/bin")]
        files := LexicalTree.build "/" [] [("/bin/show", 0o100755)]
        device := () }
    let run (method : SpawnMethod) :=
      execute (K.machine LexicalTree.fileSystem method)
        "show  a " w
    K.Conforms ∧
      splitWords (stripTerminator "show  a ") =
        ["show".toList, [], ['a'], []] ∧
      w.builtins.builtin? "show" = none ∧
      (Search.find LexicalTree.fileSystem w.environment w.files
        "show").result = .ok (some "/bin/show".toList) ∧
      w.streams.Flushes ∧
      Outcome.Interchangeable 3 (run .subprocess) (run .fork) := by
  intro K w run
  have hKernel : K.Conforms := LexicalTree.kernel_conforms 3
  have hWords : splitWords (stripTerminator "show  a ") =
      ["show".toList, [], ['a'], []] := by
    decide
  have hFind :
      (Search.find LexicalTree.fileSystem w.environment w.files
        "show").result = .ok (some "/bin/show".toList) :=
    rfl
  have hFlushes : w.streams.Flushes := fun _ _ => rfl
  have hSame :=
    (spawnMethods_interchangeable_iff LexicalTree.fileSystem K
      "show  a " w hKernel hWords (by decide) rfl hFind).2
        hFlushes
  exact ⟨hKernel, hWords, rfl, hFind, hFlushes,
    hSame.1.2 (by decide)⟩

/-
  An argument that cannot be passed on is told by one way and
  not by the other.
-/
theorem spawnMethods_differ_on_nul :
    let K := LexicalTree.kernel 3
    let line : Text := "show a" ++ [nul, 'b']
    let w : World LexicalTree Unit :=
      { environment := [("PATH", "/bin")]
        files := LexicalTree.build "/" [] [("/bin/show", 0o100755)]
        device := () }
    let run (method : SpawnMethod) :=
      execute (K.machine LexicalTree.fileSystem method) line w
    K.Conforms ∧
      splitWords (stripTerminator line) =
        ["show".toList, ['a', nul, 'b']] ∧
      w.builtins.builtin? "show" = none ∧
      (Search.find LexicalTree.fileSystem w.environment w.files
        "show").result = .ok (some "/bin/show".toList) ∧
      (run .subprocess).trace.written .err =
        "Error executing 'show': embedded null byte\n" ∧
      (run .fork).trace.written .err = [] ∧
      ∀ status, ¬ Outcome.Interchangeable status
        (run .subprocess) (run .fork) := by
  intro K line w run
  have hTold : (run .subprocess).trace.written .err =
      "Error executing 'show': embedded null byte\n" := by
    decide
  refine ⟨LexicalTree.kernel_conforms 3, by decide, rfl, rfl,
    hTold, by decide, ?_⟩
  intro status hSame
  have hSilent := (hSame.silent .err).1
  rw [hTold] at hSilent
  exact List.cons_ne_nil _ _ hSilent

end Shell

end LineShell
