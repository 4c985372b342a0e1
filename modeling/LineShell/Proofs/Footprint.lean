import LineShell.LexicalTree
import LineShell.Proofs.CommandLine
import LineShell.Proofs.Execution

/-
  The footprint of a line: which child it asks for, which files
  it probes, and what it leaves of the world.

  A line takes one of three ways.  A builtin runs, a name is
  not found, or a child is asked for; only the last way asks
  for one.

  Main declarations:
    * `Shell.requested?`
    * `Shell.execute_requests`
    * `Shell.execute_probes`
    * `Shell.execute_files`
    * `Shell.execute_footprint`
-/

------------------------------------------------------------
-- Children of External Commands
------------------------------------------------------------

namespace LineShell

/- Passing standard output on asks for no child. -/
theorem Outcome.flushed_requests
    {φ δ α : Type}
    (done : Outcome (World φ δ) α) :
    done.flushed.trace.requests = done.trace.requests := by
  rcases done.flushed_trace with hTrace | hTrace
  · rw [hTrace]
  · rw [hTrace, Trace.requests_append]
    exact List.append_nil _

namespace World

variable {φ δ : Type}

/- What a child leaves of the files. -/
def filesAfter
    (w : World φ δ)
    (M : Machine φ δ)
    (request : Request) : φ :=
  (M.launch w.environment w.files w.device request).files

/- A child writes, but asks for no further child. -/
theorem launch_requests
    (M : Machine φ δ)
    (request : Request)
    (w : World φ δ) :
    (launch M request w).trace.requests = [request] :=
  congrArg (request :: ·) (Trace.requests_ofChild _)

end World

namespace Invocation

variable {φ δ : Type}
variable {w : World φ δ}

/-
  An external command asks for its child and no other, if what
  was written before can be passed on.
-/
theorem external_requests
    (M : Machine φ δ)
    (path : Path)
    (argv : List Text)
    (w : World φ δ) :
    (external M path argv w).trace.requests =
      if w.streams.FlushesNext then [⟨path, argv⟩] else [] := by
  have hLogs (records : List Record) :
      Trace.requests (records.map .logged) = [] := by
    induction records with
    | nil => rfl
    | cons record records ih => exact ih
  by_cases hNext : w.streams.FlushesNext
  · rcases external_after_launch M path argv hNext with
      ⟨-, records, hTrace⟩
    rw [if_pos hNext, hTrace, Trace.requests_append,
      Trace.requests_append, World.launch_requests, hLogs]
    rfl
  · rw [if_neg hNext]
    exact external_speaks Effect.unrequested_lookup.toSpeech M
      path argv hNext

/- What it leaves of the files is what the child leaves. -/
theorem external_files
    (M : Machine φ δ)
    (path : Path)
    (argv : List Text)
    (w : World φ δ) :
    (external M path argv w).state.files =
      if w.streams.FlushesNext then
        w.filesAfter M ⟨path, argv⟩
      else
        w.files := by
  by_cases hNext : w.streams.FlushesNext
  · rw [if_pos hNext, (external_after_launch M path argv hNext).1]
    rfl
  · rw [if_neg hNext]
    exact external_speaks Effect.grounded_lookup.toSpeech M
      path argv hNext

end Invocation

end LineShell

------------------------------------------------------------
-- The Three Ways of a Line
------------------------------------------------------------

namespace LineShell

namespace Shell

variable {φ δ : Type}
variable {R : Effect (World φ δ)}
variable {M : Machine φ δ}
variable {command : CommandLine}
variable {line : Text}
variable {w : World φ δ}

/- The line of a builtin respects what the builtin respects. -/
theorem execute_respects_of_builtin
    {builtin : Builtin}
    (hR : R.Speech)
    (hRemember : ∀ w status, R w [] { w with lastStatus := status })
    (hParse : CommandLine.parse? line = some command)
    (hBuiltin :
      w.builtins.builtin? command.name = some builtin)
    (hLookup : builtin = .describe → R.Lookup)
    (hTravel : builtin = .changeDirectory → R.Travel M) :
    R w (execute M line w).trace (execute M line w).state := by
  have hInvocation :=
    invocation_of_builtin (M := M) hBuiltin
  apply execute_respects_of_run hR hRemember hParse
  · rw [hInvocation]
    exact hR.logged w _
  · intro found hFound
    rw [hInvocation] at hFound
    apply Invocation.run_respects_of_perform hR
    intro executor hExecutor
    cases hFound
    cases hExecutor
    exact Builtin.run_respects hR builtin hLookup hTravel _ _

/- The line of a name without a path does no more than a search. -/
theorem execute_respects_of_no_path
    (hR : R.Lookup)
    (hRemember : ∀ w status, R w [] { w with lastStatus := status })
    (hParse : CommandLine.parse? line = some command)
    (hBuiltin : w.builtins.builtin? command.name = none)
    (hFind :
      ∀ path, (Search.find M.files w.environment w.files
        command.name).result ≠ .ok (some path)) :
    R w (execute M line w).trace (execute M line w).state := by
  have hInvocation :=
    invocation_respects (M := M) hR.toQuiet command w
  rw [invocation_state] at hInvocation
  apply execute_respects_of_run hR.toSpeech hRemember hParse
    hInvocation
  intro found hFound
  apply Invocation.run_respects_of_perform hR.toSpeech
  intro executor hExecutor
  cases hResult :
      (Search.find M.files w.environment w.files
        command.name).result with
  | error fault =>
      rw [invocation_of_find_fault hBuiltin hResult] at hFound
      cases hFound
  | ok path? =>
      rw [invocation_of_find hBuiltin hResult] at hFound
      cases hFound
      cases path? with
      | none => cases hExecutor
      | some path => exact absurd hResult (hFind path)

/- The line of a name with a path asks for what is external. -/
theorem execute_child_of_path
    {path : Path}
    (hParse : CommandLine.parse? line = some command)
    (hBuiltin : w.builtins.builtin? command.name = none)
    (hFind :
      (Search.find M.files w.environment w.files
        command.name).result = .ok (some path)) :
    let ran := Invocation.external M path command.words w
    (execute M line w).trace.requests = ran.trace.requests ∧
      (execute M line w).state.files = ran.state.files := by
  intro ran
  let found : Invocation :=
    ⟨command.name, command.args, some (.external path)⟩
  let ended := Invocation.recover found ran.result ran.state
  have hSearch :
      Trace.requests (Search.find M.files w.environment w.files
        command.name).trace = [] :=
    Builtin.findExecutable_respects
      Effect.unrequested_lookup.toQuiet M command.name w
  have hEnded : ended.trace.requests = [] :=
    Invocation.recover_respects
      Effect.unrequested_lookup.toSpeech found ran.result ran.state
  have hKept : ended.state.files = ran.state.files :=
    Invocation.recover_respects
      Effect.grounded_lookup.toSpeech found ran.result ran.state
  rw [execute_of_path hParse hBuiltin hFind]
  constructor
  · have hBefore :
        Trace.requests (tokens command ::
          (Search.find M.files w.environment w.files
            command.name).trace) = [] := hSearch
    rw [Outcome.flushed_requests, Trace.requests_append,
      Trace.requests_append, hBefore, hEnded]
    exact List.append_nil _
  · rw [Outcome.flushed_state]
    exact (World.concluded_files _ _).trans hKept

end Shell

end LineShell

------------------------------------------------------------
-- Requests and Probes
------------------------------------------------------------

namespace LineShell

namespace Shell

variable {φ δ : Type}

/- The line of a builtin asks for no child. -/
theorem execute_requests_of_builtin
    {line : Text}
    {command : CommandLine}
    {builtin : Builtin}
    {w : World φ δ}
    (M : Machine φ δ)
    (hParse : CommandLine.parse? line = some command)
    (hBuiltin :
      w.builtins.builtin? command.name = some builtin) :
    (execute M line w).trace.requests = [] :=
  execute_respects_of_builtin
    Effect.unrequested_lookup.toSpeech (fun _ _ => rfl) hParse
    hBuiltin (fun _ => Effect.unrequested_lookup)
    (fun _ => Effect.unrequested_travel M)

/- Nor does it probe a file, unless it describes a name. -/
theorem execute_probes_of_builtin
    {line : Text}
    {command : CommandLine}
    {builtin : Builtin}
    {w : World φ δ}
    (M : Machine φ δ)
    (hParse : CommandLine.parse? line = some command)
    (hBuiltin :
      w.builtins.builtin? command.name = some builtin)
    (hDescribe : builtin ≠ .describe) :
    (execute M line w).trace.probes = [] :=
  execute_respects_of_builtin
    (Effect.unprobed_travel M).toSpeech (fun _ _ => rfl) hParse
    hBuiltin (fun hEq => absurd hEq hDescribe)
    (fun _ => Effect.unprobed_travel M)

/-
  The child that words ask for: their first word must not be
  a builtin, a search must find it, and both streams must pass
  on what was written before.
-/
def requested?
    (M : Machine φ δ)
    (w : World φ δ) :
    List Text → Option Request
  | [] => none
  | name :: args =>
      if w.builtins.holds name then
        none
      else
        match (Search.find M.files w.environment w.files
            name).result with
        | .ok (some path) =>
            if w.streams.FlushesNext then
              some ⟨path, name :: args⟩
            else
              none
        | _ => none

theorem requested?_eq_some_iff
    (M : Machine φ δ)
    (w : World φ δ)
    (words : List Text)
    (request : Request) :
    requested? M w words = some request ↔
      ∃ name args path, words = name :: args ∧
        w.builtins.holds name = false ∧
        (Search.find M.files w.environment w.files
          name).result = .ok (some path) ∧
        w.streams.FlushesNext ∧
        request = ⟨path, words⟩ := by
  cases words with
  | nil => simp [requested?]
  | cons name args =>
      cases hHolds : w.builtins.holds name with
      | true => simp [requested?, hHolds]
      | false =>
          cases hFind :
              (Search.find M.files w.environment w.files
                name).result with
          | error fault => simp [requested?, hHolds, hFind]
          | ok path? =>
              cases path? with
              | none => simp [requested?, hHolds, hFind]
              | some path =>
                  have hSame :
                      (⟨path, name :: args⟩ : Request) = request ↔
                        request = ⟨path, name :: args⟩ :=
                    eq_comm
                  by_cases hNext : w.streams.FlushesNext
                  · simpa [requested?, hHolds, hFind, hNext]
                      using hSame
                  · simp [requested?, hHolds, hFind, hNext]

/- A line asks for the child of its words, and for no other. -/
theorem execute_requests
    (M : Machine φ δ)
    (line : Text)
    (w : World φ δ) :
    (execute M line w).trace.requests =
      (requested? M w
        (splitWords (stripTerminator line))).toList := by
  cases hParse : CommandLine.parse? line with
  | none =>
      rw [(CommandLine.parse?_eq_none_iff line).1 hParse,
        execute_of_empty M hParse]
      rfl
  | some command =>
      rw [(CommandLine.parse?_eq_some_iff line command).1 hParse]
      have hHolds :=
        Registry.holds_eq_isSome w.builtins command.name
      cases hBuiltin : w.builtins.builtin? command.name with
      | some builtin =>
          rw [hBuiltin] at hHolds
          simp only [CommandLine.words, requested?, hHolds,
            Option.isSome_some, if_true, Option.toList_none]
          exact execute_requests_of_builtin M hParse hBuiltin
      | none =>
          rw [hBuiltin] at hHolds
          simp only [CommandLine.words, requested?, hHolds,
            Option.isSome_none, Bool.false_eq_true, if_false]
          split
          · next path hFind =>
              rw [(execute_child_of_path hParse hBuiltin hFind).1,
                Invocation.external_requests]
              split
              · rfl
              · rfl
          · next hOther =>
              exact execute_respects_of_no_path
                Effect.unrequested_lookup (fun _ _ => rfl)
                hParse hBuiltin hOther

/- Only the description of a name and a search probe files. -/
theorem execute_probes
    (M : Machine φ δ)
    {line : Text}
    {w : World φ δ}
    (hBuiltins : w.builtins = Registry.standard)
    (hWords :
      ∀ name args, splitWords (stripTerminator line) = name :: args →
        w.builtins.holds name ∧ name ≠ "type".toList) :
    (execute M line w).trace.probes = [] := by
  cases hParse : CommandLine.parse? line with
  | none =>
      rw [execute_of_empty M hParse]
      rfl
  | some command =>
      have hCommand := hWords command.name command.args
        ((CommandLine.parse?_eq_some_iff line command).1 hParse)
      rw [Registry.holds_eq_isSome] at hCommand
      rcases hCommand with ⟨hHolds, hName⟩
      cases hBuiltin : w.builtins.builtin? command.name with
      | none =>
          rw [hBuiltin] at hHolds
          exact absurd hHolds Bool.false_ne_true
      | some builtin =>
          have hDescribe : builtin ≠ .describe := by
            intro hEq
            rw [hBuiltins, hEq] at hBuiltin
            exact hName (Registry.standard_describe hBuiltin)
          exact execute_probes_of_builtin M hParse hBuiltin hDescribe

end Shell

end LineShell

------------------------------------------------------------
-- Files
------------------------------------------------------------

namespace LineShell

namespace Shell

variable {φ δ : Type}

/-
  The line of `cd` enters no directory, or ends with status 0
  unless what was written cannot be passed on.
-/
theorem execute_files_of_changeDirectory
    {M : Machine φ δ}
    {line : Text}
    {command : CommandLine}
    {w : World φ δ}
    (hParse : CommandLine.parse? line = some command)
    (hBuiltin :
      w.builtins.builtin? command.name =
        some .changeDirectory) :
    let done := execute M line w
    done.state.files = w.files ∨
      (done.result = .ok 0 ∨
        ∃ fault,
          w.streams.FlushFails fault ∧
            done.result = .error fault) ∧
        ∃ path, M.files.enter w.files path =
          .ok done.state.files := by
  intro done
  let found : Invocation :=
    ⟨command.name, command.args, some (.builtin .changeDirectory)⟩
  let ran :=
    Builtin.changeDirectoryTo M command.name command.args w
  let ended := Invocation.recover found ran.result ran.state
  let left : Outcome (World φ δ) Int :=
    ⟨ended.result, ended.state.concluded ended.result,
      [tokens command, dispatching command.name] ++
        (ran.trace ++ ended.trace)⟩
  have hDone : done = left.flushed :=
    execute_of_builtin hParse hBuiltin
  have hRan : w.streams.Later ran.state.streams :=
    (Builtin.changeDirectoryTo_respects
      (Effect.steady_line M).toTravel _ _ w).1.streams
  have hLeft : w.streams.Later left.state.streams := by
    have hEnded :=
      (Invocation.recover_respects
        (Effect.steady_line M).toSpeech found ran.result
        ran.state).1.streams
    rw [World.concluded_streams]
    exact hRan.trans hEnded
  have hFiles : done.state.files = ran.state.files := by
    have hKept : ended.state.files = ran.state.files :=
      Invocation.recover_respects
        Effect.grounded_lookup.toSpeech found ran.result ran.state
    rw [hDone, Outcome.flushed_state]
    exact (World.concluded_files _ _).trans hKept
  rw [hFiles]
  rcases Builtin.changeDirectoryTo_files M command.name
      command.args w with hStay | ⟨hOk, hEnter⟩
  · exact Or.inl hStay
  · refine Or.inr ⟨?_, hEnter⟩
    have hEnded :=
      Invocation.recover_returned found 0 ran.state
    rw [← show ran.result = .ok 0 from hOk] at hEnded
    rw [hDone, left.flushed_result]
    cases hFlush : left.state.streams.answer .out .flush with
    | none =>
        rcases hEnded with hZero | ⟨fault, hFails, hError⟩
        · exact Or.inl (hZero.trans hOk)
        · exact Or.inr ⟨fault, hRan.flushFails hFails, hError⟩
    | some fault =>
        exact Or.inr
          ⟨fault, hLeft.flushFails ⟨.out, 0, hFlush⟩, rfl⟩

/-
  The files after a line are those before it, or a directory
  was entered by a `cd` that only a flush kept from status 0,
  or they are what the child left.
-/
theorem execute_files
    (M : Machine φ δ)
    (line : Text)
    {w : World φ δ}
    (hBuiltins : w.builtins = Registry.standard) :
    let done := execute M line w
    done.state.files = w.files ∨
      ((splitWords (stripTerminator line)).head? =
          some "cd".toList ∧
        (done.result = .ok 0 ∨
          ∃ fault,
            w.streams.FlushFails fault ∧
              done.result = .error fault) ∧
        ∃ path, M.files.enter w.files path =
          .ok done.state.files) ∨
      ∃ request ∈ done.trace.requests,
        done.state.files = w.filesAfter M request := by
  intro done
  cases hParse : CommandLine.parse? line with
  | none =>
      apply Or.inl
      exact congrArg (·.state.files)
        (execute_of_empty M hParse w)
  | some command =>
      have hWords :=
        (CommandLine.parse?_eq_some_iff line command).1 hParse
      cases hBuiltin : w.builtins.builtin? command.name with
      | none =>
          by_cases hFind : ∃ path,
              (Search.find M.files w.environment w.files
                command.name).result = .ok (some path)
          · rcases hFind with ⟨path, hPath⟩
            rcases execute_child_of_path hParse hBuiltin hPath with
              ⟨hRequests, hFiles⟩
            rw [Invocation.external_requests] at hRequests
            rw [Invocation.external_files] at hFiles
            by_cases hNext : w.streams.FlushesNext
            · rw [if_pos hNext] at hRequests hFiles
              refine Or.inr (Or.inr ⟨_, ?_, hFiles⟩)
              rw [hRequests]
              exact List.mem_singleton_self _
            · rw [if_neg hNext] at hFiles
              exact Or.inl hFiles
          · apply Or.inl
            exact execute_respects_of_no_path
              Effect.grounded_lookup (fun _ _ => rfl) hParse
              hBuiltin fun path hPath => hFind ⟨path, hPath⟩
      | some builtin =>
          by_cases hChange : builtin = .changeDirectory
          · rw [hChange] at hBuiltin
            rcases execute_files_of_changeDirectory (M := M)
                hParse hBuiltin with hStay | hEnter
            · exact Or.inl hStay
            · refine Or.inr (Or.inl ⟨?_, hEnter⟩)
              rw [hBuiltins] at hBuiltin
              rw [hWords]
              exact congrArg some
                (Registry.standard_changeDirectory hBuiltin)
          · apply Or.inl
            exact execute_respects_of_builtin
              Effect.grounded_lookup.toSpeech (fun _ _ => rfl)
              hParse hBuiltin (fun _ => Effect.grounded_lookup)
              (fun hEq => absurd hEq hChange)

end Shell

end LineShell

------------------------------------------------------------
-- The Footprint of a Line
------------------------------------------------------------

namespace LineShell

/- Entering a directory moves there and does nothing else. -/
theorem LexicalTree.enter_moves
    {tree entered : LexicalTree}
    {path : Path}
    (hEnter : tree.enter path = .ok entered) :
    entered =
      { tree with directory := normalize tree.directory path } := by
  rw [LexicalTree.enter_eq] at hEnter
  split at hEnter
  · cases hEnter
  · split at hEnter
    · cases hEnter
      rfl
    · cases hEnter

/- So it leaves the nodes of a tree alone. -/
theorem LexicalTree.enter_nodes
    {tree entered : LexicalTree}
    {path : Path}
    (hEnter : tree.enter path = .ok entered) :
    entered.nodes = tree.nodes := by
  rw [enter_moves hEnter]

namespace Shell

variable {φ δ : Type}

/-
  What a line does besides writing.  It asks for one child at
  most: exactly when its first word is no builtin and is found
  and both streams pass on what was written before, and then
  for that path with all its words.  Without words, or with a
  builtin other than `type`, it probes nothing.  Only a `cd`
  that nothing but a flush kept from status 0 changes the
  working directory, nothing changes the environment or what
  entering a directory leaves alone, and what a child does to
  the files is its own doing.
-/
theorem execute_footprint
    (M : Machine φ δ)
    (line : Text)
    (w : World φ δ)
    (hBuiltins : w.builtins = Registry.standard) :
    let words := splitWords (stripTerminator line)
    let done := execute M line w
    (done.trace.requests.length ≤ 1 ∧
        (∀ request, request ∈ done.trace.requests ↔
          ∃ name args path, words = name :: args ∧
            w.builtins.holds name = false ∧
            (Search.find M.files w.environment w.files
              name).result = .ok (some path) ∧
            w.streams.FlushesNext ∧
            request = ⟨path, words⟩) ∧
        ∀ request ∈ done.trace.requests,
          Text.unwords request.argv = stripTerminator line) ∧
      ((∀ name args, words = name :: args →
          w.builtins.holds name ∧ name ≠ "type".toList) →
        done.trace.probes = []) ∧
      (M.files.workingDirectory done.state.files ≠
          M.files.workingDirectory w.files →
        (words.head? = some "cd".toList ∧
            (done.result = .ok 0 ∨
              ∃ fault,
                w.streams.FlushFails fault ∧
                  done.result = .error fault)) ∨
          ∃ request ∈ done.trace.requests,
            M.files.workingDirectory (w.filesAfter M request) ≠
              M.files.workingDirectory w.files) ∧
      done.state.environment = w.environment ∧
      ∀ {ν : Type} (nodes : φ → ν),
        (∀ files path entered,
          M.files.enter files path = .ok entered →
            nodes entered = nodes files) →
        nodes done.state.files ≠ nodes w.files →
        ∃ request ∈ done.trace.requests,
          nodes (w.filesAfter M request) ≠ nodes w.files := by
  intro words done
  have hRequests : done.trace.requests =
      (requested? M w words).toList :=
    execute_requests M line w
  have hMember (request : Request) :
      request ∈ done.trace.requests ↔
        ∃ name args path, words = name :: args ∧
          w.builtins.holds name = false ∧
          (Search.find M.files w.environment w.files
            name).result = .ok (some path) ∧
          w.streams.FlushesNext ∧
          request = ⟨path, words⟩ := by
    rw [hRequests, Option.mem_toList]
    exact requested?_eq_some_iff M w words request
  have hFiles := execute_files M line hBuiltins
  refine ⟨⟨?_, hMember, ?_⟩, ?_, ?_, ?_, ?_⟩
  · rw [hRequests]
    exact Option.length_toList_le
  · intro request hRequest
    rcases (hMember request).1 hRequest with
      ⟨name, args, path, -, -, -, -, hEq⟩
    rw [hEq]
    exact unwords_splitWords (stripTerminator line)
  · exact execute_probes M hBuiltins
  · intro hMoved
    rcases hFiles with hStay | hEnter | ⟨request, hMem, hLeft⟩
    · exact absurd (congrArg M.files.workingDirectory hStay)
        hMoved
    · exact Or.inl ⟨hEnter.1, hEnter.2.1⟩
    · refine Or.inr ⟨request, hMem, ?_⟩
      rw [← hLeft]
      exact hMoved
  · exact (execute_sameSetting M line w).environment
  · intro ν nodes hNodes hChanged
    rcases hFiles with hStay | hEnter | ⟨request, hMem, hLeft⟩
    · exact absurd (congrArg nodes hStay) hChanged
    · rcases hEnter with ⟨-, -, path, hPath⟩
      exact absurd (hNodes _ path _ hPath) hChanged
    · refine ⟨request, hMem, ?_⟩
      rw [← hLeft]
      exact hChanged

/-
  Empty words reach the child, and nothing else of the world
  changes.
-/
theorem execute_footprint_empty_words :
    let w : World LexicalTree (Except Fault Int) :=
      { environment := [("PATH", "/bin")]
        files := LexicalTree.build "/" [] [("/bin/show", 0o100755)]
        device := .ok 3 }
    let done := execute LexicalTree.machine "show  a \n" w
    w.builtins = Registry.standard ∧
      done.trace.requests.length ≤ 1 ∧
      (⟨"/bin/show", ["show".toList, [], ['a'], []]⟩ : Request) ∈
        done.trace.requests ∧
      done.state.environment = w.environment ∧
      done.state.files.nodes = w.files.nodes := by
  intro w
  have hBuiltins : w.builtins = Registry.standard := rfl
  rcases execute_footprint LexicalTree.machine "show  a \n" w
      hBuiltins with
    ⟨⟨hOne, hMember, -⟩, -, -, hEnvironment, hNodes⟩
  refine ⟨hBuiltins, hOne, ?_, hEnvironment, ?_⟩
  · apply (hMember _).2
    exact ⟨"show".toList, [[], ['a'], []], "/bin/show".toList,
      by decide, by decide, rfl, fun _ => rfl, by decide⟩
  · apply Decidable.byContradiction
    intro hChanged
    rcases hNodes LexicalTree.nodes
        (fun _ _ _ hEnter => LexicalTree.enter_nodes hEnter)
        hChanged with
      ⟨request, -, hLeft⟩
    exact hLeft rfl

/-
  With a standard output that cannot be flushed, a name that is
  found asks for no child, and `cd` changes the directory but
  lets out the fault of the flush.  A child can change nodes.
-/
theorem execute_footprint_failing_flush :
    let full := ({} : Streams).answering .out .flush
      fun _ => some Errno.noSpace.fault
    let w : World LexicalTree (Except Fault Int) :=
      { environment := [("PATH", "/bin")]
        files :=
          LexicalTree.build "/" ["/bin"] [("/bin/show", 0o100755)]
        device := .ok 0 }
    let failing := { w with streams := full }
    let creating : Machine LexicalTree (Except Fault Int) :=
      { LexicalTree.machine with
        launch := fun _ tree ending _ =>
          ⟨ending,
            { tree with
              nodes := tree.nodes.put "/new" 0o100644 },
            ending, []⟩ }
    let shown := execute LexicalTree.machine "show" failing
    let gone := execute LexicalTree.machine "cd /bin" failing
    failing.builtins = Registry.standard ∧
      (Search.find LexicalTree.fileSystem failing.environment
          failing.files "show").result =
        .ok (some "/bin/show".toList) ∧
      shown.trace.requests = [] ∧
      gone.result = .error Errno.noSpace.fault ∧
      gone.state.files.directory = "/bin".toList ∧
      (execute creating "show" w).state.files.nodes ≠
        w.files.nodes := by
  intro full w failing creating shown gone
  refine ⟨rfl, rfl, ?_, rfl, ?_, ?_⟩
  · decide
  · decide
  · decide

end Shell

end LineShell
