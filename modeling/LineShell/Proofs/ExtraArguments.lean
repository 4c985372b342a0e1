import LineShell.Proofs.Footprint

/-
  Arguments that nobody looks at.

  Every builtin but `echo` and those that are added looks at no
  more than its first argument.  What is put behind a line after
  a space only adds words, so where enough arguments are given
  it makes no difference.

  Main declarations:
    * `IsBody.after_space`
    * `CommandLine.parse?_append_space`
    * `Builtin.heeded?`
    * `Builtin.run_append`
    * `Shell.Sated`
    * `Shell.execute_ignores_suffix`
-/

------------------------------------------------------------
-- Lines That Go On
------------------------------------------------------------

namespace LineShell

variable {line suffix body : Text}

/- A line that goes on ends as what comes after the space. -/
theorem IsBody.after_space
    (hBody : IsBody suffix body)
    (line : Text) :
    IsBody (line ++ ' ' :: suffix) (line ++ ' ' :: body) := by
  cases hBody with
  | ended =>
      have hLine :
          line ++ ' ' :: (body ++ ['\n']) =
            (line ++ ' ' :: body) ++ ['\n'] := by
        simp
      rw [hLine]
      exact .ended _
  | whole hOpen =>
      apply IsBody.whole
      rw [Text.endsWith_append (List.cons_ne_nil ' ' suffix)]
      by_cases hNil : suffix = []
      · rw [hNil]
        rfl
      · exact (Text.endsWith_cons hNil ' ').trans hOpen

namespace CommandLine

variable {name : Text}
variable {args : List Text}

/- The words of a suffix come after those of the line. -/
theorem parse?_append_space
    (hWords : splitWords line = name :: args)
    (suffix : Text) :
    parse? (line ++ ' ' :: suffix) =
      some ⟨name,
        args ++ (stripTerminator suffix).splitOn ' '⟩ := by
  have hBody :
      stripTerminator (line ++ ' ' :: suffix) =
        line ++ ' ' :: stripTerminator suffix :=
    isBody_iff.1 ((isBody_iff.2 rfl).after_space line)
  have hCut : line.splitOn ' ' = name :: args := by
    rw [← hWords, splitWords, if_neg]
    intro hEmpty
    rw [List.isEmpty_iff.1 hEmpty] at hWords
    cases hWords
  rw [parse?_eq_some_iff, hBody, splitWords, if_neg,
    List.splitOn_append_cons_self, hCut]
  · rfl
  · simp

/- A line that is open is read as it stands. -/
theorem parse?_of_open
    (hOpen : Text.endsWith '\n' line = false)
    (hWords : splitWords line = name :: args) :
    parse? line = some ⟨name, args⟩ := by
  rw [parse?_eq_some_iff, isBody_iff.1 (.whole hOpen), hWords]
  rfl

end CommandLine

end LineShell

------------------------------------------------------------
-- Heeded Arguments
------------------------------------------------------------

namespace LineShell

namespace Builtin

variable {φ δ : Type}

/- How many arguments a builtin looks at, unless it is all. -/
def heeded? :
    Builtin → Option Nat
  | changeDirectory => some 1
  | exit => some 1
  | describe => some 1
  | greet => some 0
  | printDirectory => some 0
  | echo => none
  | added _ => none

/- Whatever comes after these makes no difference. -/
theorem run_append
    {builtin : Builtin}
    {n : Nat}
    (hHeeded : builtin.heeded? = some n)
    (M : Machine φ δ)
    (name : Text)
    {args : List Text}
    (hArgs : n ≤ args.length)
    (extra : List Text) :
    run M builtin name (args ++ extra) =
      run M builtin name args := by
  have hSingle (hOne : n = 1) :
      ∃ argument rest, args = argument :: rest := by
    rw [hOne] at hArgs
    exact List.exists_cons_of_length_pos hArgs
  cases builtin with
  | changeDirectory =>
      cases hHeeded
      rcases hSingle rfl with ⟨argument, rest, rfl⟩
      rfl
  | exit =>
      cases hHeeded
      rcases hSingle rfl with ⟨argument, rest, rfl⟩
      rfl
  | describe =>
      cases hHeeded
      rcases hSingle rfl with ⟨argument, rest, rfl⟩
      have hEnough (others : List Text) :
          (Report.requireArgs name (argument :: others) 1
            "type name" : Action (World φ δ) Bool) =
              pure true := by
        unfold Report.requireArgs
        rw [if_pos]
        rw [List.length_cons]
        omega
      change describeFirst M name _ = describeFirst M name _
      unfold describeFirst
      rw [List.cons_append, hEnough, hEnough]
      rfl
  | greet => rfl
  | printDirectory => rfl
  | echo => cases hHeeded
  | added script => cases hHeeded

end Builtin

end LineShell

------------------------------------------------------------
-- Lines That Need No More
------------------------------------------------------------

namespace LineShell

namespace Shell

variable {φ δ : Type}
variable {M : Machine φ δ}
variable {w : World φ δ}
variable {line other : Text}
variable {name : Text}
variable {args more : List Text}

/-
  If a builtin does the same with other arguments, so does its
  line.  Only the record of its words differs.
-/
theorem execute_of_same_run
    {builtin : Builtin}
    (hParse : CommandLine.parse? line = some ⟨name, args⟩)
    (hOther : CommandLine.parse? other = some ⟨name, more⟩)
    (hBuiltin : w.builtins.builtin? name = some builtin)
    (hSame :
      builtin.run M name more w = builtin.run M name args w) :
    let done := execute M line w
    execute M other w =
      ⟨done.result, done.state,
        tokens ⟨name, more⟩ :: done.trace.tail⟩ := by
  intro done
  let ran := builtin.run M name args w
  let ended := Invocation.recover
    ⟨name, args, some (.builtin builtin)⟩ ran.result ran.state
  let rest : Outcome (World φ δ) Int :=
    ⟨ended.result, ended.state.concluded ended.result,
      dispatching name :: (ran.trace ++ ended.trace)⟩
  have hDone :
      done = Outcome.after [tokens ⟨name, args⟩] rest.flushed :=
    (execute_of_builtin hParse hBuiltin).trans
      (Outcome.flushed_cons _ rest)
  have hLonger :
      execute M other w =
        Outcome.after [tokens ⟨name, more⟩] rest.flushed := by
    rw [execute_of_builtin hOther hBuiltin]
    dsimp only
    rw [hSame]
    exact Outcome.flushed_cons _ rest
  rw [hLonger, hDone]
  rfl

/-
  A command with all the arguments that its builtin looks at:
  one for `exit`, `cd` and `type`, and none for `pwd` and
  `hello`.
-/
inductive Sated : Text → List Text → Prop where
  | exit
      {argument : Text}
      {rest : List Text} :
      Sated "exit" (argument :: rest)
  | changeDirectory
      {argument : Text}
      {rest : List Text} :
      Sated "cd" (argument :: rest)
  | describe
      {argument : Text}
      {rest : List Text} :
      Sated "type" (argument :: rest)
  | printDirectory
      {args : List Text} :
      Sated "pwd" args
  | greet
      {args : List Text} :
      Sated "hello" args

theorem Sated.heeded
    (hSated : Sated name args) :
    ∃ builtin n,
      Registry.standard.builtin? name = some builtin ∧
        builtin.heeded? = some n ∧
        n ≤ args.length := by
  cases hSated with
  | exit => exact ⟨.exit, 1, rfl, rfl, by simp⟩
  | changeDirectory =>
      exact ⟨.changeDirectory, 1, rfl, rfl, by simp⟩
  | describe => exact ⟨.describe, 1, rfl, rfl, by simp⟩
  | printDirectory =>
      exact ⟨.printDirectory, 0, rfl, rfl, Nat.zero_le _⟩
  | greet => exact ⟨.greet, 0, rfl, rfl, Nat.zero_le _⟩

/-
  Extra arguments are ignored.  A line with all the arguments
  that its builtin looks at may go on after a space in any way:
  it ends alike, with the same status or fault, and leaves the
  same world, and all that happens apart from log records is
  the same.  No child is asked for.
-/
theorem execute_ignores_suffix
    (M : Machine φ δ)
    (w : World φ δ)
    (line suffix name : Text)
    (args : List Text)
    (hOpen : Text.endsWith '\n' line = false)
    (hWords : splitWords line = name :: args)
    (hSated : Sated name args)
    (hStandard :
      w.builtins.builtin? name =
        Registry.standard.builtin? name) :
    let short := execute M line w
    let long := execute M (line ++ ' ' :: suffix) w
    long.result = short.result ∧
      long.state = short.state ∧
      long.trace.unlogged = short.trace.unlogged ∧
      (∀ channel,
        long.trace.written channel =
          short.trace.written channel) ∧
      long.trace.probes = short.trace.probes ∧
      short.trace.requests = [] ∧
      long.trace.requests = [] := by
  intro short long
  rcases hSated.heeded with ⟨builtin, n, hFind, hHeeded, hArgs⟩
  have hBuiltin : w.builtins.builtin? name = some builtin :=
    hStandard.trans hFind
  have hParse := CommandLine.parse?_of_open hOpen hWords
  have hLonger := CommandLine.parse?_append_space hWords suffix
  have hSame :=
    congrFun (Builtin.run_append hHeeded M name hArgs
      ((stripTerminator suffix).splitOn ' ')) w
  have hShort : short.trace =
      tokens ⟨name, args⟩ :: short.trace.tail :=
    congrArg Outcome.trace
      (execute_of_same_run hParse hParse hBuiltin rfl)
  have hLong : long = _ :=
    execute_of_same_run hParse hLonger hBuiltin hSame
  have hRequests : short.trace.requests = [] :=
    execute_requests_of_builtin M hParse hBuiltin
  -- Both traces begin with a log record, which no view sees.
  rw [hLong]
  dsimp only
  generalize short.trace.tail = rest at hShort
  rw [hShort] at hRequests ⊢
  exact ⟨rfl, rfl, rfl, fun _ => rfl, rfl, hRequests, hRequests⟩

/-
  An empty argument is one, and what comes after it is not
  looked at, though standard output fails.
-/
theorem execute_ignores_suffix_empty_argument :
    let w : World LexicalTree (Except Fault Int) :=
      { environment := [("PATH", "/bin")]
        files := LexicalTree.build "/" [] [("/bin/x", 0o100755)]
        device := .ok 0
        streams := ({} : Streams).answering .out .write
          fun _ => some Errno.noSpace.fault
        lastStatus := 7 }
    let short := execute LexicalTree.machine "type " w
    let long := execute LexicalTree.machine "type   x \n" w
    Text.endsWith '\n' "type " = false ∧
      splitWords "type " = ["type".toList, []] ∧
      Sated "type" [[]] ∧
      w.builtins.builtin? "type" =
        Registry.standard.builtin? "type" ∧
      long.result = short.result ∧
      long.state = short.state ∧
      long.trace.probes = short.trace.probes ∧
      short.trace.probes = ["/bin/".toList] ∧
      long.trace.written .err =
        "Error executing 'type': ".toList ++
          Errno.noSpace.fault.message ++ ['\n'] := by
  intro w short long
  have hOpen : Text.endsWith '\n' "type " = false := by decide
  have hWords : splitWords "type " = ["type".toList, []] := by
    decide
  have hSated : Sated "type" [[]] := .describe
  rcases execute_ignores_suffix LexicalTree.machine w "type "
      " x \n" "type" [[]] hOpen hWords hSated rfl with
    ⟨hResult, hState, -, hWritten, hProbes, -, -⟩
  have hTold :
      short.trace.written .err =
        "Error executing 'type': ".toList ++
          Errno.noSpace.fault.message ++ ['\n'] := by
    decide +kernel
  exact ⟨hOpen, hWords, hSated, rfl, hResult, hState, hProbes,
    by decide +kernel, (hWritten .err).trans hTold⟩

end Shell

end LineShell
