import LineShell.LexicalTree
import LineShell.Proofs.Buffering

/-
  What an invocation makes of how its executor ended.

  A status is passed on, and so is a fault that no command may
  swallow.  Any other fault is told on standard error and
  counts as status 1, whatever status it carries itself; where
  it cannot be told, the fault of standard error is let out.

  Main declarations:
    * `Fault.endsShell_iff_kind`
    * `Outcome.Answers`
    * `Outcome.LetsOut`
    * `Outcome.Adds`
    * `Script.run_heard`
    * `Invocation.execute_by_ending`
-/

------------------------------------------------------------
-- Faults by Kind
------------------------------------------------------------

namespace LineShell

namespace Fault

/- The kinds of the faults that no command may swallow. -/
def Kind.unswallowed : List Kind :=
  [interrupt, exit, fatal]

theorem endsShell_iff_kind
    (fault : Fault) :
    fault.endsShell = true ↔ fault.kind ∈ Kind.unswallowed := by
  cases fault with
  | _ => simp [endsShell, kind, Kind.unswallowed]

end Fault

end LineShell

------------------------------------------------------------
-- Heard Scripts
------------------------------------------------------------

namespace LineShell

namespace Script

variable {φ δ : Type}
variable {w : World φ δ}

/- What a script writes, event by event. -/
def spoken
    (writes : List (Channel × Text)) : Trace :=
  writes.map fun (channel, text) => .wrote channel text

/- Every stream that the script writes to takes it. -/
def Heard
    (script : Script)
    (w : World φ δ) : Prop :=
  ∀ piece ∈ script.writes, w.streams.Takes piece.1 .write

/- Then all of it is written. -/
theorem say_heard
    {writes : List (Channel × Text)}
    (hHeard :
      ∀ piece ∈ writes, w.streams.Takes piece.1 .write) :
    say writes w = ⟨.ok (), w, spoken writes⟩ := by
  induction writes with
  | nil => rfl
  | cons piece writes ih =>
      have hFirst := hHeard piece List.mem_cons_self
      have hRest := ih fun other hOther =>
        hHeard other (List.mem_cons_of_mem piece hOther)
      simp only [say, Action.bind_apply,
        World.write_accepted hFirst, Outcome.andThen_ok, hRest]
      rfl

theorem run_heard
    {script : Script}
    (hHeard : script.Heard w) :
    script.run w =
      ⟨script.ending, w, spoken script.writes⟩ := by
  have hSaid := say_heard hHeard
  cases hEnding : script.ending with
  | ok status =>
      simp [run, hSaid, hEnding, Action.ofExcept, Action.pure]
  | error fault =>
      simp [run, hSaid, hEnding, Action.ofExcept]

end Script

end LineShell

------------------------------------------------------------
-- Conclusions
------------------------------------------------------------

namespace LineShell

namespace Outcome

variable {φ δ : Type}

/-
  The invocation answers with the status, which is also the one
  that is settled, and neither stream holds anything back,
  whatever it held back before.
-/
structure Answers
    (done : Outcome (Running φ δ) Int)
    (status : Int) : Prop where
  result : done.result = .ok status
  settled : done.state.status = status
  passedOn :
    ∀ b : Buffers, (b.after done.trace).isClear = true

/- The invocation lets out a fault; the status is as given. -/
structure LetsOut
    (done : Outcome (Running φ δ) Int)
    (fault : Fault)
    (status : Int) : Prop where
  result : done.result = .error fault
  settled : done.state.status = status

/-
  Besides what its executor did, the invocation only writes a
  text to standard error.
-/
structure Adds
    (done : Outcome (Running φ δ) Int)
    (ran : Outcome (World φ δ) Int)
    (text : Text) : Prop where
  world : done.state.world = ran.state
  out : done.trace.written .out = ran.trace.written .out
  err : done.trace.written .err = ran.trace.written .err ++ text

end Outcome

/- Two flushes leave nothing held back. -/
theorem Buffers.isClear_after_flushes
    (b : Buffers)
    (trace : Trace) :
    (b.after
      (trace ++ [.flushed .out, .flushed .err])).isClear =
        true := by
  rw [after_append]
  rfl

end LineShell

------------------------------------------------------------
-- Endings of Executors
------------------------------------------------------------

namespace LineShell

namespace Invocation

variable {φ δ : Type}
variable {M : Machine φ δ}
variable {invocation : Invocation}
variable {executor : Executor}
variable {r : Running φ δ}
variable {ran : Outcome (World φ δ) Int}
variable {status : Int}
variable {fault : Fault}

/- An executor only asks operations of the streams. -/
theorem later_of_performed
    (hRan : perform M invocation executor r.world = ran) :
    r.world.streams.Later ran.state.streams := by
  have hSame :=
    (perform_respects (Effect.steady_line M) invocation executor
      r.world).1
  rw [hRan] at hSame
  exact hSame.streams

/- The status of an executor that returns is settled. -/
theorem answers_of_returned
    (hExecutor : invocation.executor = some executor)
    (hRan : perform M invocation executor r.world = ran)
    (hResult : ran.result = .ok status)
    (hFlushes : r.world.streams.Flushes) :
    (execute M invocation r).Answers status ∧
      (execute M invocation r).Adds ran [] := by
  have hFlush := flushBoth_accepted
    ((later_of_performed hRan).flushes hFlushes)
  have hDone :
      execute M invocation r =
        ⟨.ok status, ⟨ran.state, status⟩,
          ran.trace ++ [.flushed .out, .flushed .err]⟩ := by
    simp [execute, hExecutor, hRan, hResult, conclude, hFlush]
  rw [hDone]
  refine ⟨⟨rfl, rfl, ?_⟩, ⟨rfl, ?_, Trace.written_append⟩⟩
  · exact fun b => b.isClear_after_flushes ran.trace
  · exact Trace.written_append.trans (List.append_nil _)

/- A fault that ends the shell settles nothing. -/
theorem letsOut_of_passed
    (hExecutor : invocation.executor = some executor)
    (hRan : perform M invocation executor r.world = ran)
    (hResult : ran.result = .error fault)
    (hEnds : fault.endsShell = true) :
    (execute M invocation r).LetsOut fault r.status ∧
      (execute M invocation r).Adds ran [] := by
  have hDone :
      execute M invocation r =
        ⟨.error fault, ⟨ran.state, r.status⟩, ran.trace⟩ := by
    simp [execute, hExecutor, hRan, hResult, conclude, hEnds]
  rw [hDone]
  exact ⟨⟨rfl, rfl⟩, ⟨rfl, rfl, (List.append_nil _).symm⟩⟩

/- Any other fault is told, and status 1 is settled. -/
theorem answers_of_told
    (hExecutor : invocation.executor = some executor)
    (hRan : perform M invocation executor r.world = ran)
    (hResult : ran.result = .error fault)
    (hEnds : fault.endsShell = false)
    (hErr : r.world.streams.Takes .err .write)
    (hFlushes : r.world.streams.Flushes) :
    (execute M invocation r).Answers 1 ∧
      (execute M invocation r).Adds ran
        (invocation.report fault) := by
  have hLater := later_of_performed hRan
  have hTold := reportFault_told invocation fault
    (hLater.takes hErr)
  have hFlush := flushBoth_accepted (hLater.flushes hFlushes)
  have hDone :
      execute M invocation r =
        ⟨.ok 1, ⟨ran.state, 1⟩,
          ran.trace ++
            [invocation.failed,
              .wrote .err (invocation.report fault),
              .flushed .out, .flushed .err]⟩ := by
    simp [execute, hExecutor, hRan, hResult, conclude, hEnds,
      hTold, hFlush]
  rw [hDone]
  refine ⟨⟨rfl, rfl, ?_⟩, ⟨rfl, ?_, ?_⟩⟩
  · intro b
    rw [List.append_cons, List.append_cons]
    exact b.isClear_after_flushes _
  · exact Trace.written_append.trans (List.append_nil _)
  · exact Trace.written_append.trans
      (congrArg (_ ++ ·) (List.append_nil _))

/- If it cannot be told, nothing is settled. -/
theorem letsOut_of_untold
    {other : Fault}
    (hExecutor : invocation.executor = some executor)
    (hRan : perform M invocation executor r.world = ran)
    (hResult : ran.result = .error fault)
    (hEnds : fault.endsShell = false)
    (hErr : ran.state.streams.answer .err .write = some other) :
    (execute M invocation r).LetsOut other r.status ∧
      (execute M invocation r).Adds
        { ran with state := ran.state.asked .err .write } [] := by
  have hUntold := reportFault_untold invocation fault hErr
  have hDone :
      execute M invocation r =
        ⟨.error other, ⟨ran.state.asked .err .write, r.status⟩,
          ran.trace ++ [invocation.failed]⟩ := by
    simp [execute, hExecutor, hRan, hResult, conclude, hEnds,
      hUntold]
  rw [hDone]
  refine ⟨⟨rfl, rfl⟩, ⟨rfl, ?_, Trace.written_append⟩⟩
  exact Trace.written_append.trans (List.append_nil _)

end Invocation

end LineShell

------------------------------------------------------------
-- Every Ending
------------------------------------------------------------

namespace LineShell

namespace Invocation

variable {φ δ : Type}

/-
  An invocation concludes by how its executor ended.  While
  both streams can be passed on, a status is answered and
  settled as it is, and nothing is added.  An interrupt, a
  request to exit and a fatal fault are let out as they are.
  Every other fault is told after what the executor wrote, and
  answered with status 1; where standard error refuses that,
  this alone changes, and the fault of the stream is let out
  instead.  An executor can write any texts and then end in any
  way: so does an added builtin on streams that take them.
-/
theorem execute_by_ending
    (M : Machine φ δ)
    (invocation : Invocation)
    (executor : Executor)
    (r : Running φ δ)
    (hExecutor : invocation.executor = some executor) :
    let ran := perform M invocation executor r.world
    let done := execute M invocation r
    (∀ status,
      ran.result = .ok status →
        r.world.streams.Flushes →
          done.Answers status ∧ done.Adds ran []) ∧
      (∀ fault,
        ran.result = .error fault →
        fault.kind ∈ Fault.Kind.unswallowed →
          done.LetsOut fault r.status ∧ done.Adds ran []) ∧
      (∀ fault,
        ran.result = .error fault →
        fault.kind ∉ Fault.Kind.unswallowed →
        r.world.streams.Takes .err .write →
        r.world.streams.Flushes →
          done.Answers 1 ∧
            done.Adds ran
              ("Error executing '" ++ invocation.name ++ "': " ++
                fault.message ++ "\n")) ∧
      (∀ fault other,
        ran.result = .error fault →
        fault.kind ∉ Fault.Kind.unswallowed →
        ran.state.streams.answer .err .write = some other →
          done.LetsOut other r.status ∧
            done.Adds
              { ran with state := ran.state.asked .err .write }
              []) ∧
      ∀ script : Text → List Text → Script,
        executor = .builtin (.added script) →
        let said := script invocation.name invocation.args
        said.Heard r.world →
          ran =
            ⟨said.ending, r.world, Script.spoken said.writes⟩ := by
  intro ran done
  have hNotEnds (fault : Fault)
      (hKind : fault.kind ∉ Fault.Kind.unswallowed) :
      fault.endsShell = false :=
    Bool.eq_false_iff.2 fun hEnds =>
      hKind (fault.endsShell_iff_kind.1 hEnds)
  refine ⟨?_, ?_, ?_, ?_, ?_⟩
  · intro status hResult hFlushes
    exact answers_of_returned hExecutor rfl hResult hFlushes
  · intro fault hResult hKind
    exact letsOut_of_passed hExecutor rfl hResult
      (fault.endsShell_iff_kind.2 hKind)
  · intro fault hResult hKind hErr hFlushes
    exact answers_of_told hExecutor rfl hResult
      (hNotEnds fault hKind) hErr hFlushes
  · intro fault other hResult hKind hErr
    exact letsOut_of_untold hExecutor rfl hResult
      (hNotEnds fault hKind) hErr
  · intro script hScript said hHeard
    have hRan : ran = said.run r.world := by
      change perform M invocation executor r.world = _
      rw [hScript]
      rfl
    rw [hRan, Script.run_heard hHeard]

/-
  A fault that carries a status of its own, after half a text.
  It is told and counts as status 1; without a standard error
  to tell it on, the status that was there before stays.
-/
theorem execute_by_ending_carried_status :
    let script : Script :=
      { writes := [(.out, "half")]
        ending := .error (.command "f" "broken" 42) }
    let invocation : Invocation :=
      ⟨"f", [], some (.builtin (.scripted script))⟩
    let r (streams : Streams) :
        Running LexicalTree (Except Fault Int) :=
      { world :=
          { environment := []
            files := {}
            device := .ok 0
            streams := streams }
        status := 5 }
    let full : Streams :=
      ({} : Streams).answering .err .write fun _ =>
        some Errno.noSpace.fault
    let told := execute LexicalTree.machine invocation (r {})
    let untold := execute LexicalTree.machine invocation (r full)
    invocation.executor = some (.builtin (.scripted script)) ∧
      script.Heard (r {}).world ∧
      script.Heard (r full).world ∧
      told.Answers 1 ∧
      told.trace.written .out = "half".toList ∧
      told.trace.written .err =
        "Error executing 'f': broken\n".toList ∧
      untold.LetsOut Errno.noSpace.fault 5 ∧
      untold.trace.written .out = "half".toList ∧
      untold.trace.written .err = [] := by
  intro script invocation r full told untold
  have hHeard : script.Heard (r {}).world :=
    fun _ _ _ => rfl
  have hHeardFull : script.Heard (r full).world := by
    intro piece hPiece count
    rw [List.mem_singleton.1 hPiece]
    rfl
  have hEnding (streams : Streams) :=
    execute_by_ending LexicalTree.machine invocation
      (.builtin (.scripted script)) (r streams) rfl
  rcases hEnding {} with ⟨-, -, hTold, -, hRan⟩
  rcases hEnding full with ⟨-, -, -, hUntold, hRanFull⟩
  have hFirst := hRan _ rfl hHeard
  have hSecond := hRanFull _ rfl hHeardFull
  rw [hFirst] at hTold
  rw [hSecond] at hUntold
  rcases hTold _ rfl (by decide) (fun _ => rfl)
      (fun _ _ => rfl) with
    ⟨hAnswers, hAdds⟩
  rcases hUntold _ _ rfl (by decide) rfl with
    ⟨hLets, hAddsNone⟩
  exact ⟨rfl, hHeard, hHeardFull, hAnswers, hAdds.out,
    hAdds.err, hLets, hAddsNone.out, hAddsNone.err⟩

end Invocation

end LineShell
