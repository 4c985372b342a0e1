import LineShell.Trace

/-
  How the output streams answer what is asked of them.

  A stream that fails can fail at any write and at any flush,
  with any fault, and can do what is asked the next time.

  Main declarations:
    * `Operation`
    * `Streams`
    * `Streams.answer`
    * `Streams.after`
    * `Streams.answering`
-/

------------------------------------------------------------
-- Answers
------------------------------------------------------------

namespace LineShell

/- What is asked of a stream. -/
inductive Operation where
  | write
  | flush
  deriving DecidableEq, Repr

/-
  The answers to every operation that is still to come, the
  next one first: the fault it fails with, or none.
-/
structure Streams where
  answers : Channel → Operation → Nat → Option Fault :=
    fun _ _ _ => none

namespace Streams

/- The answer to the next operation of a kind on a stream. -/
def answer
    (s : Streams)
    (channel : Channel)
    (operation : Operation) : Option Fault :=
  s.answers channel operation 0

/- What is still to come once the operation was asked for. -/
def after
    (s : Streams)
    (channel : Channel)
    (operation : Operation) : Streams where
  answers other kind count :=
    if other = channel ∧ kind = operation then
      s.answers other kind (count + 1)
    else
      s.answers other kind count

/- The same streams with other answers to one operation. -/
def answering
    (s : Streams)
    (channel : Channel)
    (operation : Operation)
    (answers : Nat → Option Fault) : Streams where
  answers other kind :=
    if other = channel ∧ kind = operation then
      answers
    else
      s.answers other kind

end Streams

end LineShell
