import LineShell.Posix.Sh.Arguments

/-
  Leaving loops, functions and scripts.

  Main declarations:
    * `Posix.Sh.leaveLoops`
    * `Posix.Sh.afterRound`
    * `Posix.Sh.returnFrom`
    * `Posix.Sh.leaveScript`
-/

------------------------------------------------------------
-- Loops
------------------------------------------------------------

namespace LineShell

namespace Posix

namespace Sh

/- Let the commands that follow be skipped. -/
def startSkipping
    (skipping : Skipping) : Act Unit :=
  modify fun s => { s with skipping := skipping }

/-
  Leave some of the loops around, or go on with the next round
  of the last of them; without loops nothing happens.
-/
def leaveLoops
    (skip : Nat → Skipping)
    (args : List Text) : Act Nat := do
  let count ←
    match args with
    | [] => pure 1
    | t :: _ => do
        let n ← numberArgument t
        if n = 0 then
          illegalNumber t
        pure n
  let most := (← get).loops
  if most ≠ 0 then
    startSkipping (skip (min count most))
  return 0

/- What a loop does after a part of a round. -/
inductive LoopStep where
  | goOn
  | nextRound
  | leave
  deriving DecidableEq, Repr

/-
  What a loop does next; a loop that is reached is no longer
  skipped.
-/
def afterRound : Act LoopStep := do
  match (← get).skipping with
  | .none => return .goOn
  | .leavingLoops count =>
      startSkipping
        (if count ≤ 1 then .none else .leavingLoops (count - 1))
      return .leave
  | .continuing count =>
      if count ≤ 1 then
        startSkipping .none
        return .nextRound
      else
        startSkipping (.continuing (count - 1))
        return .leave
  | .returning _ => return .leave

end Sh

end Posix

end LineShell

------------------------------------------------------------
-- Functions and Scripts
------------------------------------------------------------

namespace LineShell

namespace Posix

namespace Sh

/- Leave the function or script. -/
def returnFrom
    (args : List Text) : Act Nat := do
  match args with
  | [] =>
      startSkipping (.returning false)
      return (← get).status
  | t :: _ =>
      let status ← numberArgument t
      startSkipping (.returning true)
      return status

/- End a return. -/
def endReturn : Act Unit :=
  modify fun s =>
    match s.skipping with
    | .returning _ => { s with skipping := .none }
    | _ => s

/-
  End the script.  During an action on a signal the status is
  by default the one before.
-/
def leaveScript
    (args : List Text) : Act α := do
  let s ← get
  let status ←
    match args with
    | [] => pure (s.savedStatus.getD s.status)
    | t :: _ => numberArgument t
  setStatus status
  throw .finished

end Sh

end Posix

end LineShell
