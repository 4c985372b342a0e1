import LineShell.Builtin.Run

/-
  Invocations: one command with what carries it out.

  Main declarations:
    * `Executor`
    * `Invocation`
    * `Invocation.argv`
    * `Invocation.external`
    * `Running`
    * `Invocation.execute`
    * `Invocation.run`
-/

------------------------------------------------------------
-- Invocations
------------------------------------------------------------

namespace LineShell

/- What carries out a command. -/
inductive Executor where
  | builtin (builtin : Builtin)
  | external (path : Path)

/- A command, its arguments, and what carries it out, if any. -/
structure Invocation where
  name : Text
  args : List Text := []
  executor : Option Executor := none

namespace Invocation

/- The argument vector: the name as typed comes first. -/
def argv
    (invocation : Invocation) : List Text :=
  invocation.name :: invocation.args

/- A description for people. -/
def describe
    (invocation : Invocation) : Text :=
  "Process(" ++ invocation.name ++ " " ++
    Text.unwords invocation.args ++ ")"

end Invocation

end LineShell

------------------------------------------------------------
-- Executors
------------------------------------------------------------

namespace LineShell

namespace Invocation

variable {φ δ : Type}

/- Both streams are passed on. -/
def flushBoth : Action (World φ δ) Unit := do
  World.flush .out
  World.flush .err

/-
  Start a child and take its status.  What was written before
  is passed on first, so that it comes before what the child
  writes.  A child that cannot be started counts as status 1,
  and is not reported.
-/
def external
    (M : Machine φ δ)
    (path : Path)
    (argv : List Text) : Action (World φ δ) Int := do
  flushBoth
  World.log .process
    ("spawning " ++ path ++ " argv=" ++ Text.quotedList argv)
  match ← Action.attempt (World.launch M ⟨path, argv⟩) with
  | .ok status =>
      World.log .process
        (argv.headD [] ++ " exited with status " ++
          Text.ofInt status)
      return status
  | .error (.spawn program details) =>
      World.log .process
        ("cannot execute " ++
          (Fault.spawn program details).message)
      return 1
  | .error fault => Action.raise fault

/- Carry out a command. -/
def perform
    (M : Machine φ δ)
    (invocation : Invocation) :
    Executor → Action (World φ δ) Int
  | .builtin builtin =>
      builtin.run M invocation.name invocation.args
  | .external path => external M path invocation.argv

end Invocation

end LineShell

------------------------------------------------------------
-- Execution
------------------------------------------------------------

namespace LineShell

/- An invocation at work: the world and its status so far. -/
structure Running (φ δ : Type) where
  world : World φ δ
  status : Int := 0

namespace Running

variable {φ δ α : Type}

/- Act on the world alone. -/
def inWorld
    (m : Action (World φ δ) α) : Action (Running φ δ) α :=
  Action.focus world (fun w r => { r with world := w }) m

/- Settle the status. -/
def settle
    (status : Int) : Action (Running φ δ) Unit :=
  Action.update fun r => { r with status := status }

end Running

namespace Invocation

variable {φ δ : Type}

/-
  Report a fault of a command as a failure with status 1.
-/
def reportFault
    (invocation : Invocation)
    (fault : Fault) : Action (World φ δ) Unit := do
  World.log .process
    ("command " ++ Text.quoted invocation.name ++ " failed")
  World.write .err
    ("Error executing '" ++ invocation.name ++ "': " ++
      fault.message ++ "\n")

/- Settle how an executor ended. -/
def conclude
    (invocation : Invocation) :
    Except Fault Int → Action (Running φ δ) Unit
  | .ok status => Running.settle status
  | .error fault => do
      if fault.endsShell then
        Action.raise fault
      Running.inWorld (reportFault invocation fault)
      Running.settle 1

/-
  Execute an invocation.  Without an executor the name is
  reported as not found.  With one, every fault but those that
  end the shell becomes a reported failure, and both streams
  are passed on at the end.
-/
def execute
    (M : Machine φ δ)
    (invocation : Invocation) :
    Action (Running φ δ) Int := do
  match invocation.executor with
  | none =>
      Running.inWorld <| World.write .out
        ((Fault.notFound invocation.name).message ++ "\n")
      Running.settle 127
  | some executor =>
      let ending ← Action.attempt <|
        Running.inWorld (perform M invocation executor)
      conclude invocation ending
      Running.inWorld flushBoth
  return (← Action.get).status

/- Execute an invocation in a world. -/
def run
    (M : Machine φ δ)
    (invocation : Invocation) : Action (World φ δ) Int :=
  Action.focus (fun w => ⟨w, 0⟩) (fun r _ => r.world)
    (execute M invocation)

end Invocation

end LineShell
