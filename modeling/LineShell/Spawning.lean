import LineShell.Config
import LineShell.ExitStatus
import LineShell.Machine

/-
  How the two ways to start a child report what came of it.

  The host has one outcome for every request.  The first way
  turns a refused or failed start into a fault; the second
  starts a fork in any case, which exits with status 1 when it
  cannot become the requested program.

  Main declarations:
    * `Ending`
    * `Start`
    * `SpawnMethod.report`
    * `Kernel`
    * `Kernel.machine`
-/

------------------------------------------------------------
-- Outcomes of a Start
------------------------------------------------------------

namespace LineShell

/- How a child ended: with an exit code, or by a signal. -/
inductive Ending where
  | exited (code : Nat)
  | killed (signal : Nat)
  deriving DecidableEq, Repr

namespace Ending

/- The exit code, or the negated number of the signal. -/
def returnCode :
    Ending → Int
  | exited code => code
  | killed signal => -signal

end Ending

/-
  What came of a request to start a child: the call did not
  accept it, it failed for a reason, or the child ended.
-/
inductive Start where
  | refused
  | failed (reason : Text)
  | ended (ending : Ending)
  deriving DecidableEq, Repr

namespace SpawnMethod

/- The status or fault that a method reports. -/
def report
    (method : SpawnMethod)
    (path : Path) : Start → Except Fault Int
  | .refused =>
      match method with
      | subprocess => .error embeddedNul
      | fork => .ok 1
  | .failed reason =>
      match method with
      | subprocess => .error (.spawn path reason)
      | fork => .ok 1
  | .ended ending =>
      .ok (ExitStatus.normalize ending.returnCode)

end SpawnMethod

end LineShell

------------------------------------------------------------
-- Kernels
------------------------------------------------------------

namespace LineShell

/- A start with the new states and what was written. -/
structure Started (φ δ : Type) where
  start : Start
  files : φ
  device : δ
  writes : List (Channel × Text)

/- What the host does with requests to start children. -/
abbrev Kernel (φ δ : Type) :=
  Environment → φ → δ → Request → Started φ δ

namespace Kernel

variable {φ δ : Type}

/- A machine that starts children by one of the methods. -/
def machine
    (files : FileSystem φ)
    (kernel : Kernel φ δ)
    (method : SpawnMethod) : Machine φ δ where
  files := files
  launch := fun environment state device request =>
    let started := kernel environment state device request
    ⟨method.report request.path started.start,
      started.files, started.device, started.writes⟩

end Kernel

end LineShell
