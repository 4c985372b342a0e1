import LineShell.Posix.Signal
import LineShell.Posix.System
import LineShell.Spawning

/-
  Processes: what a program is started with, and what it can
  ask of the system.

  Main declarations:
    * `Posix.Process`
    * `Posix.Process.receive`
    * `Posix.Process.send`
    * `Posix.Process.openPath`
    * `Posix.Process.node?`
    * `Posix.Body`
-/

------------------------------------------------------------
-- Processes
------------------------------------------------------------

namespace LineShell

namespace Posix

/-
  What a program is started with: its number and that of the
  process that started it, the arguments with the name first,
  the environment, the open files by descriptor, the signals
  that it ignores, and the permissions that its new files
  lack.  All texts are octets.
-/
structure Process where
  number : Nat
  parent : Nat
  argv : List Text
  environment : Environment
  descriptors : List (Nat × Nat)
  ignored : List Nat := []
  mask : Nat := 0o022

namespace Process

/- The name that a program was called by. -/
def name
    (p : Process) : Text :=
  p.argv.headD []

/- The open file of a descriptor. -/
def opened?
    (p : Process)
    (descriptor : Nat) : Option Nat :=
  p.descriptors.lookup descriptor

/- Let a descriptor be an open file, or close it. -/
def setDescriptor
    (p : Process)
    (descriptor : Nat)
    (opened : Option Nat) : Process :=
  let others := p.descriptors.filter (·.1 != descriptor)
  { p with
    descriptors :=
      match opened with
      | some id => (descriptor, id) :: others
      | none => others }

/- Read from a descriptor, at most so many octets. -/
def receive
    (p : Process)
    (descriptor : Nat)
    (s : System)
    (most : Option Nat := none) :
    Except Errno (Text × System) :=
  match p.opened? descriptor with
  | some id => s.take id most
  | none => .error .badDescriptor

/- Write to a descriptor. -/
def send
    (p : Process)
    (descriptor : Nat)
    (octets : Text)
    (s : System) : Except Errno System :=
  match p.opened? descriptor with
  | some id => s.put id octets
  | none => .error .badDescriptor

/- Write to a descriptor if that is possible. -/
def say
    (p : Process)
    (descriptor : Nat)
    (octets : Text)
    (s : System) : System :=
  (p.send descriptor octets s).toOption.getD s

/- Open a path. -/
def openPath
    (p : Process)
    (path : Text)
    (access : Access)
    (s : System) : Except Errno (Nat × System) :=
  s.openPath p.argv p.descriptors p.mask path access

/- What stands for an open file that is in no tree. -/
def pipeNode : Node :=
  ⟨0o010600, .file []⟩

/- The node that a descriptor leads to. -/
def nodeOf?
    (p : Process)
    (descriptor : Nat)
    (s : System) : Option Node := do
  let file ← s.opened[← p.opened? descriptor]?
  match file.target with
  | .file node _ => s.tree.node? node
  | _ => some pipeNode

/- The node that a path leads to. -/
def node?
    (p : Process)
    (path : Text)
    (s : System)
    (followLast : Bool := true) : Option Node :=
  match s.tree.resolve followLast (Text.ofOctets path) with
  | .ok id =>
      match s.tree.node? id with
      | some ⟨_, .descriptor number⟩ => p.nodeOf? number s
      | node => node
  | .error _ => none

end Process

/-
  What a program does as a process: how it ends, and what the
  system is then.
-/
abbrev Body :=
  Process → System → Ending × System

end Posix

end LineShell
