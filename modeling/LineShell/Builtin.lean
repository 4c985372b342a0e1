import LineShell.Table
import LineShell.Trace

/-
  The commands that the interpreter itself carries out.

  Main declarations:
    * `Script`
    * `Builtin`
    * `Builtin.scripted`
    * `Registry`
    * `Registry.standard`
-/

------------------------------------------------------------
-- Builtins
------------------------------------------------------------

namespace LineShell

/-
  What a command that was added to the interpreter does: it
  writes texts, each to one of the streams, and then returns a
  status or fails.
-/
structure Script where
  writes : List (Channel × Text) := []
  ending : Except Fault Int := .ok 0

/-
  A command of the interpreter.  What an added one does depends
  on the name it is called by and on its arguments.
-/
inductive Builtin where
  | changeDirectory
  | echo
  | exit
  | greet
  | printDirectory
  | describe
  | added (script : Text → List Text → Script)

/- An added command that always does the same. -/
def Builtin.scripted
    (script : Script) : Builtin :=
  added fun _ _ => script

end LineShell

------------------------------------------------------------
-- Registry
------------------------------------------------------------

namespace LineShell

/- Builtins by name. -/
abbrev Registry :=
  Table Builtin

namespace Registry

/- The six standard builtins, by name in ascending order. -/
def standard : Registry :=
  [("cd", .changeDirectory),
    ("echo", .echo),
    ("exit", .exit),
    ("hello", .greet),
    ("pwd", .printDirectory),
    ("type", .describe)]

/- The names in the registry. -/
def names
    (registry : Registry) : List Text :=
  registry.map (·.1)

/- The builtin of a name; names match exactly. -/
def builtin?
    (registry : Registry)
    (name : Text) : Option Builtin :=
  Table.find? name registry

/- Whether the name is that of a builtin. -/
def holds
    (registry : Registry)
    (name : Text) : Bool :=
  registry.names.contains name

end Registry

end LineShell
