import LineShell.Posix.Host

/-
  The command line of the program, which runs on a host of
  its own.

  Main declarations:
    * `Main.consulted`
    * `Main.startup`
    * `Main.run`
    * `main`
-/

------------------------------------------------------------
-- Reading What Is Given
------------------------------------------------------------

namespace LineShell

namespace Main

/- The environment variables that the program looks at. -/
def consulted :
    List String :=
  ["PATH", "HOME", "COLUMNS", "TINYSH_PROMPT",
    "TINYSH_SPAWNER", "TINYSH_LOG_LEVEL"]

/- The variables that are set. -/
def readEnvironment : IO Environment := do
  let given ← consulted.filterMapM fun name => do
    return (← IO.getEnv name).map fun value =>
      (name.toList, value.toList)
  return Table.ofList given

/- What the run is given, on the standard tree. -/
def startup
    (args : List String) : IO (Startup Posix.Tree) := do
  let input ← (← IO.getStdin).readToEnd
  return {
    args := args.map (·.toList)
    environment := ← readEnvironment
    files := Posix.Tree.standard
    input := input.toList }

end Main

end LineShell

------------------------------------------------------------
-- Running
------------------------------------------------------------

namespace LineShell

namespace Main

/- Run the program and pass on what it wrote. -/
def run
    (args : List String) : IO UInt32 := do
  let exit := Program.run Posix.host (← startup args)
  let time := Text.ofNat (← IO.monoMsNow)
  let text := fun channel =>
    String.ofList (exit.output time channel)
  (← IO.getStdout).putStr (text .out)
  (← IO.getStderr).putStr (text .err)
  return exit.status.toNat.toUInt32

end Main

end LineShell

/- The entry of the program. -/
def main (args : List String) : IO UInt32 :=
  LineShell.Main.run args
