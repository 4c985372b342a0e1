import LineShell.Posix.Sh.Run

/-
  The shell as a program: its options, the variables that it
  starts with, and the script that it runs.

  Main declarations:
    * `Posix.Sh.Invocation`
    * `Posix.Sh.initialState`
    * `Posix.Sh.run`
-/

------------------------------------------------------------
-- Options
------------------------------------------------------------

namespace LineShell

namespace Posix

namespace Sh

/- Whether the script is an argument, and what follows. -/
structure Invocation where
  isArgument : Bool := false
  rest : List Text

/-
  Read the letters of one argument of the command line; the
  answer tells whether the script is an argument, and what
  follows.
-/
def startLetters
    (isOn : Bool)
    (following : List Text) : Text → Act Invocation
  | [] => return { rest := following }
  | 'c' :: letters => do
      let later ← startLetters isOn following letters
      return { later with isArgument := true }
  | 'l' :: letters => startLetters isOn following letters
  | 'o' :: letters => do
      match following with
      | [] => putOptions isOn
      | name :: _ => turnNamed name isOn
      startLetters isOn following.tail letters
  | letter :: letters => do
      turnLetter letter isOn
      startLetters isOn following letters

/-
  Read the options of the command line.  The first argument
  bounds the number of steps.
-/
def startOptions :
    Nat → List Text → Act Invocation
  | 0, args => return { rest := args }
  | fuel + 1, args => do
      match args with
      | ['-'] :: rest => return { rest := rest }
      | ['-', '-'] :: rest => return { rest := rest }
      | (sign :: letters) :: rest =>
          if sign = '-' || sign = '+' then
            let first ← startLetters (sign = '-') rest letters
            let later ← startOptions fuel first.rest
            return { later with
              isArgument := first.isArgument || later.isArgument }
          else
            return { rest := args }
      | _ => return { rest := args }

end Sh

end Posix

end LineShell

------------------------------------------------------------
-- The First State
------------------------------------------------------------

namespace LineShell

namespace Posix

namespace Sh

/- The variables that the environment gives. -/
def imported
    (environment : Environment) : Table Variable :=
  Table.ofList <|
    (environment.filter fun (name, _) => isName name).map
      fun (name, value) =>
        (name, { setting := some value, isExported := true })

/- The variables that a script always starts with. -/
def State.withStandard
    (s : State) : State :=
  let always : List (String × Text) :=
    [("IFS", standardSeparators), ("OPTIND", "1"),
      ("PPID", Text.ofNat s.process.parent)]
  let byDefault : List (String × Text) :=
    [("PATH", standardSearchPath), ("PS1", "# "), ("PS2", "> "),
      ("PS4", "+ ")]
  let fixed := always.foldl
    (fun (s : State) (name, value) =>
      let v := (s.entry? name.toList).getD {}
      s.setVariable name.toList { v with setting := some value })
    s
  byDefault.foldl
    (fun (s : State) (name, value) =>
      if (s.entry? name.toList).isSome then
        s
      else
        s.setVariable name.toList { setting := some value })
    fixed

/- Whether a path leads to the working directory. -/
def leadsHere
    (s : System)
    (path : Text) : Bool :=
  Text.beginsWith '/' path &&
    match s.tree.resolve true (Text.ofOctets path) with
    | .ok id => id = s.tree.here
    | .error _ => false

/- Set the variables that the shell starts with. -/
def prepare : Act Unit := do
  modify State.withStandard
  let s ← get
  modify fun s => { s with name := "sh" }
  setDirectory ((s.value? "PWD").filter (leadsHere s.system))
  modify fun after => { after with name := s.name }

/- The state of a script before it is prepared. -/
def initialState
    (p : Process)
    (s : System) : State :=
  { system := s
    process := p
    number := p.number
    name := p.name
    settings := imported p.environment }

end Sh

end Posix

end LineShell

------------------------------------------------------------
-- Running
------------------------------------------------------------

namespace LineShell

namespace Posix

namespace Sh

/- Give a script its name and its parameters. -/
def setArguments : List Text → Act Unit
  | [] => return
  | name :: parameters =>
      modify fun s =>
        { s with name := name, parameters := parameters }

/- How often the end of a script may have to be repeated. -/
def mostEnds : Nat :=
  50

/- Tell how to leave, as often as the end is ignored. -/
def ignoreEnd : Act Unit :=
  tell (List.replicate mostEnds
    "\nUse \"exit\" to leave shell.\n".toList).flatten

/- Run a text that was read as a script. -/
def runScript
    (calls : Calls)
    (text : Text) : Act Unit := do
  let shown := text.filter (· != nul)
  let _ ← runLines calls {} .script (shown.length + 2) 0
    { rest := shown }
  if (← get).skipping = .none && (← hasOption 'I') then
    ignoreEnd
  endReturn

/- Run what the standard input holds as a script. -/
def runInput
    (calls : Calls) : Act Unit := do
  turnOption 's' true
  settleJobControl
  let s ← get
  match s.process.receive 0 s.system with
  | .ok (text, system) =>
      set { s with system := system }
      runScript calls text
  | .error _ => return

/- Run the script that the arguments mean. -/
def runArguments
    (calls : Calls)
    (args : List Text) : Act Unit := do
  let given ← startOptions (args.length + 1) args
  let readsInput := (← get).options.contains 's'
  match given.isArgument, given.rest with
  | true, [] => fail "-c requires an argument"
  | true, script :: operands =>
      setArguments operands
      settleJobControl
      let _ ← runText calls script
      endReturn
      if readsInput then
        runInput calls
  | false, [] => runInput calls
  | false, operand :: operands =>
      if readsInput then
        modify fun s =>
          { s with parameters := operand :: operands }
        runInput calls
      else
        let text ← scriptText operand
        setArguments (operand :: operands)
        settleJobControl
        runScript calls text

/-
  The shell as a program, given how programs are run and how
  deep commands can be nested.
-/
def run
    (execute : Process → Text → System →
      Except Errno (Ending × System))
    (depth : Nat) : Body :=
  fun p s =>
    let calls : Calls := ⟨runWithin execute depth, execute⟩
    let body : Act Unit := do
      prepare
      runArguments calls p.argv.tail
    let (ending, after) := conclude calls body (initialState p s)
    (ending, after.system)

end Sh

end Posix

end LineShell
