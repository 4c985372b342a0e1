import LineShell.CommandLine
import LineShell.Invocation

/-
  The shell: it turns a line into an invocation, runs it, and
  loops over its input.

  Main declarations:
    * `Shell.invocation`
    * `Shell.execute`
    * `takeLine`
    * `Console`
    * `Shell.readLine`
    * `Shell.nextLine`
    * `Shell.obey`
    * `Shell.run`
-/

------------------------------------------------------------
-- Executing a Line
------------------------------------------------------------

namespace LineShell

namespace Shell

variable {φ δ : Type}

/-
  The invocation of a command line.  Builtins win over the
  search; a name that is neither has no executor.
-/
def invocation
    (M : Machine φ δ)
    (command : CommandLine) :
    Action (World φ δ) Invocation := do
  match (← Action.get).builtins.builtin? command.name with
  | some builtin =>
      World.log .shell ("dispatching builtin " ++ command.name)
      return ⟨command.name, command.args,
        some (.builtin builtin)⟩
  | none =>
      let path? ← Builtin.findExecutable M command.name
      return ⟨command.name, command.args,
        path?.map .external⟩

/- Run the invocation of a command line. -/
def runCommand
    (M : Machine φ δ)
    (command : CommandLine) : Action (World φ δ) Int := do
  let found ← invocation M command
  let status ← found.run M
  World.remember status
  return status

/-
  Execute one line.  An empty line has the status of the last
  command and does nothing.  Standard output is passed on
  however the command ends.
-/
def execute
    (M : Machine φ δ)
    (line : Text) : Action (World φ δ) Int := do
  match CommandLine.parse? line with
  | none => return (← Action.get).lastStatus
  | some command =>
      World.log .shell
        ("tokens: " ++ Text.quoted command.name ++ " " ++
          Text.quotedList command.args)
      Action.ensuring (runCommand M command)
        (World.flush .out)

end Shell

end LineShell

------------------------------------------------------------
-- Reading a Line
------------------------------------------------------------

namespace LineShell

/-
  The first line of an input, with its line feed if it has
  one, and what comes after it.
-/
def takeLine :
    Text → Text × Text
  | [] => ([], [])
  | c :: rest =>
      if c = '\n' then
        ([c], rest)
      else
        let (line, after) := takeLine rest
        (c :: line, after)

/- Nothing is lost by taking a line. -/
theorem takeLine_append
    (input : Text) :
    (takeLine input).1 ++ (takeLine input).2 = input := by
  induction input with
  | nil => rfl
  | cons c rest ih =>
      by_cases hEq : c = '\n'
      · simp [takeLine, hEq]
      · simp [takeLine, hEq, ih]

/- Only an exhausted input has no line. -/
theorem takeLine_eq_nil_iff
    (input : Text) :
    (takeLine input).1 = [] ↔ input = [] := by
  cases input with
  | nil => simp [takeLine]
  | cons c rest =>
      by_cases hEq : c = '\n'
      · simp [takeLine, hEq]
      · simp [takeLine, hEq]

/- A line that is taken makes the input shorter. -/
theorem takeLine_length_lt
    {input : Text}
    (hInput : input ≠ []) :
    (takeLine input).2.length < input.length := by
  have hLine : (takeLine input).1 ≠ [] := by
    intro hNil
    exact hInput ((takeLine_eq_nil_iff input).1 hNil)
  have hLength :=
    congrArg List.length (takeLine_append input)
  have hPos := List.length_pos_iff.2 hLine
  simp only [List.length_append] at hLength
  omega

/- The world together with the input that is not yet read. -/
structure Console (φ δ : Type) where
  world : World φ δ
  input : Text := []

namespace Console

variable {φ δ α : Type}

/- Act on the world alone. -/
def inWorld
    (m : Action (World φ δ) α) : Action (Console φ δ) α :=
  Action.focus world (fun w c => { c with world := w }) m

end Console

namespace Shell

variable {φ δ : Type}

/- Read one line; at the end of the input there is none. -/
def readLine : Action (Console φ δ) Text :=
  fun c =>
    if c.input.isEmpty then
      ⟨.error .endOfInput, c, [.awaited]⟩
    else
      ⟨.ok (takeLine c.input).1,
        { c with input := (takeLine c.input).2 }, [.awaited]⟩

end Shell

end LineShell

------------------------------------------------------------
-- Rounds of the Loop
------------------------------------------------------------

namespace LineShell

namespace Shell

variable {φ δ : Type}

/- Write the prompt and pass it on. -/
def promptUser
    (prompt : Text) : Action (World φ δ) Unit := do
  World.write .out prompt
  World.flush .out

/- Prompt and read a line, unless the input has ended. -/
def nextLine
    (prompt : Text) :
    Action (Console φ δ) (Option Text) := do
  Console.inWorld (promptUser prompt)
  match ← Action.attempt readLine with
  | .ok line => return some line
  | .error .endOfInput =>
      Console.inWorld (World.log .shell "end of input")
      return none
  | .error fault => Action.raise fault

/-
  Execute a line of the input.  There is an answer if the line
  asks to exit; any other fault is let out.
-/
def obey
    (M : Machine φ δ)
    (line : Text) : Action (World φ δ) (Option Int) := do
  match ← Action.attempt (execute M line) with
  | .ok _ => return none
  | .error (.exit code) =>
      World.log .shell
        ("exit requested with status " ++ Text.ofInt code)
      return some code
  | .error fault => Action.raise fault

/- Only what is read is taken from the input. -/
theorem readLine_input_lt
    {line : Text}
    {c : Console φ δ}
    (hLine : (readLine c).result = .ok line) :
    (readLine c).state.input.length < c.input.length := by
  by_cases hInput : c.input = []
  · simp [readLine, hInput] at hLine
  · simpa [readLine, hInput] using takeLine_length_lt hInput

/- A line that is read makes the input shorter. -/
theorem nextLine_input_lt
    {prompt line : Text}
    {c : Console φ δ}
    (hLine :
      (nextLine prompt c).result = .ok (some line)) :
    (nextLine prompt c).state.input.length <
      c.input.length := by
  let prompted : Console φ δ :=
    { c with world := (promptUser prompt c.world).state }
  cases hPrompt : (promptUser prompt c.world).result with
  | error fault =>
      simp [nextLine, Console.inWorld, Action.focus, hPrompt,
        bind, Action.bind] at hLine
  | ok _ =>
      cases hRead : (readLine prompted).result with
      | ok text =>
          simpa [nextLine, Console.inWorld, Action.focus,
            hPrompt, Action.attempt, hRead, bind, Action.bind,
            pure, Action.pure, prompted]
            using readLine_input_lt hRead
      | error fault =>
          cases fault <;>
            simp [nextLine, Console.inWorld, Action.focus,
              hPrompt, Action.attempt, hRead, World.log,
              Action.emit, Action.raise, bind, Action.bind,
              pure, Action.pure, prompted] at hLine

end Shell

end LineShell

------------------------------------------------------------
-- The Loop
------------------------------------------------------------

namespace LineShell

namespace Outcome

variable {σ α : Type}

/- The outcome of an action whose trace comes after another. -/
def after
    (earlier : Trace)
    (outcome : Outcome σ α) : Outcome σ α :=
  { outcome with trace := earlier ++ outcome.trace }

end Outcome

namespace Shell

variable {φ δ : Type}

/-
  Prompt, read a line and execute it, until the input ends
  with status 0, a line asks to exit with a status, or a line
  lets out another fault.
-/
def run
    (M : Machine φ δ)
    (prompt : Text)
    (c : Console φ δ) : Outcome (Console φ δ) Int :=
  let read := nextLine prompt c
  match hRead : read.result with
  | .error fault => ⟨.error fault, read.state, read.trace⟩
  | .ok none => ⟨.ok 0, read.state, read.trace⟩
  | .ok (some line) =>
      have _hShorter := nextLine_input_lt hRead
      let obeyed := obey M line read.state.world
      let next : Console φ δ :=
        { read.state with world := obeyed.state }
      match obeyed.result with
      | .error fault =>
          ⟨.error fault, next, read.trace ++ obeyed.trace⟩
      | .ok (some code) =>
          ⟨.ok code, next, read.trace ++ obeyed.trace⟩
      | .ok none =>
          Outcome.after (read.trace ++ obeyed.trace)
            (run M prompt next)
termination_by c.input.length
decreasing_by
  assumption

end Shell

end LineShell
