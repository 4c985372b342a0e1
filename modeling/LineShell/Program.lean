import LineShell.Options.Reading
import LineShell.Options.Usage
import LineShell.Shell

/-
  One run of the program from its command line: it reads the
  options, settles the configuration, and executes one line
  or all lines of the standard input.

  Main declarations:
    * `Host`
    * `Startup`
    * `Exit`
    * `Exit.output`
    * `Program.configure`
    * `Program.conclude`
    * `Program.run`
-/

------------------------------------------------------------
-- Starts and Exits
------------------------------------------------------------

namespace LineShell

/-
  A host that offers a machine for every way to start
  children.  `standardInput` is the devices whose standard
  input holds the given text, read to its end or not at all.
-/
structure Host (φ δ : Type) where
  machine : SpawnMethod → Machine φ δ
  standardInput : Text → (isRead : Bool) → δ
  hasFork : Bool := true

/- What one run of the program is given. -/
structure Startup (φ : Type) where
  args : List Text
  environment : Environment
  files : φ
  input : Text := []

/-
  How one run of the program ends: its status, what it did,
  and the level from which it shows its log records.
-/
structure Exit where
  status : Int
  trace : Trace
  threshold : Level := .warning

namespace Exit

/- Write one text and end with a status. -/
def saying
    (channel : Channel)
    (text : Text)
    (status : Int) : Exit :=
  ⟨status, [.wrote channel text, .flushed channel], .warning⟩

/- The text that a descriptor received. -/
def output
    (exit : Exit)
    (time : Text)
    (channel : Channel) : Text :=
  (exit.trace.showingRecords time exit.threshold).delivered
    channel []

end Exit

end LineShell

------------------------------------------------------------
-- Input
------------------------------------------------------------

namespace LineShell

namespace Text

/-
  A text in which every line ends with a line feed alone, and
  not with a carriage return or with both.
-/
def unifyLineEnds :
    Text → Text
  | [] => []
  | '\r' :: '\n' :: rest => '\n' :: unifyLineEnds rest
  | '\r' :: rest => '\n' :: unifyLineEnds rest
  | c :: rest => c :: unifyLineEnds rest

end Text

end LineShell

------------------------------------------------------------
-- Running
------------------------------------------------------------

namespace LineShell

namespace Program

variable {φ δ : Type}

/- An option that has to bring a text brings none. -/
def missingText : Fault :=
  .runtime "option without a text"

/-
  The configuration of a run: that of the environment, with
  the options in its place where they are given.
-/
def configure
    (hasFork : Bool)
    (environment : Environment)
    (selection : Selection) : Except Fault Config := do
  let config ← Config.ofEnvironment hasFork environment
  if selection.spawner = some .nothing then
    throw missingText
  let config ← config.override hasFork selection.overrides
  if selection.lacksLevel then
    throw missingText
  return config

/-
  Execute the line of the options, whose children may read the
  standard input, or else all lines of the standard input,
  which leave nothing to the children.
-/
def interpret
    (host : Host φ δ)
    (startup : Startup φ)
    (config : Config)
    (selection : Selection) : Except Fault Int × Trace :=
  let M := host.machine config.spawner
  match selection.line with
  | some .nothing => (.error missingText, [])
  | some (.text line) =>
      let world : World φ δ :=
        { environment := startup.environment
          files := startup.files
          device := host.standardInput startup.input false }
      let outcome := Shell.execute M line world
      (outcome.result, outcome.trace)
  | none =>
      if selection.prompt = some .nothing then
        (.error missingText, [])
      else
        let world : World φ δ :=
          { environment := startup.environment
            files := startup.files
            device := host.standardInput startup.input true }
        let outcome := Shell.run M config.prompt
          ⟨world, Text.unifyLineEnds startup.input⟩
        (outcome.result, outcome.trace)

/-
  The status of a run, and what it still does.  A request to
  exit sets the status; when the interpreter cannot continue,
  that is also logged.
-/
def conclude :
    Except Fault Int → Int × Trace
  | .ok status => (status, [])
  | .error (.exit code) => (code, [])
  | .error (.fatal text code) =>
      (code, [.logged ⟨.error, .program, text⟩])
  | .error _ => (1, [])

/- Run the program with a valid choice of options. -/
def perform
    (host : Host φ δ)
    (startup : Startup φ)
    (selection : Selection) : Except Fault Exit := do
  let config ←
    configure host.hasFork startup.environment selection
  let (result, trace) :=
    interpret host startup config selection
  let (status, last) := conclude result
  return ⟨status, trace ++ last, config.level⟩

/- How a run ends that finds a fault in its configuration. -/
def refuse
    (columns : Nat)
    (fault : Fault) : Exit :=
  if fault = missingText then
    ⟨1, [], .warning⟩
  else
    Exit.saying .err (Usage.error columns (.badConfig fault)) 2

/- Run the program. -/
def run
    (host : Host φ δ)
    (startup : Startup φ) : Exit :=
  let columns := Usage.columns startup.environment
  match Selection.read startup.args with
  | .error .help => Exit.saying .out (Usage.help columns) 0
  | .error .version =>
      Exit.saying .out (Usage.version columns) 0
  | .error (.fault fault) =>
      Exit.saying .err (Usage.error columns fault) 2
  | .ok selection =>
      match perform host startup selection with
      | .ok exit => exit
      | .error fault => refuse columns fault

end Program

end LineShell
