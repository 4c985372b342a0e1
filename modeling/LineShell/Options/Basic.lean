import LineShell.Config

/-
  The options of the command line.

  Main declarations:
    * `Flag`
    * `Flag.spellings`
    * `Flag.convert`
    * `UsageFault`
    * `UsageFault.message`
    * `Given`
    * `Selection`
    * `Stop`
-/

------------------------------------------------------------
-- Flags
------------------------------------------------------------

namespace LineShell

/- The options that can be given. -/
inductive Flag where
  | help
  | line
  | prompt
  | spawner
  | level
  | verbose
  | version
  deriving DecidableEq, Repr

namespace Flag

/- The options in the order in which they are described. -/
def all :
    List Flag :=
  [help, line, prompt, spawner, level, verbose, version]

/- How an option is spelled; a short spelling comes first. -/
def spellings :
    Flag → List Text
  | help => ["-h", "--help"]
  | line => ["-c"]
  | prompt => ["--prompt"]
  | spawner => ["--spawner"]
  | level => ["--log-level"]
  | verbose => ["-v", "--verbose"]
  | version => ["--version"]

/- Whether an option takes a value. -/
def takesValue :
    Flag → Bool
  | line => true
  | prompt => true
  | spawner => true
  | level => true
  | _ => false

/- The values that an option is limited to, if it is. -/
def choices :
    Flag → List Text
  | spawner => SpawnMethod.all.map (·.name)
  | level => Level.all.map (·.name)
  | _ => []

/- The form in which a value is compared and kept. -/
def convert :
    Flag → Text → Text
  | level, given => Text.upper given
  | _, given => given

/- All spellings of an option, as error messages show it. -/
def title
    (flag : Flag) : Text :=
  ['/'].intercalate flag.spellings

/- The option of an exact spelling. -/
def spelled?
    (spelling : Text) : Option Flag :=
  all.find? (·.spellings.contains spelling)

/- Every spelling with its option. -/
def allSpellings :
    List (Text × Flag) :=
  all.flatMap fun flag =>
    flag.spellings.map (·, flag)

end Flag

end LineShell

------------------------------------------------------------
-- Faults
------------------------------------------------------------

namespace LineShell

/- What can be wrong with a command line. -/
inductive UsageFault where
  | ambiguous (given : Text) (matching : List Text)
  | expectedValue (flag : Flag)
  | ignoredValue (flag : Flag) (given : Text)
  | invalidChoice (flag : Flag) (given : Text)
  | unrecognized (given : List Text)
  | badConfig (fault : Fault)
  deriving DecidableEq, Repr

namespace UsageFault

/- The text that names the option at fault. -/
def ofFlag
    (flag : Flag)
    (message : Text) : Text :=
  "argument " ++ flag.title ++ ": " ++ message

/- The text of a fault. -/
def message :
    UsageFault → Text
  | ambiguous given matching =>
      "ambiguous option: " ++ given ++ " could match " ++
        Text.commaSeparated matching
  | expectedValue flag =>
      ofFlag flag "expected one argument"
  | ignoredValue flag given =>
      ofFlag flag <|
        "ignored explicit argument " ++ Text.quoted given
  | invalidChoice flag given =>
      ofFlag flag <|
        "invalid choice: " ++ Text.quoted given ++
          " (choose from " ++
          Text.commaSeparated (flag.choices.map Text.quoted) ++
          ")"
  | unrecognized given =>
      "unrecognized arguments: " ++ Text.unwords given
  | badConfig fault => fault.message

end UsageFault

end LineShell

------------------------------------------------------------
-- Selections
------------------------------------------------------------

namespace LineShell

/-
  What an option brings: a text, or nothing if two dashes alone
  stand in its place.
-/
inductive Given where
  | nothing
  | text (text : Text)
  deriving DecidableEq, Repr

namespace Given

/- The value of an option that a text is. -/
def ofText
    (given : Text) : Given :=
  if given = ['-', '-'] then nothing else text given

/- The text of a value that is one. -/
def text? :
    Given → Option Text
  | nothing => none
  | text given => some given

end Given

/- What the options of a command line select. -/
structure Selection where
  line : Option Given := none
  prompt : Option Given := none
  spawner : Option Given := none
  level : Option Given := none
  verbose : Bool := false
  deriving DecidableEq, Repr

/- Why the reading of options ends before the last. -/
inductive Stop where
  | help
  | version
  | fault (fault : UsageFault)
  deriving DecidableEq, Repr

namespace Selection

/- The settings that override those of the environment. -/
def overrides
    (selection : Selection) : Overrides :=
  ⟨selection.prompt.bind Given.text?,
    selection.spawner.bind Given.text?,
    if selection.verbose then
      some Level.debug.name
    else
      selection.level.bind Given.text?⟩

/- Whether the level is given without a text, and counts. -/
def lacksLevel
    (selection : Selection) : Bool :=
  !selection.verbose && selection.level == some .nothing

/- Take an option without a value. -/
def takeSwitch
    (selection : Selection) : Flag → Except Stop Selection
  | .help => .error .help
  | .version => .error .version
  | .verbose => .ok { selection with verbose := true }
  | _ => .ok selection

/- Keep the value of an option; a later value wins. -/
def keep
    (selection : Selection)
    (value : Given) : Flag → Selection
  | .line => { selection with line := some value }
  | .prompt => { selection with prompt := some value }
  | .spawner => { selection with spawner := some value }
  | .level => { selection with level := some value }
  | _ => selection

/-
  Take an option with its value, if it is a valid choice or
  none at all.
-/
def takeValue
    (selection : Selection)
    (flag : Flag)
    (given : Text) : Except Stop Selection :=
  match Given.ofText given with
  | .nothing => .ok (selection.keep .nothing flag)
  | .text given =>
      let value := flag.convert given
      if flag.choices.isEmpty || flag.choices.contains value then
        .ok (selection.keep (.text value) flag)
      else
        .error (.fault (.invalidChoice flag value))

/- Take options without values, in order. -/
def takeSwitches
    (selection : Selection)
    (flags : List Flag) : Except Stop Selection :=
  flags.foldlM takeSwitch selection

end Selection

end LineShell
