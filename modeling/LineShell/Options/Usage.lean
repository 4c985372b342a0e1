import LineShell.Options.Basic
import LineShell.Text.Wrapped

/-
  The texts that tell how the program is used, laid out for a
  terminal of a given number of columns.

  Main declarations:
    * `Usage.columns`
    * `Usage.usage`
    * `Usage.help`
    * `Usage.version`
    * `Usage.error`
-/

------------------------------------------------------------
-- Wording
------------------------------------------------------------

namespace LineShell

namespace Flag

/- What stands for the value of an option. -/
def placeholder :
    Flag → Text
  | line => "LINE"
  | prompt => "PROMPT"
  | flag =>
      "\x7b" ++ [','].intercalate flag.choices ++ "\x7d"

/- A spelling of an option with its value, if it takes one. -/
def form
    (flag : Flag)
    (spelling : Text) : Text :=
  if flag.takesValue then
    spelling ++ ' ' :: flag.placeholder
  else
    spelling

/- An option as the usage line shows it. -/
def bracketed
    (flag : Flag) : Text :=
  "[" ++ flag.form (flag.spellings.headD []) ++ "]"

/- An option as its description shows it. -/
def forms
    (flag : Flag) : Text :=
  Text.commaSeparated (flag.spellings.map flag.form)

/- What an option does. -/
def summary :
    Flag → Text
  | help => "show this help message and exit"
  | line => "execute a single command line and exit"
  | prompt => "prompt string (default: \"$ \")"
  | spawner => "how external programs are started"
  | level => "logging threshold (default: WARNING)"
  | verbose => "shorthand for --log-level DEBUG"
  | version => "show program's version number and exit"

end Flag

namespace Usage

/- The name of the program. -/
def programName : Text :=
  "tinysh"

/- What the program is. -/
def description : Text :=
  "A minimal interactive command interpreter."

/- The release of the program. -/
def release : Text :=
  "0.1.0"

end Usage

end LineShell

------------------------------------------------------------
-- Layout
------------------------------------------------------------

namespace LineShell

namespace Usage

/-
  The columns of a terminal: as many as the environment says,
  if that is a positive integer.
-/
def columns
    (environment : Environment) : Nat :=
  match (environment.get? "COLUMNS").bind Text.integer? with
  | some (.ofNat (n + 1)) => n + 1
  | _ => 80

/- The width of a text, two columns less than the terminal. -/
def textWidth
    (columns : Nat) : Nat :=
  columns - 2

/- The usage of the program, in as many lines as it takes. -/
def usage
    (columns : Nat) : Text :=
  let start : Text := "usage: "
  let width := textWidth columns
  let parts := Flag.all.map Flag.bracketed
  let whole := start ++ Text.unwords (programName :: parts)
  let margin := start.length + programName.length
  Text.unlines <|
    if whole.length ≤ width then
      [whole]
    else if 4 * margin ≤ 3 * width then
      let indent := Text.spaces (margin + 1)
      Text.packed width indent start [] (programName :: parts)
    else
      let indent := Text.spaces start.length
      (start ++ programName) ::
        Text.packed width indent indent [] parts

/- The column in which the summaries of options begin. -/
def summaryColumn
    (columns : Nat) : Nat :=
  let longest := (Flag.all.map (·.forms.length + 4)).foldl max 0
  min longest (min 24 (max (textWidth columns - 20) 4))

/- The lines that describe an option. -/
def describe
    (columns : Nat)
    (flag : Flag) : List Text :=
  let column := summaryColumn columns
  let lines :=
    Text.wrap (max (textWidth columns - column) 11) flag.summary
  let indented := lines.map (Text.spaces column ++ ·)
  let head := Text.spaces 2 ++ flag.forms
  if flag.forms.length ≤ column - 4 then
    (Text.padRight column head ++ lines.headD []) ::
      indented.tail
  else
    head :: indented

/- The help of the program. -/
def help
    (columns : Nat) : Text :=
  usage columns ++ "\n" ++
    Text.unlines
      (Text.wrap (max (textWidth columns) 11) description) ++
    "\noptions:\n" ++
    Text.unlines (Flag.all.flatMap (describe columns))

/- The name and the release of the program. -/
def version
    (columns : Nat) : Text :=
  Text.unlines <|
    Text.wrap (max (textWidth columns) 11) <|
      programName ++ ' ' :: release

/- The report of a fault in the command line. -/
def error
    (columns : Nat)
    (fault : UsageFault) : Text :=
  usage columns ++ programName ++ ": error: " ++
    fault.message ++ "\n"

end Usage

end LineShell
