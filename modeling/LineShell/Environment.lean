import LineShell.Path
import LineShell.Table
import LineShell.Text.Decimal

/-
  Environment variables.

  Main declarations:
    * `Environment`
    * `Environment.assign`
    * `Environment.describe`
-/

------------------------------------------------------------
-- Variables
------------------------------------------------------------

namespace LineShell

/- The variables that are set, with their values. -/
abbrev Environment :=
  Table Text

namespace Environment

/- The value of a variable. -/
def get?
    (environment : Environment)
    (name : Text) : Option Text :=
  Table.find? name environment

/- Set a variable, or unset it. -/
def assign
    (environment : Environment)
    (name : Text) : Option Text → Environment
  | none => Table.erase name environment
  | some setting => Table.put name setting environment

/- The search path for executables. -/
def searchPath
    (environment : Environment) : Option Text :=
  environment.get? "PATH"

/- The home directory. -/
def home
    (environment : Environment) : Option Path :=
  environment.get? "HOME"

/- A short description that shows no value. -/
def describe
    (environment : Environment) : Text :=
  "Environment(" ++ Text.ofNat environment.length ++
    " variables)"

end Environment

end LineShell
