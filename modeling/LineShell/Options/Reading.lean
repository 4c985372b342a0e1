import LineShell.Options.Basic

/-
  Reading the arguments of a command line.

  Every argument is classified first, then the options are
  taken in order.  A long option may be abbreviated and may
  have its value behind an equals sign; short options may
  stand together, the last of them with its value.  Whatever
  is neither an option nor a value is not recognized.

  Main declarations:
    * `Argument`
    * `Argument.classify`
    * `Argument.classifyAll`
    * `cluster`
    * `Selection.consume`
    * `Selection.read`
-/

------------------------------------------------------------
-- Classes of Arguments
------------------------------------------------------------

namespace LineShell

/- What an argument can be, by its form. -/
inductive Argument where
  /- A text that can be the value of an option. -/
  | operand
  /- The two dashes after which all arguments are operands. -/
  | separator
  /- An option as spelled out, perhaps with a value. -/
  | option (flag : Flag) (spelling : Text)
      (value : Option Text)
  /- A text in the form of an option that is none. -/
  | stranger
  deriving DecidableEq, Repr

namespace Argument

/- Digits with at most one point, a digit after it. -/
def isUnsignedNumber
    (t : Text) : Bool :=
  let whole := t.takeWhile Text.isDecimalDigit
  match t.dropWhile Text.isDecimalDigit with
  | [] => !whole.isEmpty
  | '.' :: places =>
      !places.isEmpty && places.all Text.isDecimalDigit
  | _ => false

/-
  Whether an argument looks like a negative number.  A line
  feed may follow the number.
-/
def isNegativeNumber :
    Text → Bool
  | '-' :: rest =>
      isUnsignedNumber <|
        if Text.endsWith '\n' rest then
          rest.dropLast
        else
          rest
  | _ => false

/- A text cut at its first equals sign. -/
def splitValue
    (t : Text) : Text × Option Text :=
  match t.dropWhile (· != '=') with
  | [] => (t, none)
  | _ :: value => (t.takeWhile (· != '='), some value)

/- The long options that an abbreviation can stand for. -/
def longMatches
    (given : Text) : List Argument × List Text :=
  let (stem, value) := splitValue given
  let found :=
    Flag.allSpellings.filter fun entry =>
      stem.isPrefixOf entry.1
  (found.map fun entry => option entry.2 entry.1 value,
    found.map (·.1))

/- The short option that an argument begins with. -/
def shortMatch?
    (dash letter : Char)
    (rest : Text) : Option Argument :=
  (Flag.spelled? [dash, letter]).map fun flag =>
    option flag [dash, letter] (some rest)

/- The class of an argument that spells out no option. -/
def classifyOther
    (given : Text) : Argument :=
  if isNegativeNumber given || given.contains ' ' then
    operand
  else
    stranger

/- The class of an argument that begins with a dash. -/
def classifyDashed
    (given : Text) :
    Text → Except UsageFault Argument
  | [] => .ok operand
  | '-' :: _ =>
      match longMatches given with
      | ([], _) => .ok (classifyOther given)
      | ([found], _) => .ok found
      | (_, spellings) => .error (.ambiguous given spellings)
  | letter :: rest =>
      match shortMatch? '-' letter rest with
      | some found => .ok found
      | none => .ok (classifyOther given)

/-
  The class of an argument before any separator.  An exact
  spelling wins, then an exact spelling with a value behind an
  equals sign, then an abbreviation.
-/
def classify
    (given : Text) : Except UsageFault Argument :=
  match given with
  | '-' :: rest =>
      match Flag.spelled? given with
      | some flag => .ok (option flag given none)
      | none =>
          let (stem, value) := splitValue given
          match value, Flag.spelled? stem with
          | some value, some flag =>
              .ok (option flag stem (some value))
          | _, _ => classifyDashed given rest
  | _ => .ok operand

/- Every argument with its class. -/
def classifyAll :
    List Text → Except UsageFault (List (Text × Argument))
  | [] => .ok []
  | given :: rest =>
      if given = ['-', '-'] then
        .ok ((given, separator) :: rest.map (·, operand))
      else do
        let first ← classify given
        let later ← classifyAll rest
        return (given, first) :: later

end Argument

end LineShell

------------------------------------------------------------
-- Options That Stand Together
------------------------------------------------------------

namespace LineShell

/-
  Take apart an option with text behind it: the switches in
  front, the last option, and the value that is left for it.
  Only short switches can have other options behind them.
-/
def cluster
    (flag : Flag)
    (spelling : Text) :
    Text → Except UsageFault (List Flag × Flag × Option Text)
  | [] =>
      if flag.takesValue then
        .ok ([], flag, some [])
      else
        .error (.ignoredValue flag [])
  | c :: rest =>
      if flag.takesValue then
        .ok ([], flag, some (c :: rest))
      else if spelling[1]? = some '-' then
        .error (.ignoredValue flag (c :: rest))
      else
        match Flag.spelled? ['-', c] with
        | none => .error (.ignoredValue flag (c :: rest))
        | some next =>
            if rest.isEmpty then
              .ok ([flag], next, none)
            else do
              let (switches, last, value) ←
                cluster next ['-', c] rest
              return (flag :: switches, last, value)

end LineShell

------------------------------------------------------------
-- Taking Options in Order
------------------------------------------------------------

namespace LineShell

namespace Selection

/- The parts of an option, with a value if it brings one. -/
def parts
    (flag : Flag)
    (spelling : Text) :
    Option Text →
      Except Stop (List Flag × Flag × Option Text)
  | none => .ok ([], flag, none)
  | some value =>
      (cluster flag spelling value).mapError .fault

/-
  Take the options in order.  An option that needs a value and
  brings none takes the next argument if that is an operand.
  The answer includes the arguments that are not recognized.
-/
def consume
    (selection : Selection) :
    List (Text × Argument) →
      Except Stop (Selection × List Text)
  | [] => .ok (selection, [])
  | (_, .option flag spelling value) :: rest => do
      let (switches, last, value) ← parts flag spelling value
      if last.takesValue then
        match value with
        | some value => do
            let next ← selection.takeSwitches switches
            let next ← next.takeValue last value
            consume next rest
        | none =>
            match rest with
            | (value, .operand) :: rest => do
                let next ← selection.takeSwitches switches
                let next ← next.takeValue last value
                consume next rest
            | _ => .error (.fault (.expectedValue last))
      else do
        let next ← selection.takeSwitches switches
        let next ← next.takeSwitch last
        consume next rest
  | (given, _) :: rest => do
      let (result, strangers) ← consume selection rest
      return (result, given :: strangers)

/- Read all arguments of a command line. -/
def read
    (args : List Text) : Except Stop Selection := do
  let classified ←
    (Argument.classifyAll args).mapError .fault
  let (selection, strangers) ← consume {} classified
  if strangers.isEmpty then
    return selection
  else
    throw (.fault (.unrecognized strangers))

end Selection

end LineShell
