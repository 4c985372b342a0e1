import LineShell.Posix.Sh.Arithmetic
import LineShell.Posix.Sh.Fields
import LineShell.Posix.Sh.Script

/-
  Expanding words: tildes, parameters, substitutions and
  arithmetic are replaced, and the fields that come of that
  are completed to names of files.

  Main declarations:
    * `Posix.Sh.Purpose`
    * `Posix.Sh.parameter?`
    * `Posix.Sh.expand`
    * `Posix.Sh.expandToText`
    * `Posix.Sh.expandToPattern`
    * `Posix.Sh.expandToFields`
-/

------------------------------------------------------------
-- Parameters
------------------------------------------------------------

namespace LineShell

namespace Posix

namespace Sh

/- The options that are on, in their own order. -/
def shownOptions
    (options : List Char) : Text :=
  "pubaCEVvxsnmiIfe".toList.filter options.contains

/- The value of a parameter that is one text. -/
def State.parameter?
    (s : State)
    (name : Text) : Option Text :=
  match name with
  | ['#'] => some (Text.ofNat s.parameters.length)
  | ['?'] => some (Text.ofNat s.status)
  | ['$'] => some (Text.ofNat s.number)
  | ['-'] => some (shownOptions s.options)
  | ['!'] => s.background.map Text.ofNat
  | _ =>
      if Text.isNumeral name then
        match Text.numeralValue name with
        | 0 => some s.name
        | n + 1 => s.parameters[n]?
      else
        s.value? name

/- Whether a name stands for all parameters of the script. -/
def isAllName
    (name : Text) : Bool :=
  name == ['@'] || name == ['*']

end Sh

end Posix

end LineShell

------------------------------------------------------------
-- Purposes
------------------------------------------------------------

namespace LineShell

namespace Posix

namespace Sh

/-
  What a word is expanded for: whether it is cut into fields,
  whether tildes after colons count too, and whether the word
  stands in place of a parameter itself.
-/
structure Purpose where
  cuts : Bool
  isValue : Bool := false
  isInside : Bool := false
  deriving DecidableEq, Repr

namespace Purpose

/- Atoms of something that was put in. -/
def putIn
    (purpose : Purpose)
    (isQuoted : Bool)
    (t : Text) : List Atom :=
  if isQuoted then
    Atom.quoted t
  else if purpose.cuts then
    Atom.putIn t
  else
    t.map fun c => .keep ⟨false, c⟩

/- The atom of a character of the word. -/
def char
    (purpose : Purpose)
    (isQuoted : Bool)
    (c : Char) : Atom :=
  if purpose.cuts && purpose.isInside && !isQuoted then
    .loose c
  else
    .keep ⟨isQuoted, c⟩

/-
  What stands between the parameters of the script where all
  of them are put in: nul where fields are cut.
-/
def joint
    (purpose : Purpose)
    (isQuoted : Bool)
    (name : Text)
    (s : State) : Text :=
  let keepsApart :=
    if isQuoted then
      name == ['@']
    else
      (s.value? "IFS").isSome
  if purpose.cuts && keepsApart then [nul] else s.joint

/- The value of a parameter, or of all of them joined. -/
def value
    (purpose : Purpose)
    (isQuoted : Bool)
    (name : Text)
    (s : State) : Option Text :=
  if isAllName name then
    let joint := purpose.joint isQuoted name s
    some (joint.intercalate s.parameters)
  else
    s.parameter? name

/- Atoms of all parameters of the script, joined. -/
def putInAll
    (purpose : Purpose)
    (isQuoted : Bool)
    (name : Text)
    (t : Text) : List Atom :=
  if !purpose.cuts then
    purpose.putIn isQuoted t
  else if !isQuoted then
    Atom.putIn t
  else if name = ['@'] then
    [Atom.cut].intercalate
      ((t.splitOn nul).map fun t => .mark :: Atom.quoted t) ++
      [.edge true]
  else
    Atom.quoted t

end Purpose

/- The home directory of a user. -/
def homeOf?
    (s : State)
    (user : Text) : Option Text :=
  if user.isEmpty then
    s.value? "HOME"
  else if user = "root" then
    some "/root"
  else
    none

/-
  The home directory that a tilde stands for, given the parts
  after it, and how many of these name the user.
-/
def tilde?
    (s : State)
    (isValue : Bool)
    (rest : List Part) : Option (Text × Nat) := do
  let endsName (c : Char) := c == '/' || (isValue && c == ':')
  let name := (rest.map Part.bare?).takeWhile fun c =>
    c.any fun c => !endsName c
  match rest[name.length]? with
  | some (.char true _) => none
  | some .mark => none
  | some (.char false _) => pure ()
  | none => pure ()
  | some _ => none
  let home ← homeOf? s (name.filterMap id)
  return (home, name.length)

end Sh

end Posix

end LineShell

------------------------------------------------------------
-- Substitutions
------------------------------------------------------------

namespace LineShell

namespace Posix

namespace Sh

/- Run something whose standard output is kept. -/
def captured
    (calls : Calls)
    (body : Act Unit) : Act (Text × Ending) := do
  let s ← get
  let (id, system) := s.system.adopt
    { target := .waiting [], reads := true, writes := true }
  set { s with system := system }
  let ending ← inSubshell calls do
    modify fun s =>
      { s with process := s.process.setDescriptor 1 (some id) }
    body
  let after ← get
  match after.system.take id with
  | .ok (text, system) =>
      set { after with system := system }
      return (text, ending)
  | .error _ => return ([], ending)

/- What the commands of a substitution write. -/
def substituted
    (calls : Calls)
    (line : Nat)
    (script : Text) : Act Text := do
  let (text, ending) ← captured calls do
    let status ← runLines calls { isLast := true }
      .substitution (script.length + 2) 0
      { rest := script, line := line }
    setStatus status
  let status ← awaited ending
  modify fun s => { s with outputStatus := status }
  let shown := text.filter (· != nul)
  return (shown.reverse.dropWhile (· == '\n')).reverse

end Sh

end Posix

end LineShell

------------------------------------------------------------
-- Operators
------------------------------------------------------------

namespace LineShell

namespace Posix

namespace Sh

/- Fail for a parameter that is not set. -/
def failUnset
    (name message : Text) : Act α :=
  fail (name ++ ": " ++ message)

/- The value of a parameter that has to be set with option u. -/
def demanded
    (purpose : Purpose)
    (isQuoted : Bool)
    (name : Text) : Act (Option Text) := do
  let s ← get
  match purpose.value isQuoted name s with
  | some value => return some value
  | none =>
      if s.options.contains 'u' then
        failUnset name "parameter not set"
      else
        return none

/-
  Atoms of a parameter with something made of its value.  None
  come of all parameters of the script where there are none.
-/
def valueAtoms
    (purpose : Purpose)
    (isQuoted : Bool)
    (name : Text)
    (change : Text → Text) : Act (List Atom) := do
  match ← demanded purpose isQuoted name with
  | none => return []
  | some value =>
      if !isAllName name then
        return purpose.putIn isQuoted (change value)
      else if (← get).parameters.isEmpty then
        return []
      else
        return purpose.putInAll isQuoted name (change value)

/- Whether a value counts as none. -/
def isAbsent
    (evenEmpty : Bool) : Option Text → Bool
  | none => true
  | some value => evenEmpty && value.isEmpty

/-
  Atoms of a parameter with an operator.  The word after it
  is expanded by the last arguments: for the place where it
  stands, as a text, and as a pattern.
-/
def operatorAtoms
    (purpose : Purpose)
    (isQuoted : Bool)
    (name : Text)
    (operator : Operator)
    (hasWord : Bool)
    (word : Act (List Atom))
    (kept : Act (List Atom)) : Act (List Atom) := do
  let plain := valueAtoms purpose isQuoted name id
  let value? := purpose.value isQuoted name (← get)
  let joined := { purpose with cuts := false }
  match operator with
  | .plain => plain
  | .unknown => fail "Bad substitution"
  | .length =>
      let value ← demanded joined isQuoted name
      let length := (value.getD []).length
      return purpose.putIn isQuoted (Text.ofNat length)
  | .orElse evenEmpty =>
      if isAbsent evenEmpty value? then word else plain
  | .instead evenEmpty =>
      let value? := joined.value isQuoted name (← get)
      if isAbsent evenEmpty value? then return [] else word
  | .assign evenEmpty =>
      if isAbsent evenEmpty value? then
        let value := textOf (← kept)
        if !isName name then
          fail (name ++ ": bad variable name")
        assignVariable name value
        valueAtoms purpose isQuoted name id
      else
        plain
  | .require evenEmpty =>
      if isAbsent evenEmpty value? then
        let message := textOf (← kept)
        if hasWord then
          failUnset name message
        else if evenEmpty then
          failUnset name "parameter not set or null"
        else
          failUnset name "parameter not set"
      else
        plain
  | .withoutEnd longest =>
      if value?.isSome then
        let pattern := patternOf (← kept)
        valueAtoms purpose isQuoted name
          (pattern.withoutEnd longest)
      else
        plain
  | .withoutStart longest =>
      if value?.isSome then
        let pattern := patternOf (← kept)
        valueAtoms purpose isQuoted name
          (pattern.withoutStart longest)
      else
        plain

end Sh

end Posix

end LineShell

------------------------------------------------------------
-- Parts
------------------------------------------------------------

namespace LineShell

namespace Posix

namespace Sh

/-
  Whether quotes hold nothing but all parameters of the script
  one by one: then there is no field if there are none.
-/
def isOnlyAll :
    List Part → Bool
  | .param true ['@'] .plain _ :: .char true _ :: _ => false
  | .param true ['@'] .plain _ :: .param true .. :: _ => false
  | .param true ['@'] .plain _ :: .output true .. :: _ => false
  | .param true ['@'] .plain _ :: .arithmetic true _ :: _ =>
      false
  | .param true ['@'] .plain _ :: _ => true
  | _ => false

mutual

/- The atoms of one part that is more than a character. -/
def expandPart
    (calls : Calls)
    (purpose : Purpose) : Part → Act (List Atom)
  | .char isQuoted c => return [purpose.char isQuoted c]
  | .mark => return [.mark]
  | .param isQuoted name operator word =>
      let inside := { purpose with
        isInside := true, isValue := false }
      operatorAtoms purpose isQuoted name operator
        (!word.isEmpty)
        (expandFrom calls inside 0 true word)
        (expandFrom calls ⟨false, false, true⟩ 0 true word)
  | .output isQuoted line script => do
      return purpose.putIn isQuoted
        (← substituted calls line script)
  | .arithmetic isQuoted expression => do
      let source := textOf
        (← expandFrom calls ⟨false, false, false⟩ 0 false
          expression)
      let n ← evaluate source
      return purpose.putIn isQuoted (Text.ofInt n.toInt)

/-
  The atoms of parts, of which the first few are skipped; it
  is told whether a tilde can come next.
-/
def expandFrom
    (calls : Calls)
    (purpose : Purpose)
    (skip : Nat)
    (isStart : Bool) : List Part → Act (List Atom)
  | [] => return []
  | part :: rest =>
      match skip with
      | skip + 1 => expandFrom calls purpose skip false rest
      | 0 => do
          let s ← get
          let home :=
            match part with
            | .char false '~' =>
                if isStart then
                  tilde? s purpose.isValue rest
                else
                  none
            | _ => none
          match home with
          | some (path, count) =>
              let later ←
                expandFrom calls purpose count false rest
              return Atom.mark :: Atom.quoted path ++ later
          | none =>
              let first ←
                match part with
                | .mark =>
                    if purpose.cuts && isOnlyAll rest then
                      pure []
                    else
                      pure [Atom.mark]
                | part => expandPart calls purpose part
              let startsAgain :=
                match part with
                | .char false ':' => purpose.isValue
                | _ => false
              let later ←
                expandFrom calls purpose 0 startsAgain rest
              return first ++ later

end

/- The atoms of a word. -/
def expand
    (calls : Calls)
    (purpose : Purpose)
    (word : Word) : Act (List Atom) :=
  expandFrom calls purpose 0 true word

/- The text of a word that is not cut. -/
def expandToText
    (calls : Calls)
    (word : Word)
    (isValue : Bool := false) : Act Text := do
  return textOf (← expand calls ⟨false, isValue, false⟩ word)

/- The pattern that a word is. -/
def expandToPattern
    (calls : Calls)
    (word : Word) : Act Pattern := do
  return patternOf (← expand calls ⟨false, false, false⟩ word)

end Sh

end Posix

end LineShell

------------------------------------------------------------
-- Names of Files
------------------------------------------------------------

namespace LineShell

namespace Posix

namespace Sh

/- A name in a path that is a pattern, and the slashes after. -/
structure Step where
  name : Pattern
  slashes : Text

/- The steps of a pattern, given what is read of the first. -/
def stepsFrom
    (step : Step) : Pattern → List Step
  | [] => [step]
  | glyph :: rest =>
      if glyph.char = '/' then
        stepsFrom
          { step with slashes := step.slashes ++ ['/'] } rest
      else if step.slashes.isEmpty then
        stepsFrom
          { step with name := step.name ++ [glyph] } rest
      else
        step :: stepsFrom ⟨[glyph], []⟩ rest

/- The names in the directory at a path. -/
def namesIn
    (tree : Tree)
    (path : Text) : List Text :=
  let path : Path :=
    if path.isEmpty then ['.'] else Text.ofOctets path
  match tree.resolve true path with
  | .error _ => []
  | .ok id =>
      match tree.content id with
      | .directory _ entries =>
          ['.'] :: ['.', '.'] ::
            entries.map fun entry => Text.octets entry.1
      | _ => []

/- The paths that exist and fit, given how they begin. -/
def pathsFrom
    (tree : Tree)
    (path : Text) : List Step → List Text
  | [] =>
      match tree.resolve false (Text.ofOctets path) with
      | .ok _ => [path]
      | .error _ => []
  | step :: rest =>
      if step.name.isActive then
        let showsHidden :=
          (step.name.settled.head?).any (·.char == '.')
        let names := (namesIn tree path).filter fun name =>
          (showsHidden || !Text.beginsWith '.' name) &&
            step.name.fits name
        names.flatMap fun name =>
          pathsFrom tree (path ++ name ++ step.slashes) rest
      else
        let name := step.name.settled.text
        pathsFrom tree (path ++ name ++ step.slashes) rest

/- Whether a text comes before another or is the same. -/
def isBefore : Text → Text → Bool
  | [], _ => true
  | _, [] => false
  | c :: t, d :: u => if c = d then isBefore t u else c < d

/- The names that a field stands for. -/
def completed
    (tree : Tree)
    (field : Pattern) : List Text :=
  let own := field.text
  if field.isActive then
    match pathsFrom tree [] (stepsFrom ⟨[], []⟩ field) with
    | [] => [own]
    | paths => paths.mergeSort isBefore
  else
    [own]

/- The fields of a word. -/
def expandToFields
    (calls : Calls)
    (word : Word) : Act (List Text) := do
  let atoms ← expand calls { cuts := true } word
  let s ← get
  let patterns := fields ⟨s.separators⟩ atoms
  if s.options.contains 'f' then
    return patterns.map (·.text)
  else
    return patterns.flatMap (completed s.system.tree)

end Sh

end Posix

end LineShell
