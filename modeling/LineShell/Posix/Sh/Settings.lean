import LineShell.Posix.Sh.Arguments

/-
  What commands define for the rest of a script: variables,
  parameters, options, aliases, and the mask for new files.

  Main declarations:
    * `Posix.Sh.quotedSetting`
    * `Posix.Sh.declareVariables`
    * `Posix.Sh.unsetNames`
    * `Posix.Sh.declareLocals`
    * `Posix.Sh.setOptions`
    * `Posix.Sh.shiftParameters`
    * `Posix.Sh.aliasNames`
    * `Posix.Sh.setMask`
-/

------------------------------------------------------------
-- Variables
------------------------------------------------------------

namespace LineShell

namespace Posix

namespace Sh

/-
  A text between single quotes; single quotes in it stand
  between double quotes.
-/
def quotedFrom :
    Nat → Text → Text
  | 0, _ => []
  | fuel + 1, t =>
      let quotes := t.takeWhile (· == '\x27')
      let rest := t.drop quotes.length
      let plain := rest.takeWhile (· != '\x27')
      let after := rest.drop plain.length
      let shown : Text :=
        if quotes.isEmpty then []
        else '"' :: quotes ++ ['"']
      if after.isEmpty && plain.isEmpty then
        shown
      else
        shown ++ '\x27' :: plain ++ '\x27' ::
          if after.isEmpty then [] else quotedFrom fuel after

/- A text as it can be read again. -/
def quotedSetting
    (t : Text) : Text :=
  if t.isEmpty then ['\x27', '\x27']
  else quotedFrom (t.length + 1) t

/- Texts in the order of their octets. -/
def sortedTexts
    (texts : List Text) : List Text :=
  texts.mergeSort fun t u => !(decide (u < t))

/- Write variables, each after a word, in order. -/
def putVariables
    (word : Text)
    (chosen : Variable → Bool) : Act Unit := do
  let s ← get
  let names :=
    (s.settings.filter (chosen ·.2)).map (·.1)
  for name in sortedTexts names do
    let value : Text :=
      match s.value? name with
      | some value => '=' :: quotedSetting value
      | none => []
    let lead : Text :=
      if word.isEmpty then [] else word ++ [' ']
    put (lead ++ name ++ value ++ ['\n'])

/- A name and what stands after an equals sign, if anything. -/
def splitSetting
    (t : Text) : Text × Option Text :=
  let name := t.takeWhile (· != '=')
  match t.drop name.length with
  | [] => (name, none)
  | _ :: value => (name, some value)

/- Fail unless a text is the name of a variable. -/
def requireName
    (name : Text) : Act Unit :=
  if isName name then
    return
  else
    fail (name ++ ": bad variable name")

/- Give variables a property, and perhaps a value before. -/
def declareVariables
    (word : Text)
    (chosen : Variable → Bool)
    (declare : Text → Act Unit)
    (args : List Text) : Act Nat := do
  let (options, operands) ← readOptions "p" args
  if operands.isEmpty || !options.isEmpty then
    putVariables word chosen
  else
    for operand in operands do
      let (name, value) := splitSetting operand
      requireName name
      match value with
      | some value => assignVariable name value
      | none => pure ()
      declare name
  return 0

/- Forget variables or functions. -/
def unsetNames
    (args : List Text) : Act Nat := do
  let (options, names) ← readOptions "vf" args
  let isFunction :=
    (options.getLast?).any fun option => option.1 == 'f'
  for name in names do
    if isFunction then
      modify fun s =>
        { s with functions := Table.erase name s.functions }
    else
      requireName name
      forgetVariable name
  return 0

/- Let variables have their values back after a function. -/
def declareLocals
    (args : List Text) : Act Nat := do
  match (← get).saved with
  | [] => fail "not in a function"
  | _ =>
      for operand in args do
        let (name, value) := splitSetting operand
        if name = ['-'] then
          modify fun s =>
            match s.saved with
            | frame :: frames =>
                let letters : Variable :=
                  { setting := some s.options }
                { s with
                  saved :=
                    (frame ++ [(name, some letters)]) :: frames }
            | [] => s
        else
          requireName name
          modify fun s =>
            match s.saved with
            | frame :: frames =>
                if (Table.find? name frame).isSome then
                  s
                else
                  { s with
                    saved :=
                      (frame ++ [(name, s.entry? name)]) ::
                        frames }
            | [] => s
          match value with
          | some value => assignVariable name value
          | none => pure ()
      return 0

/- Let the variables of a frame have their values back. -/
def restored
    (frame : Table (Option Variable))
    (s : State) : State :=
  frame.foldr
    (fun (name, saved) s =>
      if name = ['-'] then
        { s with
          options := (saved.bind (·.setting)).getD s.options }
      else
        let located := if name = "PATH" then [] else s.located
        match saved with
        | some v =>
            { s.setVariable name v with located := located }
        | none =>
            { s with
              settings := Table.erase name s.settings
              located := located })
    s

end Sh

end Posix

end LineShell

------------------------------------------------------------
-- Options and Parameters
------------------------------------------------------------

namespace LineShell

namespace Posix

namespace Sh

/- The options by letter and by name. -/
def optionNames :
    List (Char × String) :=
  [
    ('e', "errexit"), ('f', "noglob"), ('I', "ignoreeof"),
    ('i', "interactive"), ('m', "monitor"), ('n', "noexec"),
    ('s', "stdin"), ('x', "xtrace"), ('v', "verbose"),
    ('V', "vi"), ('E', "emacs"), ('C', "noclobber"),
    ('a', "allexport"), ('b', "notify"), ('u', "nounset"),
    ('p', "privileged"), ('1', "nolog"), ('2', "debug")
  ]

/- Turn an option on or off. -/
def turnOption
    (letter : Char)
    (isOn : Bool) : Act Unit :=
  modify fun s =>
    let others := s.options.filter (· != letter)
    { s with
      options := if isOn then letter :: others else others }

/-
  Turn the control of jobs off again: there is no terminal.
  Parts of a script that are processes of their own leave it.
-/
def settleJobControl : Act Unit := do
  let s ← get
  if s.options.contains 'm' && s.number = s.process.number then
    warn "can't access tty; job control turned off"
    turnOption 'm' false

/- Turn the option of a letter on or off. -/
def turnLetter
    (letter : Char)
    (isOn : Bool) : Act Unit :=
  if letter.isAlpha && optionNames.any (·.1 == letter) then
    turnOption letter isOn
  else
    fail ("Illegal option -".toList ++ [letter])

/- Turn the option of a name on or off. -/
def turnNamed
    (name : Text)
    (isOn : Bool) : Act Unit :=
  match optionNames.find? (·.2.toList == name) with
  | some (letter, _) => turnOption letter isOn
  | none => fail ("Illegal option -o ".toList ++ name)

/- Write which options are on. -/
def putOptions
    (isReadable : Bool) : Act Unit := do
  let s ← get
  if isReadable then
    put "Current option settings\n"
  for (letter, name) in optionNames do
    let isOn := s.options.contains letter
    if isReadable then
      let blanks := List.replicate (16 - name.length) ' '
      put (name.toList ++ blanks ++
        (if isOn then "on\n" else "off\n").toList)
    else
      put ((if isOn then "set -o " else "set +o ").toList ++
        name.toList ++ ['\n'])

/-
  Turn options on or off as letters say; the answer is what
  follows them.  The letter o takes a name from there.
-/
def turnLetters
    (isOn : Bool)
    (following : List Text) : Text → Act (List Text)
  | [] => return following
  | 'o' :: letters => do
      match following with
      | [] => putOptions isOn
      | name :: _ => turnNamed name isOn
      turnLetters isOn following.tail letters
  | letter :: letters => do
      turnLetter letter isOn
      turnLetters isOn following letters

/- Replace the parameters. -/
def setParameters
    (parameters : List Text) : Act Unit :=
  modify fun s =>
    { s with
      parameters := parameters
      optionIndex := 1
      optionOffset := none }

/-
  Turn options on or off, and replace the parameters by what
  follows them.  The first argument bounds the number of
  steps.
-/
def setOptionsWithin :
    Nat → List Text → Act Unit
  | 0, _ => return
  | fuel + 1, args => do
      match args with
      | [] => return
      | ['-'] :: rest =>
          turnOption 'x' false
          turnOption 'v' false
          if !rest.isEmpty then
            setParameters rest
      | ['-', '-'] :: rest => setParameters rest
      | ('-' :: letters) :: rest =>
          setOptionsWithin fuel
            (← turnLetters true rest letters)
      | ('+' :: letters) :: rest =>
          setOptionsWithin fuel
            (← turnLetters false rest letters)
      | _ => setParameters args

/- Turn options on or off, and replace the parameters. -/
def setOptions
    (args : List Text) : Act Nat := do
  if args.isEmpty then
    putVariables [] fun v => v.setting.isSome
  else
    setOptionsWithin (args.length + 1) args
    settleJobControl
  return 0

/- Drop some of the first parameters. -/
def shiftParameters
    (args : List Text) : Act Nat := do
  let n ←
    match args with
    | [] => pure 1
    | t :: _ => numberArgument t
  let s ← get
  if s.parameters.length < n then
    fail "can't shift that many"
  setParameters (s.parameters.drop n)
  return 0

end Sh

end Posix

end LineShell

------------------------------------------------------------
-- Aliases
------------------------------------------------------------

namespace LineShell

namespace Posix

namespace Sh

/- Write an alias. -/
def putAlias
    (name text : Text) : Act Unit :=
  put (name ++ '=' :: quotedSetting text ++ ['\n'])

/- Define or write aliases. -/
def aliasNames
    (args : List Text) : Act Nat := do
  if args.isEmpty then
    for (name, text) in (← get).aliases do
      putAlias name text
    return 0
  let mut status := 0
  for operand in args do
    match splitSetting operand with
    | (name, some text) =>
        modify fun s =>
          { s with aliases := Table.put name text s.aliases }
    | (name, none) =>
        match Table.find? name (← get).aliases with
        | some text => putAlias name text
        | none =>
            tell ("alias: ".toList ++ name ++ " not found\n")
            status := 1
  return status

/- Forget aliases. -/
def unaliasNames
    (args : List Text) : Act Nat := do
  let (options, names) ← readOptions "a" args
  if !options.isEmpty then
    modify fun s => { s with aliases := [] }
    return 0
  let mut status := 0
  for name in names do
    let s ← get
    if (Table.find? name s.aliases).isSome then
      set { s with aliases := Table.erase name s.aliases }
    else
      tell ("unalias: ".toList ++ name ++ " not found\n")
      status := 1
  return status

end Sh

end Posix

end LineShell

------------------------------------------------------------
-- The Mask for New Files
------------------------------------------------------------

namespace LineShell

namespace Posix

namespace Sh

/- The permissions of one group of users, as letters. -/
def permissionLetters
    (bits : Nat) : Text :=
  (if bits &&& 4 != 0 then ['r'] else []) ++
    (if bits &&& 2 != 0 then ['w'] else []) ++
    (if bits &&& 1 != 0 then ['x'] else [])

/- The permissions that a mask leaves, as letters. -/
def maskLetters
    (mask : Nat) : Text :=
  let left := 0o777 - (mask &&& 0o777)
  "u=".toList ++ permissionLetters (left / 64) ++
    ",g=".toList ++ permissionLetters (left / 8 % 8) ++
    ",o=".toList ++ permissionLetters (left % 8)

/- The permissions that a letter of a change stands for. -/
def permissionOf
    (isSomeExecutable : Bool) : Char → Option Nat
  | 'r' => some 0o444
  | 'w' => some 0o222
  | 'x' => some 0o111
  | 'X' => some (if isSomeExecutable then 0o111 else 0)
  | 's' => some 0
  | 't' => some 0
  | _ => none

/- The permissions of users that a letter stands for. -/
def usersOf :
    Char → Option Nat
  | 'u' => some 0o700
  | 'g' => some 0o070
  | 'o' => some 0o007
  | 'a' => some 0o777
  | _ => none

/- The permissions of one group of users for all of them. -/
def copied
    (left : Nat) : Char → Option Nat
  | 'u' => some (left / 64 % 8 * 0o111)
  | 'g' => some (left / 8 % 8 * 0o111)
  | 'o' => some (left % 8 * 0o111)
  | _ => none

/-
  The permissions left after a change for some users.  The
  first argument bounds the number of steps.
-/
def changedBy
    (users : Nat) : Nat → Text → Nat → Option Nat
  | 0, _, _ => none
  | fuel + 1, t, left =>
      match t with
      | [] => some left
      | operator :: rest =>
          let letters := rest.takeWhile fun c =>
            (permissionOf false c).isSome || (copied left c).isSome
          let bits := letters.foldl
            (fun bits c =>
              bits |||
                (((permissionOf (left &&& 0o111 != 0) c) <|>
                  copied left c).getD 0 &&& users)) 0
          let after := rest.drop letters.length
          if operator = '+' then
            changedBy users fuel after (left ||| bits)
          else if operator = '-' then
            changedBy users fuel after (left - (left &&& bits))
          else if operator = '=' then
            changedBy users fuel after
              ((left - (left &&& users)) ||| bits)
          else
            none

/- The permissions left after changes, each for some users. -/
def changedByAll
    (left : Nat) : List Text → Option Nat
  | [] => some left
  | change :: rest => do
      let named := change.takeWhile fun c => (usersOf c).isSome
      let users := named.foldl
        (fun users c => users ||| (usersOf c).getD 0) 0
      let after := change.drop named.length
      if after.isEmpty then
        none
      else
        let left ← changedBy
          (if named.isEmpty then 0o777 else users)
          (after.length + 1) after left
        changedByAll left rest

/- Write or set the mask for new files. -/
def setMask
    (args : List Text) : Act Nat := do
  let (options, operands) ← readOptions "S" args
  let s ← get
  let mask := s.process.mask
  let setTo (mask : Nat) : Act Nat := do
    set { s with process := { s.process with mask := mask } }
    return 0
  match operands with
  | [] =>
      if options.isEmpty then
        put ('0' :: Text.octalDigits 3 mask ++ ['\n'])
      else
        put (maskLetters mask ++ ['\n'])
      return 0
  | t :: _ =>
      if t.any Char.isDigit && (t.head?).any Char.isDigit then
        if t.all fun c => '0' ≤ c && c ≤ '7' then
          setTo (valueOf 8 t % 0o1000)
        else
          illegalNumber t
      else
        let left := 0o777 - (mask &&& 0o777)
        match changedByAll left (t.splitOn ',') with
        | some left => setTo (0o777 - (left &&& 0o777))
        | none => fail ("Illegal mode: " ++ t)

end Sh

end Posix

end LineShell
