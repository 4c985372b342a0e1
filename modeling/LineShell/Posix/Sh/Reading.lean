import LineShell.Posix.Sh.Fields
import LineShell.Posix.Sh.Settings

/-
  Reading a line into variables, and options from parameters.

  A line is cut much as other values are, but the last
  variable gets all that is left, without the white space at
  its end.

  Main declarations:
    * `Posix.Sh.LineCut.parts`
    * `Posix.Sh.readVariables`
    * `Posix.Sh.nextOption`
    * `Posix.Sh.readOption`
-/

------------------------------------------------------------
-- Cutting a Line
------------------------------------------------------------

namespace LineShell

namespace Posix

namespace Sh

/-
  A line that is being cut: the fields so far, what is read of
  the next one, how much of that is kept if nothing more
  comes, whether the last separator was white space, and how
  many fields may still be cut off.
-/
structure LineCut where
  fields : List Text := []
  field : Text := []
  kept : Option Nat := none
  afterSpace : Bool := false
  left : Nat

namespace LineCut

/- Take a character that does not separate here. -/
def extend
    (cut : LineCut)
    (c : Char) : LineCut :=
  { cut with field := cut.field ++ [c], afterSpace := false }

/- Take a character into the last field. -/
def extendLast
    (separators : Separators)
    (cut : LineCut)
    (c : Char) : LineCut :=
  let field := cut.field ++ [c]
  if separators.isSpace c then
    { cut with
      field := field
      kept := cut.kept <|> some cut.field.length }
  else
    let stays := separators.isMark c && cut.afterSpace
    { cut with
      field := field
      afterSpace := false
      kept := if stays then cut.kept else none }

/- Take a character that separates two fields. -/
def divide
    (cut : LineCut)
    (isSpace : Bool)
    (c : Char) : LineCut :=
  if cut.field.isEmpty && isSpace then
    cut
  else if cut.left = 1 then
    { cut with
      field := cut.field ++ [c]
      kept := some cut.field.length
      afterSpace := isSpace
      left := 0 }
  else
    { cut with
      fields := cut.fields ++ [cut.field]
      field := []
      afterSpace := isSpace
      left := cut.left - 1 }

/- Take the next atom of a line. -/
def take
    (separators : Separators)
    (cut : LineCut) : Atom → LineCut
  | .keep glyph => { cut with field := cut.field ++ [glyph.char] }
  | .loose c =>
      let isSpace := separators.isSpace c
      let isMark := separators.isMark c
      if cut.left = 0 then
        extendLast separators cut c
      else if cut.afterSpace then
        if isSpace then
          cut
        else if isMark then
          { cut with afterSpace := false }
        else
          cut.extend c
      else if isSpace || isMark then
        cut.divide isSpace c
      else
        cut.extend c
  | _ => { cut with afterSpace := false }

/- The fields of a line, at most so many. -/
def parts
    (separators : Separators)
    (most : Nat)
    (atoms : List Atom) : List Text :=
  let cut := atoms.foldl (take separators) { left := most }
  let last :=
    match cut.kept with
    | some length => cut.field.take length
    | none => cut.field
  cut.fields ++ if last.isEmpty then [] else [last]

end LineCut

end Sh

end Posix

end LineShell

------------------------------------------------------------
-- Reading a Line
------------------------------------------------------------

namespace LineShell

namespace Posix

namespace Sh

/- Take one character from the standard input. -/
def takeChar : Act (Option Char) := do
  let s ← get
  match s.process.receive 0 s.system (some 1) with
  | .ok (c :: _, system) =>
      set { s with system := system }
      return some c
  | _ => return none

/-
  Take a line from the standard input; it is told whether it
  was ended.  A backslash makes the next character mean
  itself, and joins two lines, unless that is not wanted.  The
  first argument bounds the number of steps.
-/
def takeLineWithin
    (isRaw : Bool) : Nat → Act (List Atom × Bool)
  | 0 => return ([], false)
  | fuel + 1 => do
      match ← takeChar with
      | none => return ([], false)
      | some '\n' => return ([], true)
      | some c =>
          let escaped ←
            if c = '\\' && !isRaw then
              takeChar
            else
              pure (some c)
          let atoms : List Atom :=
            if c = '\\' && !isRaw then
              match escaped with
              | some '\n' => [.edge false]
              | some c =>
                  [.edge false, .keep ⟨true, c⟩, .edge false]
              | none => []
            else if c = nul then
              []
            else
              [.loose c]
          let (rest, isEnded) ← takeLineWithin isRaw fuel
          return (atoms ++ rest, isEnded)

/- How much can be read from the standard input. -/
def inputLength : Act Nat := do
  let s ← get
  match s.process.receive 0 s.system with
  | .ok (octets, _) => return octets.length
  | .error _ => return 0

/- Give variables the fields of a line, as far as they go. -/
def assignFields : List Text → List Text → Act Unit
  | [], _ => return
  | name :: names, fields => do
      requireName name
      assignVariable name (fields.headD [])
      assignFields names fields.tail

/- Read a line into variables. -/
def readVariables
    (args : List Text) : Act Nat := do
  let (options, names) ← readOptions "p:r" args
  if names.isEmpty then
    fail "arg count"
  let isRaw := options.any (·.1 == 'r')
  let (atoms, isEnded) ←
    takeLineWithin isRaw ((← inputLength) + 1)
  let separators := ⟨(← get).separators⟩
  assignFields names
    (LineCut.parts separators names.length atoms)
  return if isEnded then 0 else 1

end Sh

end Posix

end LineShell

------------------------------------------------------------
-- Options of a Script
------------------------------------------------------------

namespace LineShell

namespace Posix

namespace Sh

/-
  What came of looking for the next option: its letter, its
  argument if it takes one, what is to be said, and how far
  the reading got.
-/
structure OptionFound where
  letter : Char
  argument : Option Text
  complaint : Text := []
  isOver : Bool := false
  index : Nat
  offset : Option Nat := none

/- An option that is wrong, said aloud or in the variables. -/
def OptionFound.wrong
    (isQuiet : Bool)
    (sign : Char)
    (letter : Char)
    (complaint : Text)
    (index : Nat)
    (offset : Option Nat) : OptionFound :=
  if isQuiet then
    ⟨sign, some [letter], [], false, index, offset⟩
  else
    ⟨'?', none, complaint, false, index, offset⟩

/- The option at a letter of an argument. -/
def optionAt
    (allowed : Text)
    (args : List Text)
    (index : Nat)
    (offset : Nat)
    (letter : Char)
    (letters : Text) : OptionFound :=
  let isQuiet := Text.beginsWith ':' allowed
  let after := some (offset + 1)
  match allowedOption? letter allowed with
  | none =>
      OptionFound.wrong isQuiet '?' letter
        ("Illegal option -".toList ++ [letter, '\n'])
        index after
  | some false => ⟨letter, some [], [], false, index, after⟩
  | some true =>
      if !letters.isEmpty then
        ⟨letter, some letters, [], false, index, none⟩
      else
        match args[index - 1]? with
        | some argument =>
            ⟨letter, some argument, [], false, index + 1, none⟩
        | none =>
            OptionFound.wrong isQuiet ':' letter
              ("No arg for -".toList ++ [letter] ++
                " option\n".toList)
              index none

/-
  The next option among arguments, given the number of the
  argument to go on with, and how much was read of the one
  before.
-/
def nextOption
    (allowed : Text)
    (args : List Text)
    (index : Nat)
    (offset : Option Nat) : OptionFound :=
  let current : Text :=
    match offset with
    | some n =>
        if 2 ≤ index then
          ((args[index - 2]?).getD []).drop n
        else
          []
    | none => []
  match current with
  | letter :: letters =>
      optionAt allowed args index (offset.getD 0) letter letters
  | [] =>
      match args[index - 1]? with
      | some ['-', '-'] =>
          ⟨'?', none, [], true, index + 1, none⟩
      | some ('-' :: letter :: letters) =>
          optionAt allowed args (index + 1) 1 letter letters
      | _ => ⟨'?', none, [], true, index, none⟩

/- Set the variable of a name to a number, and no more. -/
def noteIndex
    (index : Nat) : Act Unit :=
  modify fun s =>
    let v := (s.entry? "OPTIND").getD {}
    s.setVariable "OPTIND"
      { v with setting := some (Text.ofNat index) }

/- Read the next option of a script. -/
def readOption
    (args : List Text) : Act Nat := do
  let (_, operands) ← readOptions [] args
  match operands with
  | allowed :: name :: given => do
      let s ← get
      let args := if given.isEmpty then s.parameters else given
      let isStale := args.length + 1 < s.optionIndex
      let found :=
        if isStale then
          nextOption allowed args 1 none
        else
          nextOption allowed args s.optionIndex s.optionOffset
      tell found.complaint
      if !found.isOver then
        match found.argument with
        | some argument => assignVariable "OPTARG" argument
        | none => forgetVariable "OPTARG"
      noteIndex found.index
      requireName name
      assignVariable name [found.letter]
      modify fun s =>
        { s with
          optionIndex := found.index
          optionOffset := found.offset }
      return if found.isOver then 1 else 0
  | _ => fail "Usage: getopts optstring var [arg...]"

end Sh

end Posix

end LineShell
