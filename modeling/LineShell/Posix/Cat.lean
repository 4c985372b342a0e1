import LineShell.Posix.Process

/-
  The program that copies files to its standard output, with
  line numbers and visible control characters if it is asked
  for them.

  Main declarations:
    * `Posix.Cat.Style`
    * `Posix.Cat.readArguments`
    * `Posix.Cat.Style.render`
    * `Posix.Cat.run`
-/

------------------------------------------------------------
-- Styles
------------------------------------------------------------

namespace LineShell

namespace Posix

namespace Cat

/- How lines are shown. -/
structure Style where
  numbers : Bool := false
  numbersOnlyText : Bool := false
  squeezes : Bool := false
  marksEnds : Bool := false
  marksTabs : Bool := false
  marksControls : Bool := false
  deriving DecidableEq, Repr

namespace Style

/- A style with one more option, given by its letter. -/
def withLetter?
    (style : Style) : Char → Option Style
  | 'A' => some { style with
      marksEnds := true, marksTabs := true
      marksControls := true }
  | 'b' => some { style with
      numbers := true, numbersOnlyText := true }
  | 'e' => some { style with
      marksEnds := true, marksControls := true }
  | 'E' => some { style with marksEnds := true }
  | 'n' => some { style with numbers := true }
  | 's' => some { style with squeezes := true }
  | 't' => some { style with
      marksTabs := true, marksControls := true }
  | 'T' => some { style with marksTabs := true }
  | 'u' => some style
  | 'v' => some { style with marksControls := true }
  | _ => none

end Style

/- The long names of options, with their letters. -/
def longOptions :
    List (String × Char) :=
  [
    ("number-nonblank", 'b'), ("number", 'n'),
    ("squeeze-blank", 's'), ("show-nonprinting", 'v'),
    ("show-ends", 'E'), ("show-tabs", 'T'), ("show-all", 'A')
  ]

end Cat

end Posix

end LineShell

------------------------------------------------------------
-- Arguments
------------------------------------------------------------

namespace LineShell

namespace Posix

namespace Cat

/- A style and operands, or what is wrong with an option. -/
abbrev Reading :=
  Except Text (Style × List Text)

/- Read letters after a dash. -/
def readLetters
    (style : Style) : Text → Except Text Style
  | [] => .ok style
  | letter :: rest =>
      match style.withLetter? letter with
      | some style => readLetters style rest
      | none =>
          .error <|
            "invalid option -- '".toList ++ [letter] ++ "'"

/- Read a long option without its dashes. -/
def readLong
    (style : Style)
    (given : Text) : Except Text Style :=
  let name := given.takeWhile (· != '=')
  let exact := longOptions.filter (·.1.toList == name)
  let fitting :=
    longOptions.filter fun option =>
      name.isPrefixOf option.1.toList
  match if exact.isEmpty then fitting else exact with
  | [] =>
      .error <| "unrecognized option '--".toList ++ given ++ "'"
  | [option] =>
      if given.contains '=' then
        .error <|
          "option '--".toList ++ option.1.toList ++
            "' doesn't allow an argument"
      else
        .ok ((style.withLetter? option.2).getD style)
  | several =>
      let names : List Text :=
        several.map fun option =>
          " '--".toList ++ option.1.toList ++ "'"
      .error <|
        "option '--".toList ++ given ++
          "' is ambiguous; possibilities:" ++ names.flatten

/-
  Read arguments.  Operands may stand between options, unless
  the first operand ends them.
-/
def readArguments
    (strict : Bool)
    (style : Style)
    (operands : List Text) : List Text → Reading
  | [] => .ok (style, operands)
  | argument :: rest =>
      if argument = ['-', '-'] then
        .ok (style, operands ++ rest)
      else if argument.take 2 = ['-', '-'] then do
        let style ← readLong style (argument.drop 2)
        readArguments strict style operands rest
      else if Text.beginsWith '-' argument &&
          argument ≠ ['-'] then do
        let style ← readLetters style argument.tail
        readArguments strict style operands rest
      else if strict then
        .ok (style, operands ++ argument :: rest)
      else
        readArguments strict style (operands ++ [argument]) rest

end Cat

end Posix

end LineShell

------------------------------------------------------------
-- Rendering
------------------------------------------------------------

namespace LineShell

namespace Posix

namespace Cat

/- A line number with the tab after it. -/
def lineNumber
    (n : Nat) : Text :=
  let digits := Text.ofNat n
  List.replicate (6 - digits.length) ' ' ++ digits ++ ['\t']

/- An octet below 128 with control characters visible. -/
def visibleLow
    (n : Nat) : Text :=
  if n < 0x20 then
    ['^', Char.ofNat (n + 0x40)]
  else if n = 0x7F then
    ['^', '?']
  else
    [Char.ofNat n]

/- An octet with control characters visible. -/
def visible
    (c : Char) : Text :=
  if c = '\t' ∨ c = '\n' then
    [c]
  else if c.toNat < 0x80 then
    visibleLow c.toNat
  else
    'M' :: '-' :: visibleLow (c.toNat - 0x80)

/-
  Where the output stands: the number of the last numbered
  line, and how many line feeds were read since the last other
  octet, or none directly after it.
-/
structure Place where
  line : Nat := 0
  feeds : Option Nat := some 0
  deriving DecidableEq, Repr

namespace Style

/- Whether octets are copied as they are. -/
def isPlain
    (style : Style) : Bool :=
  style == {}

/- An octet that is no line feed. -/
def octet
    (style : Style)
    (c : Char) : Text :=
  if c = '\t' && style.marksTabs then
    ['^', 'I']
  else if style.marksControls then
    visible c
  else
    [c]

/- Octets as they are shown from a place on. -/
def render
    (style : Style)
    (place : Place) : Text → Text × Place
  | [] => ([], place)
  | '\n' :: rest =>
      let feeds :=
        match place.feeds with
        | none => 0
        | some n => n + 1
      if style.squeezes && 2 ≤ feeds then
        render style { place with feeds := some 2 } rest
      else
        let isNumbered :=
          0 < feeds && style.numbers && !style.numbersOnlyText
        let line :=
          if isNumbered then place.line + 1 else place.line
        let (later, last) :=
          render style ⟨line, some (min feeds 2)⟩ rest
        ((if isNumbered then lineNumber line else []) ++
          (if style.marksEnds then ['$'] else []) ++
          '\n' :: later, last)
  | '\r' :: '\n' :: rest =>
      let isNumbered := place.feeds.isSome && style.numbers
      let line :=
        if isNumbered then place.line + 1 else place.line
      let (later, last) :=
        render style ⟨line, none⟩ ('\n' :: rest)
      ((if isNumbered then lineNumber line else []) ++
        (if style.marksEnds || style.marksControls then
          ['^', 'M']
        else
          ['\r']) ++ later, last)
  | c :: rest =>
      let isNumbered := place.feeds.isSome && style.numbers
      let line :=
        if isNumbered then place.line + 1 else place.line
      let (later, last) := render style ⟨line, none⟩ rest
      ((if isNumbered then lineNumber line else []) ++
        style.octet c ++ later, last)

end Style

end Cat

end Posix

end LineShell

------------------------------------------------------------
-- Names in Messages
------------------------------------------------------------

namespace LineShell

namespace Posix

namespace Cat

/- Whether a name with the octet in it needs no quotes. -/
def isPlain
    (c : Char) : Bool :=
  c.isAlphanum || "%+,-./@_]\x7b\x7d~#".toList.contains c

/- Whether the octet can stand between double quotes. -/
def fitsDoubleQuotes
    (c : Char) : Bool :=
  c.isAlphanum || "%+,-./@_]: '".toList.contains c

/- Whether a name can be shown without quotes. -/
def needsNoQuotes
    (name : Text) : Bool :=
  match name with
  | [] => false
  | [c] => isPlain c && !"~#\x7b\x7d".toList.contains c
  | c :: _ =>
      name.all isPlain && c != '~' && c != '#'

/- An octet that is not printed, as an escape. -/
def escape?
    (c : Char) : Option Text :=
  let n := c.toNat
  if 0x20 ≤ n && n < 0x7F then
    none
  else
    match "abtnvfr".toList[n - 7]? with
    | some letter =>
        if n < 7 then
          some ('\\' :: Text.octalDigits 3 n)
        else
          some ['\\', letter]
    | none => some ('\\' :: Text.octalDigits 3 n)

/-
  A name between single quotes, with escapes in quotes of
  their own, and whether it ends in such quotes.  The first
  argument tells whether it starts in them.
-/
def quotedFrom
    (inEscape : Bool) : Text → Text × Bool
  | [] => ([], inEscape)
  | c :: rest =>
      match escape? c with
      | some escape =>
          let (later, last) := quotedFrom true rest
          ((if inEscape then [] else "'$'".toList) ++
            escape ++ later, last)
      | none =>
          let (later, last) := quotedFrom false rest
          if c = '\x27' then
            ("'\\''".toList ++ later, last)
          else
            ((if inEscape then "''".toList else []) ++
              c :: later, last)

/-
  A name as messages show it: between quotes if it needs to.
  A name with a quote in it is read twice, the second time
  from the state in which the first ends.
-/
def shown
    (name : Text) : Text :=
  if needsNoQuotes name then
    name
  else if name.contains '\x27' then
    if name.all fitsDoubleQuotes then
      '"' :: name ++ ['"']
    else
      let first := (quotedFrom false name).2
      '\x27' :: (quotedFrom first name).1 ++ ['\x27']
  else
    '\x27' :: (quotedFrom false name).1 ++ ['\x27']

end Cat

end Posix

end LineShell

------------------------------------------------------------
-- Copying
------------------------------------------------------------

namespace LineShell

namespace Posix

namespace Cat

/-
  Copying in progress; it stops when the output cannot be
  written.
-/
structure Copy where
  system : System
  place : Place := {}
  failed : Bool := false
  stopped : Bool := false

namespace Copy

/- Report on standard error what is wrong. -/
def complain
    (copy : Copy)
    (p : Process)
    (message : Text) : Copy :=
  { copy with
    failed := true
    system :=
      p.say 2 (p.name ++ ": " ++ message ++ "\n")
        copy.system }

/- Whether an open file that holds something is the output. -/
def isOutput
    (p : Process)
    (input : Nat)
    (octets : Text)
    (s : System) : Bool :=
  let node (id : Nat) : Option Nat := do
    match (← s.opened[id]?).target with
    | .file node _ => some node
    | _ => none
  let output := (p.opened? 1).bind node
  output.isSome && output = node input && !octets.isEmpty

/- Copy what an open file holds. -/
def file
    (copy : Copy)
    (p : Process)
    (style : Style)
    (operand : Text)
    (input : Nat) : Copy :=
  match copy.system.take input with
  | .error errno =>
      copy.complain p (shown operand ++ ": " ++ errno.text)
  | .ok (octets, s) =>
      if isOutput p input octets copy.system then
        copy.complain p
          (shown operand ++ ": input file is output file")
      else
        let (text, place) :=
          if style.isPlain then
            (octets, copy.place)
          else
            style.render copy.place octets
        let ready := { copy with system := s, place := place }
        if text.isEmpty then
          ready
        else
          match p.send 1 text s with
          | .ok s => { ready with system := s }
          | .error errno =>
              { ready.complain p
                  ("write error: " ++ errno.text) with
                stopped := true }

/- Copy one operand; a dash stands for the standard input. -/
def operand
    (p : Process)
    (style : Style)
    (copy : Copy)
    (operand : Text) : Copy :=
  if copy.stopped then
    copy
  else if operand = ['-'] then
    match p.opened? 0 with
    | some input => copy.file p style operand input
    | none =>
        copy.complain p ("-: " ++ Errno.badDescriptor.text)
  else
    match p.openPath operand .read copy.system with
    | .ok (input, s) =>
        ({ copy with system := s } : Copy).file p style operand
          input
    | .error errno =>
        copy.complain p (shown operand ++ ": " ++ errno.text)

/-
  Copy all operands, and complain at the end if the standard
  input was one of them but is not open.
-/
def all
    (p : Process)
    (style : Style)
    (copy : Copy)
    (operands : List Text) : Copy :=
  let copied := operands.foldl (Copy.operand p style) copy
  let readsInput := operands.contains ['-']
  if !copied.stopped && readsInput && (p.opened? 0).isNone then
    copied.complain p
      ("closing standard input: " ++ Errno.badDescriptor.text)
  else
    copied

/- How the program ends when everything is copied. -/
def ended
    (copy : Copy) : Ending × System :=
  (.exited (if copy.failed then 1 else 0), copy.system)

end Copy

/- Copy all operands, or the standard input without any. -/
def run : Body :=
  fun p s =>
    let strict :=
      (p.environment.get? "POSIXLY_CORRECT").isSome
    let copy : Copy := { system := s }
    match readArguments strict {} [] p.argv.tail with
    | .error message =>
        (copy.complain p
          (message ++ "\nTry '".toList ++ p.name ++
            " --help' for more information.")).ended
    | .ok (style, operands) =>
        if (p.opened? 1).isNone then
          (copy.complain p
            ("standard output: " ++
              Errno.badDescriptor.text)).ended
        else
          let operands :=
            if operands.isEmpty then [['-']] else operands
          (copy.all p style operands).ended

end Cat

end Posix

end LineShell
