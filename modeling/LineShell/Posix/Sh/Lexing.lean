import LineShell.Posix.Sh.Reader

/-
  Reading the words and the other tokens of a script.

  A command substitution ends where the commands in it end, so
  reading a word needs a reader of commands; it is given as an
  argument.

  Main declarations:
    * `Posix.Sh.Inner`
    * `Posix.Sh.Context`
    * `Posix.Sh.Lexing.parts`
    * `Posix.Sh.Lexing.token`
    * `Posix.Sh.Lexing.readDocuments`
-/

------------------------------------------------------------
-- Contexts
------------------------------------------------------------

namespace LineShell

namespace Posix

namespace Sh

/-
  How the commands of a substitution are read: up to the
  parenthesis that ends them, or up to the end of the text.
-/
structure Inner where
  toParen : Parse Unit
  toEnd : Parse Unit

/- What stands around a part of a word. -/
inductive Context where
  | bare
  | double
  | document
  deriving DecidableEq, Repr

namespace Context

/- Whether everything in the context counts as quoted. -/
def isQuoted
    (context : Context) : Bool :=
  context ≠ .bare

end Context

namespace Lexing

/- Whether a character ends a word outside quotes. -/
def endsWord
    (c : Char) : Bool :=
  " \t\n;<>&|()".toList.contains c

/- What is said of quotes that are not closed. -/
def openQuotes : Text :=
  "Unterminated quoted string"

/- The text up to a quote that ends it. -/
def single : Parse Text := do
  let r ← get
  let t := r.rest.takeWhile (· != '\x27')
  let line := r.line + t.count '\n'
  match r.rest.drop t.length with
  | [] =>
      set { r with rest := [], line := line }
      Parse.fail openQuotes
  | _ :: rest =>
      set { r with rest := rest, line := line }
      return t

/- What a backslash makes of the character after it. -/
def escaped
    (context : Context)
    (inBraces : Bool) : Parse (List Part) := do
  match ← Parse.takeRaw with
  | none => return [.char true '\\']
  | some c =>
      let isKept : Bool :=
        match context with
        | .bare => false
        | _ =>
            !(c == '\\' || c == '\x60' || c == '$' ||
              (c == '"' && (context == .double || inBraces)) ||
              (c == '\x7d' && inBraces))
      if isKept then
        return [.char true '\\', .char true c]
      else
        return [.char true c]

end Lexing

end Sh

end Posix

end LineShell

------------------------------------------------------------
-- Parameters
------------------------------------------------------------

namespace LineShell

namespace Posix

namespace Sh

namespace Lexing

/- The operator that a character stands for. -/
def operatorOf? :
    Char → Option (Bool → Operator)
  | '-' => some .orElse
  | '+' => some .instead
  | '=' => some .assign
  | '?' => some .require
  | _ => none

/-
  What follows the name of a parameter in braces: the operator
  and whether a word follows.
-/
def operator : Parse (Operator × Bool) := do
  match ← Parse.nextInLine with
  | some '\x7d' => return (.plain, false)
  | some ':' =>
      match (← Parse.nextInLine).bind operatorOf? with
      | some make => return (make true, true)
      | none => return (.unknown, true)
  | some '%' => return (.withoutEnd (← Parse.accept '%'), true)
  | some '#' =>
      return (.withoutStart (← Parse.accept '#'), true)
  | some c =>
      match operatorOf? c with
      | some make => return (make false, true)
      | none => return (.unknown, true)
  | none => return (.unknown, true)

/- The name that characters of a variable or a number make. -/
def longName : Parse Text := do
  match ← Parse.peek with
  | some c =>
      if isNameStart c then
        Parse.takeWhile isNameChar
      else if c.isDigit then
        Parse.takeWhile Char.isDigit
      else
        return []
  | none => return []

/-
  The name and operator after an opening brace, and whether a
  word follows.  A number sign before a name asks for the
  length, but by itself it is a name.
-/
def bracedName : Parse (Text × Operator × Bool) := do
  let name ← longName
  if !name.isEmpty then
    return (name, ← operator)
  match ← Parse.peek with
  | some '#' =>
      let _ ← Parse.next
      match ← Parse.peek with
      | none => return (['#'], .unknown, true)
      | some c =>
          if isNameStart c || c.isDigit then
            let name ← longName
            if ← Parse.accept '\x7d' then
              return (name, .length, false)
            else
              return (name, .unknown, true)
          else
            let r ← get
            let _ ← Parse.next
            if c != '\x7d' && (← Parse.peek) == some '\x7d' then
              let _ ← Parse.next
              if isSpecialName c then
                return ([c], .length, false)
              else
                return ([c], .unknown, false)
            else
              set r
              return (['#'], ← operator)
  | some c =>
      if isSpecialName c then
        let _ ← Parse.next
        return ([c], ← operator)
      else
        return ([], .unknown, true)
  | none => return ([], .unknown, true)

/- The script between backquotes. -/
def backquotedWithin
    (inQuotes : Bool) : Nat → Parse Text
  | 0 => Parse.fail "EOF in backquote substitution"
  | fuel + 1 => do
      match ← Parse.next with
      | none => Parse.fail "EOF in backquote substitution"
      | some '\x60' => return []
      | some '\\' =>
          match ← Parse.takeRaw with
          | none => Parse.fail "EOF in backquote substitution"
          | some c =>
              let rest ← backquotedWithin inQuotes fuel
              if c == '\\' || c == '\x60' || c == '$' ||
                  (inQuotes && c == '"') then
                return c :: rest
              else
                return '\\' :: c :: rest
      | some c => return c :: (← backquotedWithin inQuotes fuel)

/-
  A substitution between backquotes.  What follows a token that
  cannot go on in a list of commands is dropped.
-/
def backquoted
    (inner : Inner)
    (isQuoted : Bool) : Parse Part := do
  let script ← backquotedWithin isQuoted (← Parse.bound)
  let r ← get
  set { r with
    rest := script, line := 1, putBack := none, replaced := [] }
  inner.toEnd
  let after ← get
  set { r with documents := after.documents }
  let dropped :=
    match after.putBack with
    | none => 0
    | some .endOfFile => 0
    | some _ => after.fromToken.length
  return .output isQuoted 1
    (script.take (script.length - dropped))

/- A substitution between parentheses. -/
def parenthesized
    (inner : Inner)
    (isQuoted : Bool) : Parse Part := do
  let r ← get
  set { r with putBack := none, announced := [] }
  inner.toParen
  let after ← get
  let length := r.rest.length - after.rest.length - 1
  set { after with
    putBack := none
    fromToken := r.fromToken
    announced := r.announced }
  return .output isQuoted r.line (r.rest.take length)

end Lexing

end Sh

end Posix

end LineShell

------------------------------------------------------------
-- Parts
------------------------------------------------------------

namespace LineShell

namespace Posix

namespace Sh

namespace Lexing

/-
  What a part of a word is read in: the quotes, whether braces
  are open, whether quotes were opened once more between them,
  and whether the word is the end of a document, in which
  nothing is expanded.
-/
structure Place where
  context : Context
  inBraces : Bool := false
  isInner : Bool := false
  isEnding : Bool := false
  deriving DecidableEq, Repr

namespace Place

/- The place of a word between braces. -/
def braces
    (place : Place) : Operator → Place
  | .withoutEnd _ => { context := .bare, inBraces := true }
  | .withoutStart _ => { context := .bare, inBraces := true }
  | _ => { context := place.context, inBraces := true }

end Place

mutual

/-
  The parts up to the end of a place.  The first argument
  bounds the number of steps.
-/
def partsWithin
    (inner : Inner) : Nat → Place → Parse (List Part)
  | 0, _ => Parse.fail openQuotes
  | fuel + 1, place => do
      let quoted := place.context.isQuoted
      match ← Parse.peek with
      | none =>
          if place.context = .double then
            Parse.fail openQuotes
          else if place.inBraces then
            Parse.fail "Missing '\x7d'"
          else
            return []
      | some c =>
          if c = '\x7d' && place.inBraces && !place.isInner then
            let _ ← Parse.next
            return []
          else if !quoted && !place.inBraces &&
              endsWord c then
            return []
          else if c = '"' && quoted && place.inBraces then
            let _ ← Parse.next
            partsWithin inner fuel
              { place with isInner := !place.isInner }
          else if c = '"' && place.context = .double then
            let _ ← Parse.next
            return []
          else
            let first ← partWithin inner fuel place
            let rest ← partsWithin inner fuel place
            return first ++ rest

/- One part, or the parts between quotes. -/
def partWithin
    (inner : Inner) : Nat → Place → Parse (List Part)
  | 0, _ => Parse.fail openQuotes
  | fuel + 1, place => do
      let quoted := place.context.isQuoted
      match ← Parse.next with
      | none => return []
      | some '\\' => escaped place.context place.inBraces
      | some '$' => dollarWithin inner fuel place
      | some '\x60' =>
          if place.isEnding then
            return [.char quoted '\x60']
          else
            return [← backquoted inner quoted]
      | some '\x27' =>
          if quoted then
            return [.char true '\x27']
          else
            return .mark :: (← single).map (.char true)
      | some '"' =>
          if quoted then
            return [.char true '"']
          else
            return .mark ::
              (← partsWithin inner fuel
                { place with
                  context := .double, inBraces := false })
      | some c => return [.char quoted c]

/- What a dollar sign begins. -/
def dollarWithin
    (inner : Inner) : Nat → Place → Parse (List Part)
  | 0, _ => Parse.fail openQuotes
  | fuel + 1, place => do
      let quoted := place.context.isQuoted
      if place.isEnding then
        return [.char quoted '$']
      match ← Parse.peek with
      | some '(' =>
          let _ ← Parse.next
          if ← Parse.accept '(' then
            let expression ← arithmeticWithin inner fuel 0
            return [.arithmetic quoted expression]
          else
            return [← parenthesized inner quoted]
      | some '\x7b' =>
          let _ ← Parse.next
          let (name, operator, hasWord) ← bracedName
          if hasWord then
            let word ←
              partsWithin inner fuel (place.braces operator)
            return [.param quoted name operator word]
          else
            return [.param quoted name operator []]
      | some c =>
          if isNameStart c then
            let name ← Parse.takeWhile isNameChar
            return [.param quoted name .plain []]
          else if isSpecialName c then
            let _ ← Parse.next
            return [.param quoted [c] .plain []]
          else
            return [.char quoted '$']
      | none => return [.char quoted '$']

/- An arithmetic expression, in so many open parentheses. -/
def arithmeticWithin
    (inner : Inner) : Nat → Nat → Parse (List Part)
  | 0, _ => Parse.fail "Missing '))'"
  | fuel + 1, depth => do
      match ← Parse.next with
      | none => Parse.fail "Missing '))'"
      | some '\\' =>
          let first ← escaped .double false
          return first ++ (← arithmeticWithin inner fuel depth)
      | some '$' =>
          let first ←
            dollarWithin inner fuel { context := .double }
          return first ++ (← arithmeticWithin inner fuel depth)
      | some '\x60' =>
          let first ← backquoted inner true
          return first :: (← arithmeticWithin inner fuel depth)
      | some '(' =>
          let rest ← arithmeticWithin inner fuel (depth + 1)
          return .char true '(' :: rest
      | some ')' =>
          match depth with
          | depth + 1 =>
              let rest ← arithmeticWithin inner fuel depth
              return .char true ')' :: rest
          | 0 =>
              if ← Parse.accept ')' then
                return []
              else
                let rest ← arithmeticWithin inner fuel 0
                return .char true ')' :: rest
      | some c =>
          return .char true c ::
            (← arithmeticWithin inner fuel depth)

end

/- The parts up to the end of a place. -/
def parts
    (inner : Inner)
    (place : Place) : Parse Word := do
  partsWithin inner (2 * (← Parse.bound)) place

end Lexing

end Sh

end Posix

end LineShell

------------------------------------------------------------
-- Redirections
------------------------------------------------------------

namespace LineShell

namespace Posix

namespace Sh

namespace Lexing

/- The redirection that an arrow begins. -/
def redirection
    (digit : Option Nat)
    (arrow : Char) : Parse Redirection := do
  let _ ← Parse.next
  if arrow = '>' then
    let descriptor := digit.getD 1
    if ← Parse.accept '>' then
      return .file descriptor .append
    else if ← Parse.accept '|' then
      return .file descriptor .overwrite
    else if ← Parse.accept '&' then
      return .duplicate descriptor
    else
      return .file descriptor .write
  else
    let descriptor := digit.getD 0
    if ← Parse.accept '<' then
      return .document descriptor (← Parse.accept '-')
    else if ← Parse.accept '&' then
      return .duplicate descriptor
    else if ← Parse.accept '>' then
      return .file descriptor .update
    else
      return .file descriptor .read

/-
  The word or redirection that comes next.  One digit directly
  before an arrow is a descriptor.
-/
def wordToken
    (inner : Inner)
    (isEnding : Bool := false) : Parse Token := do
  let word ← parts inner { context := .bare, isEnding }
  match ← Parse.peek with
  | some c =>
      if c = '<' ∨ c = '>' then
        match Word.bare? word with
        | some [] => return .redirection (← redirection none c)
        | some [d] =>
            if d.isDigit then
              return .redirection
                (← redirection (some (Text.digitValue d)) c)
            else
              return .word word
        | _ => return .word word
      else
        return .word word
  | none => return .word word

end Lexing

end Sh

end Posix

end LineShell

------------------------------------------------------------
-- Documents
------------------------------------------------------------

namespace LineShell

namespace Posix

namespace Sh

namespace Lexing

/-
  The lines of a document up to the line that ends it, and
  what follows.  A line that is joined to the one before it
  does not end the document.
-/
def linesTo
    (document : Announced)
    (isJoined : Bool) : Nat → Text → Text × Text
  | 0, t => ([], t)
  | _, [] => ([], [])
  | fuel + 1, t =>
      let t :=
        if document.dropsTabs && !isJoined then
          Text.dropAll '\t' t
        else
          t
      let line := t.takeWhile (· != '\n')
      let rest := t.drop line.length
      if !isJoined && line = document.ending then
        ([], rest.drop 1)
      else
        let slashes :=
          (line.reverse.takeWhile (· == '\\')).length
        let joins := !document.isQuoted && slashes % 2 = 1
        let (later, after) :=
          linesTo document joins fuel (rest.drop 1)
        (line ++ rest.take 1 ++ later, after)

/- Keep the body of a document. -/
def keepDocument
    (number : Nat)
    (body : Word) : Parse Unit :=
  modify fun r =>
    { r with documents := r.documents.set number body }

/- Read the body of one document that was announced. -/
def readDocument
    (inner : Inner)
    (document : Announced) : Parse Unit := do
  let r ← get
  let (body, rest) :=
    linesTo document false (r.rest.length + 1) r.rest
  if document.isQuoted then
    keepDocument document.number (body.map (.char true))
  else
    set { r with rest := body, putBack := none }
    keepDocument document.number
      (← parts inner { context := .document })
  let taken := r.rest.take (r.rest.length - rest.length)
  let lines := taken.count '\n'
  modify fun after =>
    { after with
      rest := rest, line := r.line + lines
      putBack := r.putBack }

/- Read the bodies of the documents that were announced. -/
def readDocuments
    (inner : Inner) : Parse Unit := do
  let announced := (← get).announced
  modify fun r => { r with announced := [] }
  for document in announced do
    readDocument inner document

/-
  Announce a document that ends with a word; the answer is the
  number that its body will have.
-/
def announce
    (dropsTabs : Bool)
    (ending : Word) : Parse Nat := do
  let r ← get
  let document : Announced :=
    { number := r.documents.length
      dropsTabs
      ending := ending.characters
      isQuoted := ending.hasQuotes }
  set { r with
    documents := r.documents ++ [[]]
    announced := r.announced ++ [document] }
  return document.number

end Lexing

end Sh

end Posix

end LineShell

------------------------------------------------------------
-- Tokens
------------------------------------------------------------

namespace LineShell

namespace Posix

namespace Sh

namespace Lexing

/- The next token, whatever its words mean. -/
def plainToken
    (inner : Inner)
    (isEnding : Bool := false) : Parse Token := do
  match (← get).putBack with
  | some token =>
      modify fun r => { r with putBack := none }
      return token
  | none =>
      Parse.skipBlanks
      modify fun r => { r with fromToken := r.rest }
      match ← Parse.peek with
      | none => return .endOfFile
      | some '\n' =>
          let _ ← Parse.next
          return .newline
      | some '&' =>
          let _ ← Parse.next
          return if ← Parse.accept '&' then .andAnd
            else .ampersand
      | some '|' =>
          let _ ← Parse.next
          return if ← Parse.accept '|' then .orOr else .bar
      | some ';' =>
          let _ ← Parse.next
          return if ← Parse.accept ';' then .endCase
            else .semicolon
      | some '(' =>
          let _ ← Parse.next
          return .openParen
      | some ')' =>
          let _ ← Parse.next
          return .closeParen
      | some _ => wordToken inner isEnding

/- What the next word may be besides a word. -/
structure Expecting where
  newlines : Bool := false
  keywords : Bool := false
  aliases : Bool := false

/- Put a token back. -/
def putBack
    (token : Token) : Parse Unit :=
  modify fun r => { r with putBack := some token }

/- Take line feeds, and the documents after them. -/
def skipNewlines
    (inner : Inner) : Nat → Token → Parse Token
  | 0, token => return token
  | fuel + 1, token => do
      match token with
      | .newline =>
          readDocuments inner
          skipNewlines inner fuel (← plainToken inner)
      | token => return token

/-
  The replacement of a word that is an alias and not being
  replaced already.
-/
def replacement?
    (name : Text) : Parse (Option Text) := do
  let r ← get
  if r.replaced.any (·.name == name) then
    return none
  else
    return Table.find? name r.aliases

/- Read the replacement of an alias before the rest. -/
def replace
    (name text : Text) : Parse Unit :=
  modify fun r =>
    let isOpen :=
      Text.endsWith ' ' text || Text.endsWith '\t' text
    { r with
      rest := text ++ r.rest
      replaced := ⟨name, r.rest.length, isOpen⟩ :: r.replaced }

/- The next token, in which words may be more than words. -/
def tokenWithin
    (inner : Inner) : Nat → Expecting → Parse Token
  | 0, _ => return .endOfFile
  | fuel + 1, expecting => do
      let first ← plainToken inner
      let token ←
        if expecting.newlines then
          skipNewlines inner (← Parse.bound) first
        else
          pure first
      match token with
      | .word word =>
          match Word.bare? word with
          | none => return token
          | some text =>
              match Keyword.ofText? text with
              | some keyword =>
                  if expecting.keywords then
                    return .keyword keyword
                  else
                    return token
              | none =>
                  if expecting.aliases then
                    match ← replacement? text with
                    | some text' =>
                        replace text text'
                        tokenWithin inner fuel expecting
                    | none => return token
                  else
                    return token
      | token => return token

/- The next token. -/
def token
    (inner : Inner)
    (expecting : Expecting := {}) : Parse Token := do
  let opens ← Parse.leaveAliases
  let steps := (← get).aliases.length + 2
  tokenWithin inner steps
    { expecting with aliases := expecting.aliases || opens }

end Lexing

end Sh

end Posix

end LineShell
