import LineShell.Posix.Sh.Lexing

/-
  Reading the commands of a script.

  Commands stand in commands, so the reader of a list and the
  reader of a command are built level by level: those of one
  level use those of the level below.

  Main declarations:
    * `Posix.Sh.Grammar`
    * `Posix.Sh.Grammar.next`
    * `Posix.Sh.Grammar.line`
-/

------------------------------------------------------------
-- Levels
------------------------------------------------------------

namespace LineShell

namespace Posix

namespace Sh

/-
  Where a list of commands ends: with its line, or before a
  token that cannot begin a command; in the last case it may
  be empty.
-/
inductive Extent where
  | line
  | full
  | any
  deriving DecidableEq, Repr

/- The readers of one level. -/
structure Grammar where
  list : Extent → Parse (Option Command)
  command : Lexing.Expecting → Parse Command

namespace Grammar

open Lexing (Expecting putBack)

/- Give up at a token, in place of which another is wanted. -/
def unexpected
    (token : Token)
    (wanted : Option Token := none) : Parse α :=
  let message : Text := token.describe ++ " unexpected"
  match wanted with
  | some other =>
      Parse.fail (message ++ " (expecting " ++
        other.describe ++ ")")
  | none => Parse.fail message

/- A word, a keyword or an alias after line feeds. -/
def afterLines : Expecting :=
  ⟨true, true, true⟩

/- How the commands of a substitution are read. -/
def inner
    (g : Grammar) : Inner where
  toParen := do
    let _ ← g.list .any
    match ← Lexing.plainToken ⟨pure (), pure ()⟩ with
    | .closeParen => return
    | other => unexpected other (some .closeParen)
  toEnd := do
    let _ ← g.list .any

/- The next token. -/
def token
    (g : Grammar)
    (expecting : Expecting := {}) : Parse Token :=
  Lexing.token g.inner expecting

/- Take a keyword. -/
def expect
    (g : Grammar)
    (keyword : Keyword) : Parse Unit := do
  let token ← g.token ⟨false, true, false⟩
  if !token.isKeyword keyword then
    unexpected token (some (.keyword keyword))

/- A list of commands that is not empty. -/
def full
    (g : Grammar) : Parse Command := do
  match ← g.list .full with
  | some command => return command
  | none => return .simple 0 [] [] []

end Grammar

end Sh

end Posix

end LineShell

------------------------------------------------------------
-- Words and Redirections
------------------------------------------------------------

namespace LineShell

namespace Posix

namespace Sh

namespace Grammar

open Lexing (Expecting putBack)

/- The word that a redirection is followed by. -/
def target
    (g : Grammar)
    (isEnding : Bool) : Parse Word := do
  match ← Lexing.plainToken g.inner isEnding with
  | .word word => return word
  | other => unexpected other

/- The redirection of an operator. -/
def redirect
    (g : Grammar) : Redirection → Parse Redirect
  | .file descriptor opening => do
      return .file descriptor opening (← g.target false)
  | .duplicate descriptor => do
      return .duplicate descriptor (← g.target false)
  | .document descriptor dropsTabs => do
      let ending ← g.target true
      return .document descriptor
        (← Lexing.announce dropsTabs ending)

/- The redirections that follow a command. -/
def redirects
    (g : Grammar) : Nat → Parse (List Redirect)
  | 0 => return []
  | fuel + 1 => do
      match ← g.token ⟨false, true, true⟩ with
      | .redirection operator =>
          let first ← g.redirect operator
          return first :: (← redirects g fuel)
      | other =>
          putBack other
          return []

/- The assignment that a word is, if it is one. -/
def assignment?
    (word : Word) : Option Assignment :=
  let name := (word.map Part.bare?).takeWhile fun c =>
    c.any isNameChar
  let name : Text := name.filterMap id
  if !isName name then
    none
  else
    match word.drop name.length with
    | .char false '=' :: rest => some ⟨name, rest⟩
    | _ => none

end Grammar

end Sh

end Posix

end LineShell

------------------------------------------------------------
-- Simple Commands
------------------------------------------------------------

namespace LineShell

namespace Posix

namespace Sh

/- The commands that scripts cannot define anew. -/
def specialNames :
    List String :=
  [".", ":", "break", "continue", "eval", "exec", "exit",
    "export", "local", "readonly", "return", "set", "shift",
    "times", "trap", "unset"]

namespace Grammar

open Lexing (Expecting putBack)

/- A simple command of which some is already read. -/
structure Draft where
  line : Nat
  assignments : List Assignment := []
  words : List Word := []
  redirects : List Redirect := []

namespace Draft

/- The command. -/
def finish
    (draft : Draft) : Command :=
  .simple draft.line draft.assignments draft.words
    draft.redirects

/- The name of the function that the command would define. -/
def functionName?
    (draft : Draft) : Option Word :=
  match draft with
  | ⟨_, [], [word], []⟩ => some word
  | _ => none

end Draft

/- Define a function, after the opening parenthesis. -/
def function
    (g : Grammar)
    (word : Word) : Parse Command := do
  match ← g.token with
  | .closeParen =>
      let name := (Word.bare? word).getD []
      if !isName name ||
          specialNames.any (·.toList == name) then
        Parse.fail "Bad function name"
      let line := (← get).line
      return .define line name (← g.command afterLines)
  | other => unexpected other (some .closeParen)

/- The rest of a simple command. -/
def simpleWithin
    (g : Grammar) : Nat → Draft → Parse Command
  | 0, draft => return draft.finish
  | fuel + 1, draft => do
      let isFirst := draft.words.isEmpty
      match ← g.token ⟨false, false, isFirst⟩ with
      | .word word =>
          match if isFirst then assignment? word else none with
          | some assignment =>
              simpleWithin g fuel
                { draft with
                  assignments :=
                    draft.assignments ++ [assignment] }
          | none =>
              simpleWithin g fuel
                { draft with words := draft.words ++ [word] }
      | .redirection operator =>
          let redirect ← g.redirect operator
          simpleWithin g fuel
            { draft with
              redirects := draft.redirects ++ [redirect] }
      | .openParen =>
          match draft.functionName? with
          | some word => g.function word
          | none =>
              putBack .openParen
              return draft.finish
      | other =>
          putBack other
          return draft.finish

/- A simple command. -/
def simple
    (g : Grammar) : Parse Command := do
  simpleWithin g ((← Parse.bound) + 1)
    { line := (← get).line }

end Grammar

end Sh

end Posix

end LineShell

------------------------------------------------------------
-- Compound Commands
------------------------------------------------------------

namespace LineShell

namespace Posix

namespace Sh

namespace Grammar

open Lexing (Expecting putBack)

/- What follows a test: commands, and others instead. -/
def choiceWithin
    (g : Grammar) : Nat → Parse Command
  | 0 => unexpected .endOfFile
  | fuel + 1 => do
      let test ← g.full
      g.expect .then
      let whenTrue ← g.full
      match ← g.token ⟨false, true, false⟩ with
      | .keyword .elif =>
          let other ← choiceWithin g fuel
          return .choice test whenTrue (some other)
      | .keyword .else =>
          return .choice test whenTrue (some (← g.full))
      | other =>
          putBack other
          return .choice test whenTrue none

/- A loop with a test. -/
def loop
    (g : Grammar)
    (untilTrue : Bool) : Parse Command := do
  let test ← g.full
  g.expect .do
  let body ← g.full
  g.expect .done
  return .loop untilTrue test body

/- Words up to another token, and that token. -/
def wordsWithin
    (g : Grammar) : Nat → Parse (List Word × Token)
  | 0 => return ([], .endOfFile)
  | fuel + 1 => do
      match ← g.token with
      | .word word =>
          let (words, last) ← wordsWithin g fuel
          return (word :: words, last)
      | other => return ([], other)

/- The words that a loop goes through. -/
def eachWords
    (g : Grammar) : Parse (List Word) := do
  match ← g.token afterLines with
  | .keyword .in =>
      match ← wordsWithin g (← Parse.bound) with
      | (words, .newline) => return words
      | (words, .semicolon) => return words
      | (_, other) => unexpected other
  | .semicolon => return [[.param true ['@'] .plain []]]
  | other =>
      putBack other
      return [[.param true ['@'] .plain []]]

/- A loop over words. -/
def each
    (g : Grammar)
    (line : Nat) : Parse Command := do
  let token ← g.token
  let name :=
    match token with
    | .word word => (Word.bare? word).getD []
    | _ => []
  if !isName name then
    Parse.fail "Bad for loop variable"
  let words ← g.eachWords
  let next ← g.token afterLines
  if !next.isKeyword .do then
    unexpected next (some (.keyword .do))
  let body ← g.full
  g.expect .done
  return .each line name words body

/-
  The pattern that a token is.  One that is no word counts as
  the word before all patterns.
-/
def pattern : Token → Word
  | .word word => word
  | .keyword k => k.spelling.map (.char false)
  | _ => Keyword.in.spelling.map (.char false)

/- More patterns up to the closing parenthesis. -/
def patternsWithin
    (g : Grammar) : Nat → Parse (List Word)
  | 0 => return []
  | fuel + 1 => do
      match ← g.token with
      | .bar =>
          let first ← g.token
          return pattern first :: (← patternsWithin g fuel)
      | .closeParen => return []
      | other => unexpected other (some .closeParen)

/- The cases up to the word that ends them. -/
def casesWithin
    (g : Grammar) :
    Nat → Parse (List (List Word × Option Command))
  | 0 => return []
  | fuel + 1 => do
      let token ← g.token ⟨true, true, false⟩
      if token.isKeyword .esac then
        return []
      let start ←
        match token with
        | .openParen => g.token
        | other => pure other
      let patterns ← patternsWithin g (← Parse.bound)
      let body ← g.list .any
      let this := (pattern start :: patterns, body)
      match ← g.token ⟨true, true, false⟩ with
      | .keyword .esac => return [this]
      | .endCase => return this :: (← casesWithin g fuel)
      | other => unexpected other (some .endCase)

/- Commands chosen by patterns. -/
def matching
    (g : Grammar)
    (line : Nat) : Parse Command := do
  let subject ←
    match ← g.token with
    | .word word => pure word
    | other => unexpected other (some (.word []))
  let next ← g.token afterLines
  if !next.isKeyword .in then
    unexpected next (some (.keyword .in))
  return .match line subject
    (← casesWithin g (← Parse.bound))

/- A compound command, with the redirections after it. -/
def compound
    (g : Grammar)
    (line : Nat)
    (body : Parse Command) : Parse Command := do
  let command ← body
  let redirects ← g.redirects (← Parse.bound)
  match command, redirects with
  | .subshell line body _, redirects =>
      return .subshell line body redirects
  | command, [] => return command
  | command, redirects =>
      return .redirected line command redirects

/- A command. -/
def commandOf
    (g : Grammar)
    (expecting : Expecting) : Parse Command := do
  let line := (← get).line
  match ← g.token expecting with
  | .keyword .if =>
      g.compound line do
        let command ← choiceWithin g (← Parse.bound)
        g.expect .fi
        return command
  | .keyword .while => g.compound line (g.loop false)
  | .keyword .until => g.compound line (g.loop true)
  | .keyword .for => g.compound line (g.each line)
  | .keyword .case => g.compound line (g.matching line)
  | .keyword .openBrace =>
      g.compound line do
        let body ← g.full
        g.expect .closeBrace
        return body
  | .openParen =>
      g.compound line do
        let body ← g.full
        match ← g.token with
        | .closeParen => return .subshell line body []
        | other => unexpected other (some .closeParen)
  | .word word =>
      putBack (.word word)
      g.simple
  | .redirection operator =>
      putBack (.redirection operator)
      g.simple
  | other => unexpected other

end Grammar

end Sh

end Posix

end LineShell

------------------------------------------------------------
-- Lists
------------------------------------------------------------

namespace LineShell

namespace Posix

namespace Sh

namespace Grammar

open Lexing (Expecting putBack)

/- More commands of a pipeline. -/
def pipedWithin
    (g : Grammar) : Nat → Parse (List Command)
  | 0 => return []
  | fuel + 1 => do
      match ← g.token with
      | .bar =>
          let first ← g.commandOf afterLines
          return first :: (← pipedWithin g fuel)
      | other =>
          putBack other
          return []

/- Commands of which each reads what the one before writes. -/
def pipeline
    (g : Grammar) : Parse Command := do
  let token ← g.token afterLines
  let isNegated := token.isKeyword .bang
  if !isNegated then
    putBack token
  let first ← g.commandOf ⟨false, true, true⟩
  let others ← pipedWithin g (← Parse.bound)
  let command :=
    if others.isEmpty then
      first
    else
      .pipeline (first :: others) false
  return if isNegated then .negation command else command

/- More commands that depend on the ones before. -/
def linkedWithin
    (g : Grammar) : Nat → Command → Parse Command
  | 0, first => return first
  | fuel + 1, first => do
      match ← g.token with
      | .andAnd =>
          linkedWithin g fuel (.both first (← g.pipeline))
      | .orOr =>
          linkedWithin g fuel (.either first (← g.pipeline))
      | other =>
          putBack other
          return first

/- A command in the background. -/
def inBackground :
    Command → Command
  | .pipeline commands _ => .pipeline commands true
  | .redirected line body redirects =>
      .background line body redirects
  | command => .background 0 command []

/- One command after another, if there is one. -/
def joined :
    Option Command → Command → Command
  | none, second => second
  | some first, second => .sequence first second

/- The rest of a list. -/
def listWithin
    (g : Grammar)
    (extent : Extent) :
    Nat → Option Command → Parse (Option Command)
  | 0, sofar => return sofar
  | fuel + 1, sofar => do
      let isFirst := sofar.isNone && extent = .full
      match ← g.token ⟨extent ≠ .line, true, true⟩ with
      | .newline =>
          Lexing.readDocuments g.inner
          return sofar
      | .endOfFile =>
          Lexing.readDocuments g.inner
          putBack .endOfFile
          return sofar
      | token =>
          putBack token
          if extent ≠ .line && !isFirst && token.endsList then
            return sofar
          let first ← g.pipeline
          let command ← linkedWithin g (← Parse.bound) first
          match ← g.token with
          | .ampersand =>
              listWithin g extent fuel
                (some (joined sofar (inBackground command)))
          | .semicolon =>
              listWithin g extent fuel
                (some (joined sofar command))
          | .newline =>
              putBack .newline
              listWithin g extent fuel
                (some (joined sofar command))
          | .endOfFile =>
              Lexing.readDocuments g.inner
              putBack .endOfFile
              return some (joined sofar command)
          | other =>
              if extent = .line then
                unexpected other
              else
                putBack other
                return some (joined sofar command)

/- The readers of the next level. -/
def next
    (g : Grammar) : Grammar where
  list := fun extent => do
    listWithin g extent (← Parse.bound) none
  command := g.commandOf

/- Readers for so many levels. -/
def level :
    Nat → Grammar
  | 0 =>
      let fail {α : Type} : Parse α :=
        Parse.fail "too many levels"
      ⟨fun _ => fail, fun _ => fail⟩
  | n + 1 => (level n).next

/- What came of reading one line. -/
inductive Line where
  | finished
  | command (command : Option Command)

/- The commands up to the end of a line. -/
def line : Parse Line := do
  modify fun r => { r with putBack := none, announced := [] }
  let grammar := level (← Parse.bound)
  let command ← grammar.list .line
  match command, (← get).putBack with
  | none, some .endOfFile => return .finished
  | command, _ => return .command command

end Grammar

end Sh

end Posix

end LineShell
