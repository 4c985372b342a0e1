import LineShell.Table

/-
  The syntax of scripts: words with what is expanded in them,
  redirections, and commands.

  Main declarations:
    * `Posix.Sh.Operator`
    * `Posix.Sh.Part`
    * `Posix.Sh.Word`
    * `Posix.Sh.Redirect`
    * `Posix.Sh.Command`
    * `Posix.Sh.Token`
-/

------------------------------------------------------------
-- Words
------------------------------------------------------------

namespace LineShell

namespace Posix

namespace Sh

/-
  What is made of the value of a parameter.  A flag tells
  whether an empty value counts as none; for the last two,
  whether as much as possible is cut off.
-/
inductive Operator where
  | plain
  | length
  | orElse (evenEmpty : Bool)
  | instead (evenEmpty : Bool)
  | assign (evenEmpty : Bool)
  | require (evenEmpty : Bool)
  | withoutEnd (longest : Bool)
  | withoutStart (longest : Bool)
  | unknown
  deriving DecidableEq, Repr

/-
  A part of a word.  A mark stands where quotes are, so that
  there is a field even if nothing is between them.  A flag
  tells whether a part is quoted.
-/
inductive Part where
  | char (isQuoted : Bool) (c : Char)
  | mark
  | param (isQuoted : Bool) (name : Text)
      (operator : Operator) (word : List Part)
  | output (isQuoted : Bool) (line : Nat) (script : Text)
  | arithmetic (isQuoted : Bool) (expression : List Part)

/- A word before it is expanded. -/
abbrev Word :=
  List Part

namespace Part

/- The character of a part that is one and is not quoted. -/
def bare? :
    Part → Option Char
  | char false c => some c
  | _ => none

/- Whether a part comes from quotes. -/
def isQuoted :
    Part → Bool
  | char quoted _ => quoted
  | mark => true
  | _ => false

end Part

namespace Word

/- The characters of a word in which nothing is special. -/
def bare?
    (word : Word) : Option Text :=
  word.mapM Part.bare?

/- Whether any part of a word comes from quotes. -/
def hasQuotes
    (word : Word) : Bool :=
  word.any Part.isQuoted

/- The characters of a word, quoted or not. -/
def characters
    (word : Word) : Text :=
  word.filterMap fun part =>
    match part with
    | .char _ c => some c
    | _ => none

end Word

/- Whether a character can begin the name of a variable. -/
def isNameStart
    (c : Char) : Bool :=
  c.isAlpha || c == '_'

/- Whether a character can continue the name of a variable. -/
def isNameChar
    (c : Char) : Bool :=
  c.isAlphanum || c == '_'

/- Whether a text is the name of a variable. -/
def isName :
    Text → Bool
  | [] => false
  | c :: rest => isNameStart c && rest.all isNameChar

/- Whether a parameter has this character as its whole name. -/
def isSpecialName
    (c : Char) : Bool :=
  c.isDigit || "@*#?$!-".toList.contains c

end Sh

end Posix

end LineShell

------------------------------------------------------------
-- Commands
------------------------------------------------------------

namespace LineShell

namespace Posix

namespace Sh

/- How a redirection opens its file. -/
inductive Opening where
  | read
  | write
  | overwrite
  | append
  | update
  deriving DecidableEq, Repr

/-
  A redirection of a descriptor: to a file, to what another
  descriptor is, or from a document in the script, which is
  known by its number.
-/
inductive Redirect where
  | file (descriptor : Nat) (opening : Opening) (path : Word)
  | duplicate (descriptor : Nat) (source : Word)
  | document (descriptor number : Nat)

/- An assignment to a variable. -/
structure Assignment where
  name : Text
  word : Word

/-
  A command.  Most of them know the number of the line on
  which they begin.
-/
inductive Command where
  | simple (line : Nat) (assignments : List Assignment)
      (words : List Word) (redirects : List Redirect)
  | redirected (line : Nat) (body : Command)
      (redirects : List Redirect)
  | background (line : Nat) (body : Command)
      (redirects : List Redirect)
  | subshell (line : Nat) (body : Command)
      (redirects : List Redirect)
  | pipeline (commands : List Command) (inBackground : Bool)
  | both (first second : Command)
  | either (first second : Command)
  | sequence (first second : Command)
  | negation (body : Command)
  | choice (test whenTrue : Command)
      (whenFalse : Option Command)
  | loop (untilTrue : Bool) (test body : Command)
  | each (line : Nat) (name : Text) (words : List Word)
      (body : Command)
  | match (line : Nat) (subject : Word)
      (cases : List (List Word × Option Command))
  | define (line : Nat) (name : Text) (body : Command)

end Sh

end Posix

end LineShell

------------------------------------------------------------
-- Tokens
------------------------------------------------------------

namespace LineShell

namespace Posix

namespace Sh

/- The words that mean something where a command can begin. -/
inductive Keyword where
  | bang
  | case
  | do
  | done
  | elif
  | else
  | esac
  | fi
  | for
  | if
  | in
  | then
  | until
  | while
  | openBrace
  | closeBrace
  deriving DecidableEq, Repr

namespace Keyword

/- Every keyword with its spelling. -/
def all :
    List (Keyword × String) :=
  [
    (.bang, "!"), (.case, "case"), (.do, "do"),
    (.done, "done"), (.elif, "elif"), (.else, "else"),
    (.esac, "esac"), (.fi, "fi"), (.for, "for"), (.if, "if"),
    (.in, "in"), (.then, "then"), (.until, "until"),
    (.while, "while"), (.openBrace, "\x7b"),
    (.closeBrace, "\x7d")
  ]

/- The keyword that a text spells. -/
def ofText?
    (t : Text) : Option Keyword :=
  (all.find? (·.2.toList == t)).map (·.1)

/- How a keyword is spelled. -/
def spelling
    (keyword : Keyword) : Text :=
  match all.find? (·.1 == keyword) with
  | some entry => entry.2.toList
  | none => []

end Keyword

/-
  A redirection of which only the operator was read.  Of a
  document it is known whether tabs at the beginning of its
  lines are dropped.
-/
inductive Redirection where
  | file (descriptor : Nat) (opening : Opening)
  | duplicate (descriptor : Nat)
  | document (descriptor : Nat) (dropsTabs : Bool)
  deriving DecidableEq, Repr

/- What a script is made of. -/
inductive Token where
  | endOfFile
  | newline
  | semicolon
  | ampersand
  | andAnd
  | orOr
  | bar
  | openParen
  | closeParen
  | endCase
  | word (word : Word)
  | redirection (redirection : Redirection)
  | keyword (keyword : Keyword)

namespace Token

/- A token as messages name it. -/
def describe :
    Token → Text
  | endOfFile => "end of file"
  | newline => "newline"
  | semicolon => "\";\""
  | ampersand => "\"&\""
  | andAnd => "\"&&\""
  | orOr => "\"||\""
  | bar => "\"|\""
  | openParen => "\"(\""
  | closeParen => "\")\""
  | endCase => "\";;\""
  | word _ => "word"
  | redirection _ => "redirection"
  | keyword k => '"' :: k.spelling ++ ['"']

/- Whether a list of commands ends before the token. -/
def endsList :
    Token → Bool
  | endOfFile => true
  | closeParen => true
  | endCase => true
  | keyword .do => true
  | keyword .done => true
  | keyword .elif => true
  | keyword .else => true
  | keyword .esac => true
  | keyword .fi => true
  | keyword .then => true
  | keyword .closeBrace => true
  | _ => false

/- Whether the token is the keyword. -/
def isKeyword
    (keyword : Keyword) : Token → Bool
  | .keyword k => k = keyword
  | _ => false

end Token

end Sh

end Posix

end LineShell
