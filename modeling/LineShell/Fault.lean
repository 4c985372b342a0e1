import LineShell.Path
import LineShell.Text.Decimal
import LineShell.Text.Quoted

/-
  What can go wrong, by cause.

  Main declarations:
    * `Fault`
    * `Fault.message`
    * `Fault.exitCode?`
    * `Fault.endsShell`
    * `Fault.isHost`
    * `Fault.Kind`
    * `Fault.Kind.ancestors`
-/

------------------------------------------------------------
-- Causes
------------------------------------------------------------

namespace LineShell

/-
  A fault of the host system, of the interpreter itself, or
  of one command.
-/
inductive Fault where
  /- A system call failed, perhaps on a path. -/
  | os (errno : Int) (text : Text) (path : Option Path)
  /- A value that an operation does not accept. -/
  | value (text : Text)
  /- A failure without a more specific cause. -/
  | runtime (text : Text)
  /- A key that a table does not hold. -/
  | missingKey (key : Text)
  /- The user interrupted the program. -/
  | interrupt
  /- A failure of the interpreter. -/
  | shell (text : Text) (code : Int)
  /- A setting has a value that is not allowed. -/
  | config (option given : Text) (detail : Option Text)
  /- The input stream is exhausted. -/
  | endOfInput
  /- A request to end the interpreter. -/
  | exit (code : Int)
  /- The interpreter cannot continue. -/
  | fatal (text : Text) (code : Int)
  /- A command failed. -/
  | command (name text : Text) (code : Int)
  /- A name is neither a builtin nor found by the search. -/
  | notFound (name : Text)
  /- A command got an argument that it does not accept. -/
  | badArgument (name argument : Text) (detail : Option Text)
  /- An executable could not be started. -/
  | spawn (path : Path) (details : Text)
  deriving DecidableEq, Repr

end LineShell

------------------------------------------------------------
-- Wording
------------------------------------------------------------

namespace LineShell

namespace Fault

/- What is said about an argument when nothing else is. -/
def badArgumentDetail :
    Option Text → Text
  | none => "invalid argument"
  | some [] => "invalid argument"
  | some detail => detail

/- The text of a fault. -/
def message :
    Fault → Text
  | os errno text none =>
      "[Errno " ++ Text.ofInt errno ++ "] " ++ text
  | os errno text (some path) =>
      "[Errno " ++ Text.ofInt errno ++ "] " ++ text ++ ": " ++
        Text.quoted path
  | value text => text
  | runtime text => text
  | missingKey key => Text.quoted key
  | interrupt => []
  | shell text _ => text
  | config option given none =>
      "invalid value for " ++ option ++ ": " ++
        Text.quoted given
  | config _ _ (some detail) => detail
  | endOfInput => "end of input"
  | exit code => "exit " ++ Text.ofInt code
  | fatal text _ => text
  | command _ text _ => text
  | notFound name => name ++ ": command not found"
  | badArgument name argument detail =>
      name ++ ": " ++ argument ++ ": " ++
        badArgumentDetail detail
  | spawn path details => path ++ ": " ++ details

end Fault

end LineShell

------------------------------------------------------------
-- Status and Class
------------------------------------------------------------

namespace LineShell

namespace Fault

/- The status that a fault of the interpreter carries. -/
def exitCode? :
    Fault → Option Int
  | os .. => none
  | value _ => none
  | runtime _ => none
  | missingKey _ => none
  | interrupt => none
  | shell _ code => some code
  | config .. => some 2
  | endOfInput => some 0
  | exit code => some code
  | fatal _ code => some code
  | command _ _ code => some code
  | notFound _ => some 127
  | badArgument .. => some 2
  | spawn .. => some 1

/-
  Faults that no command may swallow: an interrupt, a request
  to exit, and a failure of the interpreter as a whole.
-/
def endsShell :
    Fault → Bool
  | interrupt => true
  | exit _ => true
  | fatal .. => true
  | _ => false

/- Faults by which the host refuses an operation. -/
def isHost :
    Fault → Bool
  | os .. => true
  | value _ => true
  | _ => false

/- Faults of a system call. -/
def isSystem :
    Fault → Bool
  | os .. => true
  | _ => false

end Fault

end LineShell

------------------------------------------------------------
-- Kinds
------------------------------------------------------------

namespace LineShell

namespace Fault

/- The cause of a fault without its particulars. -/
inductive Kind where
  | os
  | value
  | runtime
  | missingKey
  | interrupt
  | shell
  | config
  | endOfInput
  | exit
  | fatal
  | command
  | notFound
  | badArgument
  | spawn
  deriving DecidableEq, Repr

/- The kind of a fault. -/
def kind :
    Fault → Kind
  | os .. => .os
  | value _ => .value
  | runtime _ => .runtime
  | missingKey _ => .missingKey
  | interrupt => .interrupt
  | shell .. => .shell
  | config .. => .config
  | endOfInput => .endOfInput
  | exit _ => .exit
  | fatal .. => .fatal
  | command .. => .command
  | notFound _ => .notFound
  | badArgument .. => .badArgument
  | spawn .. => .spawn

namespace Kind

/-
  The kinds that a kind specialises, nearest first.  Every
  fault of the interpreter specialises `shell`, and the two
  usual failures of a command specialise `command`.
-/
def ancestors :
    Kind → List Kind
  | config => [shell]
  | endOfInput => [shell]
  | exit => [shell]
  | fatal => [shell]
  | command => [shell]
  | notFound => [command, shell]
  | badArgument => [command, shell]
  | spawn => [shell]
  | _ => []

end Kind

end Fault

end LineShell
