import LineShell.Posix.Sh.Arguments

/-
  Conditions on files, texts and numbers.

  A condition is read from arguments.  What an argument means
  depends on those after it: an operator can be an operand.

  Main declarations:
    * `Posix.Sh.Condition.Operator`
    * `Posix.Sh.Condition.holdsWithin`
    * `Posix.Sh.test`
-/

------------------------------------------------------------
-- Operators
------------------------------------------------------------

namespace LineShell

namespace Posix

namespace Sh

namespace Condition

/- What an argument can be in a condition. -/
inductive Operator where
  | unary
  | binary
  | not
  | and
  | or
  | openParen
  | closeParen
  deriving DecidableEq, Repr

/- The operators on one operand. -/
def unaryNames :
    List String :=
  ["-r", "-w", "-x", "-e", "-f", "-d", "-c", "-b", "-p", "-u",
    "-g", "-k", "-s", "-t", "-z", "-n", "-h", "-O", "-G", "-L",
    "-S"]

/- The operators between two operands. -/
def binaryNames :
    List String :=
  ["=", "!=", "<", ">", "-eq", "-ne", "-ge", "-gt", "-le",
    "-lt", "-nt", "-ot", "-ef"]

/- The operator that an argument is by itself. -/
def operator?
    (t : Text) : Option Operator :=
  let name := String.ofList t
  if unaryNames.contains name then some .unary
  else if binaryNames.contains name then some .binary
  else if name = "!" then some .not
  else if name = "-a" then some .and
  else if name = "-o" then some .or
  else if name = "(" then some .openParen
  else if name = ")" then some .closeParen
  else none

/- Whether an operator on one operand is an operand itself. -/
def isOperand
    (following : List Text) : Bool :=
  match following with
  | [] => true
  | [_] => false
  | next :: _ => operator? next == some .binary

/- The operator that comes first among arguments. -/
def first? :
    List Text → Option Operator
  | [] => none
  | t :: rest =>
      match operator? t with
      | some .unary => if isOperand rest then none else some .unary
      | some .openParen =>
          if rest.isEmpty then none else some .openParen
      | other => other

end Condition

end Sh

end Posix

end LineShell

------------------------------------------------------------
-- Simple Conditions
------------------------------------------------------------

namespace LineShell

namespace Posix

namespace Sh

namespace Condition

/- Fail, because an operator is not where it should be. -/
def complain
    (operator message : Text) : Act α :=
  if operator.isEmpty then
    fail message
  else
    fail (operator ++ ": " ++ message)

/- The number that an operand is. -/
def number
    (t : Text) : Act Int :=
  match decimal? t with
  | some n => return n
  | none => illegalNumber t

/- The type bits that an operator asks for. -/
def typeOf? :
    String → Option FileMode
  | "-f" => some 0o100000
  | "-d" => some 0o040000
  | "-c" => some 0o020000
  | "-b" => some 0o060000
  | "-p" => some 0o010000
  | "-h" => some 0o120000
  | "-L" => some 0o120000
  | "-S" => some 0o140000
  | _ => none

/- Whether what a path leads to has a property. -/
def ofFile
    (name : String)
    (path : Text)
    (s : State) : Bool :=
  let followLast := name != "-h" && name != "-L"
  match s.process.node? path s.system followLast with
  | none => false
  | some node =>
      match typeOf? name with
      | some type => node.mode &&& FileMode.typeMask == type
      | none =>
          match name with
          | "-x" =>
              FileMode.isDirectory node.mode ||
                FileMode.isExecutable node.mode
          | "-u" => node.mode &&& 0o4000 != 0
          | "-g" => node.mode &&& 0o2000 != 0
          | "-k" => node.mode &&& 0o1000 != 0
          | "-s" =>
              match node.content with
              | .file octets => !octets.isEmpty
              | .directory .. => true
              | .program _ => true
              | _ => false
          | _ => true

/- Whether an operator on one operand holds. -/
def unary
    (name : String)
    (operand : Text) : Act Bool := do
  match name with
  | "-z" => return operand.isEmpty
  | "-n" => return !operand.isEmpty
  | "-t" =>
      let _ ← number operand
      return false
  | _ => return ofFile name operand (← get)

/- Whether two paths lead to the same file. -/
def areSame
    (left right : Text)
    (s : System) : Bool :=
  let node (path : Text) :=
    (s.tree.resolve true (Text.ofOctets path)).toOption
  (node left).isSome && node left == node right

/- The order in which texts are sorted, strictly. -/
def isLess : Text → Text → Bool
  | _, [] => false
  | [], _ :: _ => true
  | c :: t, d :: u => if c = d then isLess t u else c < d

/- Whether an operator between two operands holds. -/
def binary
    (name : String)
    (left right : Text) : Act Bool := do
  let compare (holds : Int → Int → Bool) : Act Bool := do
    let a ← number left
    let b ← number right
    return holds a b
  match name with
  | "=" => return left == right
  | "!=" => return left != right
  | "<" => return isLess left right
  | ">" => return isLess right left
  | "-eq" => compare (· == ·)
  | "-ne" => compare (· != ·)
  | "-ge" => compare (· ≥ ·)
  | "-gt" => compare (· > ·)
  | "-le" => compare (· ≤ ·)
  | "-lt" => compare (· < ·)
  | "-ef" => return areSame left right (← get).system
  | _ => return false

end Condition

end Sh

end Posix

end LineShell

------------------------------------------------------------
-- Composed Conditions
------------------------------------------------------------

namespace LineShell

namespace Posix

namespace Sh

namespace Condition

/-
  A condition between two operands, and what follows its last
  argument.
-/
def between
    (left : Text)
    (rest : List Text) : Act (Bool × List Text) := do
  match rest with
  | operator :: right :: rest =>
      return (← binary (String.ofList operator) left right, rest)
  | operator :: [] => complain operator "argument expected"
  | [] => return (!left.isEmpty, [])

mutual

/-
  Conditions of which one has to hold.  The first argument of
  this and the following bounds the number of steps; it is
  told whether the first argument of the condition is known to
  be an operand.
-/
def readOr :
    Nat → Bool → List Text → Act (Bool × List Text)
  | 0, _, args => return (false, args)
  | fuel + 1, isOperand, args => do
      let (holds, rest) ← readAnd fuel isOperand args
      if first? rest = some .or then
        let (later, rest) ← readOr fuel false rest.tail
        return (holds || later, rest)
      else
        return (holds, rest)

/- Conditions that all have to hold. -/
def readAnd :
    Nat → Bool → List Text → Act (Bool × List Text)
  | 0, _, args => return (false, args)
  | fuel + 1, isOperand, args => do
      let (holds, rest) ← readNot fuel isOperand args
      if first? rest = some .and then
        let (later, rest) ← readAnd fuel false rest.tail
        return (holds && later, rest)
      else
        return (holds, rest)

/- A condition that may be negated. -/
def readNot :
    Nat → Bool → List Text → Act (Bool × List Text)
  | 0, _, args => return (false, args)
  | fuel + 1, isOperand, args => do
      if !isOperand && first? args = some .not then
        let (holds, rest) ← readNot fuel false args.tail
        return (!holds, rest)
      else
        readPrimary fuel isOperand args

/- A condition on one or two operands, or in parentheses. -/
def readPrimary :
    Nat → Bool → List Text → Act (Bool × List Text)
  | 0, _, args => return (false, args)
  | fuel + 1, isOperand, args => do
      let operator := if isOperand then none else first? args
      match operator, args with
      | _, [] => return (false, [])
      | some .openParen, _ :: rest =>
          if first? rest = some .closeParen then
            return (false, rest.tail)
          else
            let (holds, rest) ← readOr fuel false rest
            if first? rest = some .closeParen then
              return (holds, rest.tail)
            else
              complain [] "closing paren expected"
      | some .unary, operator :: rest =>
          match rest with
          | [] => complain operator "argument expected"
          | operand :: rest =>
              return (← unary (String.ofList operator) operand,
                rest)
      | _, left :: rest =>
          if first? rest = some .binary then
            between left rest
          else
            return (!left.isEmpty, rest)

end

/-
  Whether a condition holds.  Of three arguments the middle
  one is an operator if it can be; a negation and parentheses
  around few arguments are taken off before.
-/
def holdsWithin :
    Nat → List Text → Act Bool
  | 0, _ => return false
  | fuel + 1, args => do
      let read (isOperand : Bool) (args : List Text) := do
        let (holds, rest) ←
          readOr (4 * args.length + 8) isOperand args
        if rest.isEmpty then
          return holds
        else
          let last := args[args.length - rest.length - 1]?
          complain (last.getD []) "unexpected operator"
      let isShort := args.length = 3 || args.length = 4
      match args with
      | [] => return false
      | [_, middle, _] =>
          if operator? middle = some .binary then
            read true args
          else if args.head? = some ['('] &&
              args.getLast? = some [')'] then
            read false args.tail.dropLast
          else if args.head? = some ['!'] then
            return !(← holdsWithin fuel args.tail)
          else
            read false args
      | first :: rest =>
          if isShort && first = ['('] &&
              args.getLast? = some [')'] then
            read false rest.dropLast
          else if isShort && first = ['!'] then
            return !(← holdsWithin fuel rest)
          else
            read false args

end Condition

/- Tell whether a condition holds. -/
def test
    (args : List Text) : Act Nat := do
  let holds ← Condition.holdsWithin (args.length + 1) args
  return if holds then 0 else 1

/- Tell whether a condition in brackets holds. -/
def bracketTest
    (args : List Text) : Act Nat := do
  if args.getLast? = some [']'] then
    test args.dropLast
  else
    fail "missing ]"

end Sh

end Posix

end LineShell
