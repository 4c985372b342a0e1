import LineShell.Posix.Sh.State

/-
  Arithmetic on whole numbers of 64 bits.

  Main declarations:
    * `Posix.Sh.Arithmetic.Token`
    * `Posix.Sh.Arithmetic.Expression`
    * `Posix.Sh.Arithmetic.read`
    * `Posix.Sh.Arithmetic.Expression.value`
    * `Posix.Sh.evaluate`
-/

------------------------------------------------------------
-- Numerals
------------------------------------------------------------

namespace LineShell

namespace Posix

namespace Sh

/- The value of a digit in any base, letters included. -/
def anyDigit?
    (c : Char) : Option Nat :=
  if c.isDigit then
    some (c.toNat - '0'.toNat)
  else if c.isAlpha then
    some (c.toLower.toNat - 'a'.toNat + 10)
  else
    none

/- The digits of a base that a text begins with. -/
def digitsOf
    (base : Nat)
    (t : Text) : Text :=
  t.takeWhile fun c =>
    match anyDigit? c with
    | some n => n < base
    | none => false

/- The value of digits in a base. -/
def valueOf
    (base : Nat)
    (digits : Text) : Nat :=
  digits.foldl
    (fun n c => base * n + (anyDigit? c).getD 0) 0

/-
  The number that a text begins with, and what follows it.  A
  zero begins octal digits, or hexadecimal ones with an x.
-/
def takeNumeral
    (t : Text) : Nat × Text :=
  let read (base : Nat) (t : Text) :=
    let digits := digitsOf base t
    (valueOf base digits, t.drop digits.length)
  match t with
  | '0' :: x :: rest =>
      if (x = 'x' ∨ x = 'X') ∧ digitsOf 16 rest ≠ [] then
        read 16 rest
      else
        read 8 t
  | '0' :: _ => read 8 t
  | _ => read 10 t

/- The largest number. -/
def largestInt : Nat :=
  Nat.pow 2 63 - 1

/- A number of 64 bits; larger ones count as the largest. -/
def clamped
    (n : Nat) : Int64 :=
  Int64.ofNat (min n largestInt)

/- Whether a character is white space. -/
def isSpace
    (c : Char) : Bool :=
  c == ' ' || ('\t' ≤ c && c ≤ '\r')

/-
  The number that a text is, with white space around it and a
  sign in front of it.  Without digits it is zero.
-/
def number64?
    (t : Text) : Option Int64 :=
  let given := t.dropWhile isSpace
  let (isNegative, digits) :=
    match given with
    | '-' :: rest => (true, rest)
    | '+' :: rest => (false, rest)
    | _ => (false, given)
  let (n, rest) := takeNumeral digits
  if (digitsOf 10 digits).isEmpty then
    if given.isEmpty then some 0 else none
  else if !rest.all isSpace then
    none
  else if isNegative then
    if n ≤ largestInt + 1 then
      some (-(Int64.ofNat n))
    else
      none
  else if n ≤ largestInt then
    some (Int64.ofNat n)
  else
    none

end Sh

end Posix

end LineShell

------------------------------------------------------------
-- Expressions
------------------------------------------------------------

namespace LineShell

namespace Posix

namespace Sh

namespace Arithmetic

/- Operators between two numbers. -/
inductive Binary where
  | mul
  | div
  | rem
  | add
  | sub
  | shiftLeft
  | shiftRight
  | less
  | lessEqual
  | greater
  | greaterEqual
  | equal
  | unequal
  | bitAnd
  | bitXor
  | bitOr
  deriving DecidableEq, Repr

/- Operators before one number. -/
inductive Unary where
  | minus
  | not
  | complement
  deriving DecidableEq, Repr

/-
  An expression.  Where it is not as it should be, a fault
  stands in place of a part or after a part, so that what
  comes before still has its effects.
-/
inductive Expression where
  | number (n : Int64)
  | variable (name : Text)
  | unary (operator : Unary) (operand : Expression)
  | binary (operator : Binary) (left right : Expression)
  | both (left right : Expression)
  | either (left right : Expression)
  | choice (test whenTrue whenFalse : Expression)
  | assign (name : Text) (operator : Option Binary)
      (operand : Expression)
  | fault (message : String)
  | broken (part : Expression) (message : String)

/- What an expression is made of. -/
inductive Token where
  | number (n : Int64)
  | name (name : Text)
  | symbol (spelling : String)
  | bad
  deriving DecidableEq, Repr

/- The symbols, those first that others begin with. -/
def symbols :
    List String :=
  ["<<=", ">>=", "<<", ">>", "<=", ">=", "==", "!=", "&&",
    "||", "*=", "/=", "%=", "+=", "-=", "&=", "^=", "|=", "*",
    "/", "%", "+", "-", "&", "^", "|", "<", ">", "=", "!", "~",
    "?", ":", "(", ")"]

/- The tokens of a text, up to one that means nothing. -/
def tokensWithin :
    Nat → Text → List Token
  | 0, _ => []
  | _, [] => []
  | fuel + 1, c :: rest =>
      if c = ' ' ∨ c = '\t' ∨ c = '\n' then
        tokensWithin fuel rest
      else if c.isDigit then
        let (n, after) := takeNumeral (c :: rest)
        .number (clamped n) :: tokensWithin fuel after
      else if isNameStart c then
        let name := (c :: rest).takeWhile isNameChar
        .name name ::
          tokensWithin fuel ((c :: rest).drop name.length)
      else
        match symbols.find? fun symbol =>
            symbol.toList.isPrefixOf (c :: rest) with
        | some symbol =>
            .symbol symbol ::
              tokensWithin fuel
                ((c :: rest).drop symbol.length)
        | none => [.bad]

/- The operator of a symbol, and how late it is applied. -/
def binary? :
    String → Option (Binary × Nat)
  | "*" => some (.mul, 0)
  | "/" => some (.div, 0)
  | "%" => some (.rem, 0)
  | "+" => some (.add, 1)
  | "-" => some (.sub, 1)
  | "<<" => some (.shiftLeft, 2)
  | ">>" => some (.shiftRight, 2)
  | "<" => some (.less, 3)
  | "<=" => some (.lessEqual, 3)
  | ">" => some (.greater, 3)
  | ">=" => some (.greaterEqual, 3)
  | "==" => some (.equal, 4)
  | "!=" => some (.unequal, 4)
  | "&" => some (.bitAnd, 5)
  | "^" => some (.bitXor, 6)
  | "|" => some (.bitOr, 7)
  | _ => none

/- The operator of an assignment, if the symbol is one. -/
def assignment?
    (symbol : String) : Option (Option Binary) :=
  match symbol with
  | "=" => some none
  | "*=" => some (some .mul)
  | "/=" => some (some .div)
  | "%=" => some (some .rem)
  | "+=" => some (some .add)
  | "-=" => some (some .sub)
  | "<<=" => some (some .shiftLeft)
  | ">>=" => some (some .shiftRight)
  | "&=" => some (some .bitAnd)
  | "^=" => some (some .bitXor)
  | "|=" => some (some .bitOr)
  | _ => none

end Arithmetic

end Sh

end Posix

end LineShell

------------------------------------------------------------
-- Reading
------------------------------------------------------------

namespace LineShell

namespace Posix

namespace Sh

namespace Arithmetic

/- An expression and what follows it. -/
abbrev Reading :=
  Expression × List Token

/- Nothing where an operand should be. -/
def noOperand : Reading :=
  (.fault "expecting primary", [])

mutual

/-
  An assignment or a choice.  The first argument of this and
  the following bounds the number of steps.
-/
def readAssignment :
    Nat → List Token → Reading
  | 0, _ => noOperand
  | fuel + 1, tokens =>
      match tokens with
      | .name name :: .symbol symbol :: rest =>
          match assignment? symbol with
          | some operator =>
              let (operand, rest) := readAssignment fuel rest
              (.assign name operator operand, rest)
          | none => readChoice fuel tokens
      | _ => readChoice fuel tokens

/- A choice between two expressions. -/
def readChoice :
    Nat → List Token → Reading
  | 0, _ => noOperand
  | fuel + 1, tokens =>
      let (test, rest) := readEither fuel tokens
      match rest with
      | .symbol "?" :: rest =>
          let (whenTrue, rest) := readAssignment fuel rest
          match rest with
          | .symbol ":" :: rest =>
              let (whenFalse, rest) := readChoice fuel rest
              (.choice test whenTrue whenFalse, rest)
          | _ =>
              (.choice test whenTrue (.fault "expecting ':'"),
                [])
      | _ => (test, rest)

/- Expressions of which one has to hold. -/
def readEither :
    Nat → List Token → Reading
  | 0, _ => noOperand
  | fuel + 1, tokens =>
      let (left, rest) := readBoth fuel tokens
      match rest with
      | .symbol "||" :: rest =>
          let (right, rest) := readEither fuel rest
          (.either left right, rest)
      | _ => (left, rest)

/- Expressions that all have to hold. -/
def readBoth :
    Nat → List Token → Reading
  | 0, _ => noOperand
  | fuel + 1, tokens =>
      let (first, rest) := readPrimary fuel tokens
      let (left, rest) := readBinary fuel 8 first rest
      match rest with
      | .symbol "&&" :: rest =>
          let (right, rest) := readBoth fuel rest
          (.both left right, rest)
      | _ => (left, rest)

/-
  The operators after an operand that are applied before those
  of the given rank.
-/
def readBinary :
    Nat → Nat → Expression → List Token → Reading
  | 0, _, _, _ => noOperand
  | fuel + 1, rank, left, tokens =>
      match tokens with
      | .symbol symbol :: rest =>
          match binary? symbol with
          | some (operator, own) =>
              if own < rank then
                let (next, rest) := readPrimary fuel rest
                let (right, rest) :=
                  readBinary fuel own next rest
                readBinary fuel rank
                  (.binary operator left right) rest
              else
                (left, tokens)
          | none => (left, tokens)
      | _ => (left, tokens)

/- One operand with the operators before it. -/
def readPrimary :
    Nat → List Token → Reading
  | 0, _ => noOperand
  | fuel + 1, tokens =>
      match tokens with
      | .number n :: rest => (.number n, rest)
      | .name name :: rest => (.variable name, rest)
      | .symbol "(" :: rest =>
          let (inside, rest) := readAssignment fuel rest
          match rest with
          | .symbol ")" :: rest => (inside, rest)
          | _ => (.broken inside "expecting ')'", [])
      | .symbol "+" :: rest => readPrimary fuel rest
      | .symbol "-" :: rest =>
          let (operand, rest) := readPrimary fuel rest
          (.unary .minus operand, rest)
      | .symbol "!" :: rest =>
          let (operand, rest) := readPrimary fuel rest
          (.unary .not operand, rest)
      | .symbol "~" :: rest =>
          let (operand, rest) := readPrimary fuel rest
          (.unary .complement operand, rest)
      | _ => noOperand

end

/- The expression that a text spells. -/
def read
    (t : Text) : Expression :=
  let tokens := tokensWithin (t.length + 1) t
  let (expression, rest) :=
    readAssignment (8 * tokens.length + 8) tokens
  if rest.isEmpty then
    expression
  else
    .broken expression "expecting EOF"

end Arithmetic

end Sh

end Posix

end LineShell

------------------------------------------------------------
-- Values
------------------------------------------------------------

namespace LineShell

namespace Posix

namespace Sh

namespace Arithmetic

/- One if something holds, and zero otherwise. -/
def truth
    (b : Bool) : Int64 :=
  if b then 1 else 0

/- Complain about an expression. -/
def complain
    (source : Text)
    (message : String) : Act α :=
  fail ("arithmetic expression: " ++ message.toList ++
    ": \"" ++ source ++ "\"")

namespace Binary

/- The result of an operator; nothing is divided by zero. -/
def combined?
    (a b : Int64) : Binary → Option Int64
  | mul => some (a * b)
  | div => if b = 0 then none else some (a / b)
  | rem => if b = 0 then none else some (a % b)
  | add => some (a + b)
  | sub => some (a - b)
  | shiftLeft => some (a <<< b)
  | shiftRight => some (a >>> b)
  | less => some (truth (a < b))
  | lessEqual => some (truth (a ≤ b))
  | greater => some (truth (b < a))
  | greaterEqual => some (truth (b ≤ a))
  | equal => some (truth (a = b))
  | unequal => some (truth (a ≠ b))
  | bitAnd => some (a &&& b)
  | bitXor => some (a ^^^ b)
  | bitOr => some (a ||| b)

end Binary

/- Apply an operator. -/
def applied
    (source : Text)
    (operator : Binary)
    (a b : Int64) : Act Int64 :=
  match operator.combined? a b with
  | some n => return n
  | none => complain source "division by zero"

/- The number that a variable holds, zero if it is not set. -/
def variableNumber
    (name : Text) : Act Int64 := do
  let value := ((← get).value? name).getD []
  match number64? value with
  | some n => return n
  | none => fail ("Illegal number: " ++ value)

namespace Expression

/- The first fault of an expression. -/
def fault? :
    Expression → Option String
  | number _ => none
  | .variable _ => none
  | unary _ operand => operand.fault?
  | binary _ left right => left.fault? <|> right.fault?
  | both left right => left.fault? <|> right.fault?
  | either left right => left.fault? <|> right.fault?
  | choice test whenTrue whenFalse =>
      test.fault? <|> whenTrue.fault? <|> whenFalse.fault?
  | assign _ _ operand => operand.fault?
  | fault message => some message
  | broken part message => part.fault? <|> some message

/- Pass over an expression: only its faults count. -/
def pass
    (source : Text)
    (e : Expression) : Act Unit :=
  match e.fault? with
  | some message => complain source message
  | none => return

/- The value of an expression, which may set variables. -/
def value
    (source : Text) : Expression → Act Int64
  | number n => return n
  | .variable name => variableNumber name
  | unary .minus operand => do
      return -(← value source operand)
  | unary .not operand => do
      return truth ((← value source operand) = 0)
  | unary .complement operand => do
      return ~~~(← value source operand)
  | binary operator left right => do
      let a ← value source left
      let b ← value source right
      applied source operator a b
  | both left right => do
      if (← value source left) = 0 then
        right.pass source
        return 0
      else
        return truth ((← value source right) ≠ 0)
  | either left right => do
      if (← value source left) ≠ 0 then
        right.pass source
        return 1
      else
        return truth ((← value source right) ≠ 0)
  | choice test whenTrue whenFalse => do
      if (← value source test) ≠ 0 then
        let n ← value source whenTrue
        whenFalse.pass source
        return n
      else
        whenTrue.pass source
        value source whenFalse
  | assign name operator operand => do
      let given ← value source operand
      let result ←
        match operator with
        | none => pure given
        | some operator => do
            applied source operator (← variableNumber name) given
      assignVariable name (Text.ofInt result.toInt)
      return result
  | fault message => complain source message
  | broken part message => do
      let _ ← value source part
      complain source message

end Expression

end Arithmetic

/- The value of the expression that a text spells. -/
def evaluate
    (source : Text) : Act Int64 :=
  (Arithmetic.read source).value source

end Sh

end Posix

end LineShell
