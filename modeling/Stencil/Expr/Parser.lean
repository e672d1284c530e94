/-
Module: Stencil.Expr.Parser
Purpose: Reading expressions from tokens by recursive descent.
Main exports: Parse, disjunction, Expression.parse
-/
import Stencil.Expr.Lexer
import Stencil.Expr.Tree
import Stencil.Number.Reading
import Stencil.Number.Word64

namespace Stencil.Expr

/-- A parser works on the lexemes that are left. -/
abbrev Parse (α : Type) := StateT (List Lexeme) (Except SyntaxError) α

namespace Parse

/-- The lexeme at the front; behind the last one there is nothing but the end. -/
def current : Parse Lexeme := do
  pure ((← get).headD ⟨.endOfText, 0⟩)

/-- Pass the lexeme at the front. -/
def advance : Parse Unit :=
  modify (·.drop 1)

/-- Fail at the front. -/
def failHere {α : Type} (fault : SyntaxFault) : Parse α := do
  throw ⟨fault, (← current).position⟩

/-- Pass the lexeme at the front if it is one of a class of signs. -/
def accept? {σ : Type} (sign? : Token → Option σ) : Parse (Option σ) := do
  match sign? (← current).token with
  | some sign => do
      advance
      pure (some sign)
  | none => pure none

/-- Read as many pairs of a sign and an operand as there are, up to a bound. -/
def pairs {σ α : Type} (sign? : Token → Option σ) (operand : Parse α) : Nat → Parse (List (σ × α))
  | 0 => pure []
  | bound + 1 => do
      match ← accept? sign? with
      | none => pure []
      | some sign => do
          let right ← operand
          let later ← pairs sign? operand bound
          pure ((sign, right) :: later)

/-- Read an operand and all pairs of a sign and an operand behind it.  Each pair passes a lexeme, so
that their number bounds the pairs. -/
def chain {σ α : Type} (sign? : Token → Option σ) (operand : Parse α) :
    Parse (α × List (σ × α)) := do
  let first ← operand
  let rest ← pairs sign? operand (← get).length
  pure (first, rest)

end Parse

open Parse

/-- The sign of a disjunction. -/
def orSign? : Token → Option Unit
  | .operator .or => some ()
  | _ => none

/-- The sign of a conjunction. -/
def andSign? : Token → Option Unit
  | .operator .and => some ()
  | _ => none

def equalitySign? : Token → Option EqualityOperator
  | .operator .equal => some .equal
  | .operator .unequal => some .unequal
  | _ => none

def comparisonSign? : Token → Option ComparisonOperator
  | .operator .greater => some .greater
  | .operator .greaterOrEqual => some .greaterOrEqual
  | .operator .less => some .less
  | .operator .lessOrEqual => some .lessOrEqual
  | _ => none

def sumSign? : Token → Option SumOperator
  | .operator .plus => some .plus
  | .operator .minus => some .minus
  | _ => none

def productSign? : Token → Option ProductOperator
  | .operator .times => some .times
  | .operator .divide => some .divide
  | .operator .modulo => some .modulo
  | _ => none

def unarySign? : Token → Option UnaryOperator
  | .operator .not => some .not
  | .operator .minus => some .minus
  | .keyword .empty => some .empty
  | _ => none

/-- Whether a number is written with a point or an exponent. -/
def isDoubleLiteral (written : List Char) : Bool :=
  written.any fun character => character == '.' || character == 'e' || character == 'E'

/-- The value of a number as an operand: with a point or an exponent it is a double-precision number,
otherwise an integer, which must not exceed the largest one of 64 bits.  An integer with too many digits
is refused before its value is looked at. -/
def numberLiteral (written : String) : Except SyntaxFault Primary :=
  let characters := written.toList
  if isDoubleLiteral characters then
    .ok (.double ((readDouble? characters).getD Double.zero))
  else if IsReadable characters then
    let value : Int := Text.naturalOfDigits characters
    if Word64.greatest < value then .error (.integerOutOfRange written)
    else .ok (.integer value)
  else .error (.tooManyDigits characters.length)

/-- Whether a token is the integer 2^63, which is in range behind a minus sign only.  A number with too
many digits is none, so that it is refused as an operand. -/
def isLeastMagnitude : Token → Bool
  | .number written =>
      let characters := written.toList
      !isDoubleLiteral characters && IsReadable characters
        && (Text.naturalOfDigits characters : Int) == -Word64.least
  | _ => false

/-- The number behind the question mark of a parameter. -/
def parameterNumber (written : String) : Nat :=
  Text.naturalOfDigits (written.toList.drop 1)

/-- The index of a parameter. -/
def parameterIndex (written : String) : Except SyntaxFault Nat :=
  if IsReadable (written.toList.drop 1) then .ok (parameterNumber written)
  else .error (.tooManyDigits (written.toList.drop 1).length)

/-- Read a value: a literal, a parameter, a path, or an expression in parentheses. -/
def primary (inner : Parse Disjunction) : Parse Primary := do
  let lexeme ← current
  match lexeme.token with
  | .openParenthesis => do
      advance
      let nested ← inner
      if (← current).token == .closeParenthesis then advance else failHere .closingExpected
      pure (.nested nested)
  | .keyword .isTrue => do
      advance
      pure (.boolean true)
  | .keyword .isFalse => do
      advance
      pure (.boolean false)
  | .keyword .null => do
      advance
      pure .null
  | .number written =>
      match numberLiteral written with
      | .ok literal => do
          advance
          pure literal
      | .error fault => failHere fault
  | .text content => do
      advance
      pure (.text content)
  | .parameter written =>
      match parameterIndex written with
      | .ok index => do
          advance
          pure (.parameter index)
      | .error fault => failHere fault
  | .path written => do
      advance
      pure (.path written)
  | .endOfText => failHere .unexpectedEnd
  | token => failHere (.unexpectedToken token.content)

/-- Read a value with at most one operator in front.  A minus sign and 2^63 are one literal. -/
def unary (inner : Parse Disjunction) : Parse Unary := do
  match ← accept? unarySign? with
  | none => do
      let operand ← primary inner
      pure (.plain operand)
  | some sign => do
      if sign == .minus && isLeastMagnitude (← current).token then
        advance
        pure (.plain (.integer Word64.least))
      else
        let operand ← primary inner
        pure (.applied sign operand)

/-- Read at most one multiplication or division. -/
def product (inner : Parse Disjunction) : Parse Product := do
  let left ← unary inner
  match ← accept? productSign? with
  | none => pure (.single left)
  | some sign => do
      let right ← unary inner
      pure (.pair left sign right)

/-- Read a chain of additions and subtractions. -/
def sum (inner : Parse Disjunction) : Parse Sum := do
  let (first, rest) ← chain sumSign? (product inner)
  pure (.mk first rest)

/-- Read at most one comparison of order. -/
def comparison (inner : Parse Disjunction) : Parse Comparison := do
  let left ← sum inner
  match ← accept? comparisonSign? with
  | none => pure (.single left)
  | some sign => do
      let right ← sum inner
      pure (.pair left sign right)

/-- Read at most one comparison for equality. -/
def equality (inner : Parse Disjunction) : Parse Equality := do
  let left ← comparison inner
  match ← accept? equalitySign? with
  | none => pure (.single left)
  | some sign => do
      let right ← comparison inner
      pure (.pair left sign right)

/-- Read a chain of terms that all have to hold. -/
def conjunction (inner : Parse Disjunction) : Parse Conjunction := do
  let (first, rest) ← chain andSign? (equality inner)
  pure (.mk first (rest.map (·.2)))

/-- Read a chain of terms of which one has to hold.  `depth` bounds the nesting of parentheses. -/
def disjunction : Nat → Parse Disjunction
  | 0 => failHere .unexpectedEnd
  | depth + 1 => do
      let (first, rest) ← chain orSign? (conjunction (disjunction depth))
      pure (.mk first (rest.map (·.2)))

/-- Read an expression that takes up all lexemes.  Parentheses cannot be nested deeper than there are
lexemes. -/
def parseLexemes (lexemes : List Lexeme) : Except SyntaxError Disjunction := do
  if (lexemes.headD ⟨.endOfText, 0⟩).token = .endOfText then throw ⟨.emptyExpression, 0⟩
  let (root, rest) ← (disjunction lexemes.length).run lexemes
  let next := rest.headD ⟨.endOfText, 0⟩
  if next.token = .endOfText then pure root
  else throw ⟨.unexpectedToken next.token.content, next.position⟩

/-- Read an expression from a text. -/
def Expression.parse (text : String) : Except SyntaxError Expression := do
  let lexemes ← tokenize text
  let root ← parseLexemes lexemes
  pure ⟨root, text⟩

end Stencil.Expr
