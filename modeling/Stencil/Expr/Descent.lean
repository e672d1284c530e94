/-
Module: Stencil.Expr.Descent
Purpose: A parser with fields of its own, which is used for one text after another.
Main exports: Parser, Descent, Parsed, Parser.parse, Parser.parseAll
-/
import Stencil.Expr.Parser

namespace Stencil.Expr

/-- What a parser holds between its steps: the lexemes of a text, how many of them it has passed, and
the greatest index of a parameter that it has met, which is -1 before the first one. -/
structure Parser where
  lexemes : List Lexeme := []
  passed : Nat := 0
  greatestIndex : Int := -1
deriving Repr, Inhabited, DecidableEq

namespace Parser

/-- The lexemes that a parser has not passed. -/
def left (parser : Parser) : List Lexeme :=
  parser.lexemes.drop parser.passed

/-- The lexeme at the front; behind the last one, that one stays there. -/
def front (parser : Parser) : Lexeme :=
  parser.lexemes.getD parser.passed (parser.lexemes.getLastD ⟨.endOfText, 0⟩)

end Parser

/-- A step of a parser.  What it has done to the fields stays done when it fails. -/
abbrev Descent (α : Type) := ExceptT SyntaxError (StateM Parser) α

namespace Descent

def current : Descent Lexeme := do
  pure (← get).front

/-- Pass the lexeme at the front, unless it is the end. -/
def advance : Descent Unit :=
  modify fun parser =>
    if parser.front.token = .endOfText then parser else { parser with passed := parser.passed + 1 }

/-- Keep the index of a parameter in mind if it is the greatest so far. -/
def meet (index : Nat) : Descent Unit :=
  modify fun parser => { parser with greatestIndex := max parser.greatestIndex index }

/-- Pass the lexeme at the front if it is one of a class of signs. -/
def accept? {σ : Type} (sign? : Token → Option σ) : Descent (Option σ) := do
  match sign? (← current).token with
  | some sign => do
      advance
      pure (some sign)
  | none => pure none

/-- Read as many pairs of a sign and an operand as there are, up to a bound. -/
def pairs {σ α : Type} (sign? : Token → Option σ) (operand : Descent α) :
    Nat → Descent (List (σ × α))
  | 0 => pure []
  | bound + 1 => do
      match ← accept? sign? with
      | none => pure []
      | some sign => do
          let right ← operand
          let later ← pairs sign? operand bound
          pure ((sign, right) :: later)

/-- Read an operand and all pairs of a sign and an operand behind it, of which there are no more than
lexemes. -/
def chain {σ α : Type} (sign? : Token → Option σ) (operand : Descent α) :
    Descent (α × List (σ × α)) := do
  let first ← operand
  let rest ← pairs sign? operand (← get).left.length
  pure (first, rest)

/-- Read a value: a literal, a parameter, a path, or an expression in parentheses. -/
def primary (inner : Descent Disjunction) : Descent Primary := do
  let lexeme ← current
  match lexeme.token with
  | .openParenthesis => do
      advance
      let nested ← inner
      let closing ← current
      if closing.token = .closeParenthesis then advance
      else throw ⟨.closingExpected, closing.position⟩
      pure (.nested nested)
  | .keyword .isTrue => do
      advance
      pure (.boolean true)
  | .keyword .isFalse => do
      advance
      pure (.boolean false)
  | .keyword .null => do
      advance
      pure .null
  | .number written => do
      advance
      match numberLiteral written with
      | .ok literal => pure literal
      | .error fault => throw ⟨fault, lexeme.position⟩
  | .text content => do
      advance
      pure (.text content)
  | .parameter written => do
      advance
      match parameterIndex written with
      | .ok index => do
          meet index
          pure (.parameter index)
      | .error fault => throw ⟨fault, lexeme.position⟩
  | .path written => do
      advance
      pure (.path written)
  | .endOfText => throw ⟨.unexpectedEnd, lexeme.position⟩
  | token => throw ⟨.unexpectedToken token.content, lexeme.position⟩

/-- Read a value with at most one operator in front.  A minus sign and 2^63 are one literal. -/
def unary (inner : Descent Disjunction) : Descent Unary := do
  match ← accept? unarySign? with
  | none => do
      let operand ← primary inner
      pure (.plain operand)
  | some sign => do
      if sign == .minus && isLeastMagnitude (← current).token then
        advance
        pure (.plain (.integer Word64.least))
      else
        let operand ← primary inner
        pure (.applied sign operand)

/-- Read at most one multiplication or division. -/
def product (inner : Descent Disjunction) : Descent Product := do
  let left ← unary inner
  match ← accept? productSign? with
  | none => pure (.single left)
  | some sign => do
      let right ← unary inner
      pure (.pair left sign right)

/-- Read a chain of additions and subtractions. -/
def sum (inner : Descent Disjunction) : Descent Sum := do
  let (first, rest) ← chain sumSign? (product inner)
  pure (.mk first rest)

/-- Read at most one comparison of order. -/
def comparison (inner : Descent Disjunction) : Descent Comparison := do
  let left ← sum inner
  match ← accept? comparisonSign? with
  | none => pure (.single left)
  | some sign => do
      let right ← sum inner
      pure (.pair left sign right)

/-- Read at most one comparison for equality. -/
def equality (inner : Descent Disjunction) : Descent Equality := do
  let left ← comparison inner
  match ← accept? equalitySign? with
  | none => pure (.single left)
  | some sign => do
      let right ← comparison inner
      pure (.pair left sign right)

/-- Read a chain of terms that all have to hold. -/
def conjunction (inner : Descent Disjunction) : Descent Conjunction := do
  let (first, rest) ← chain andSign? (equality inner)
  pure (.mk first (rest.map (·.2)))

/-- Read a chain of terms of which one has to hold.  `depth` bounds the nesting of parentheses. -/
def disjunction : Nat → Descent Disjunction
  | 0 => do throw ⟨.unexpectedEnd, (← current).position⟩
  | depth + 1 => do
      let (first, rest) ← chain orSign? (conjunction (disjunction depth))
      pure (.mk first (rest.map (·.2)))

/-- Take up a text.  The fields are set anew as soon as it has been cut into lexemes, of which the
number is given back; if it cannot be cut, they stay as they are. -/
def takeUp (text : String) : Descent Nat :=
  match tokenize text with
  | .ok lexemes => do
      set ({ lexemes } : Parser)
      pure lexemes.length
  | .error error => throw error

/-- Nothing may be left but the end. -/
def finish : Descent Unit := do
  let next ← current
  if next.token = .endOfText then pure ()
  else throw ⟨.unexpectedToken next.token.content, next.position⟩

end Descent

/-- What a parser makes of a text: the expression, and how many parameters it expects. -/
structure Parsed where
  expression : Expression
  parameterCount : Int
deriving Repr, Inhabited

/-- Read an expression that takes up a whole text. -/
def Descent.whole (text : String) : Descent Parsed := do
  let bound ← takeUp text
  let first ← current
  if first.token = .endOfText then throw ⟨.emptyExpression, 0⟩
  else
    let root ← disjunction bound
    finish
    pure ⟨⟨root, text⟩, (← get).greatestIndex + 1⟩

namespace Parser

/-- Read a text: what comes of it, and the parser as it is left. -/
def parse (parser : Parser) (text : String) : Except SyntaxError Parsed × Parser :=
  (Descent.whole text).run.run parser

/-- Read several texts one after another. -/
def parseAll (parser : Parser) : List String → List (Except SyntaxError Parsed) × Parser
  | [] => ([], parser)
  | text :: later =>
      let (result, next) := parser.parse text
      let (results, last) := next.parseAll later
      (result :: results, last)

end Parser

end Stencil.Expr
