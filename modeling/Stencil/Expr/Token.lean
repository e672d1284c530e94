/-
Module: Stencil.Expr.Token
Purpose: The tokens of the expression language and the errors of reading it.
Main exports: Keyword, Operator, Token, Lexeme, SyntaxError
-/
import Stencil.Number.DigitLimit

namespace Stencil.Expr

/-- The reserved words that are no operators. -/
inductive Keyword where
  | isTrue
  | isFalse
  | null
  | empty
deriving Repr, Inhabited, DecidableEq

/-- The operators, in whatever spelling. -/
inductive Operator where
  | or
  | and
  | equal
  | unequal
  | greaterOrEqual
  | lessOrEqual
  | greater
  | less
  | plus
  | minus
  | times
  | divide
  | modulo
  | not
deriving Repr, Inhabited, DecidableEq

/-- A token.  Numbers, parameters and paths are kept as they are written; text is kept without its
quotes and escapes. -/
inductive Token where
  | number (written : String)
  | text (content : String)
  | parameter (written : String)
  | path (written : String)
  | keyword (word : Keyword)
  | operator (sign : Operator)
  | openParenthesis
  | closeParenthesis
  | endOfText
deriving Repr, Inhabited, DecidableEq

/-- A token with the position of its first character. -/
structure Lexeme where
  token : Token
  position : Nat
deriving Repr, Inhabited, DecidableEq

namespace Keyword

/-- The spelling of a reserved word. -/
def word : Keyword → String
  | isTrue => "true"
  | isFalse => "false"
  | null => "null"
  | empty => "empty"

/-- The reserved word with a spelling. -/
def ofWord? : String → Option Keyword
  | "true" => some isTrue
  | "false" => some isFalse
  | "null" => some null
  | "empty" => some empty
  | _ => none

end Keyword

namespace Operator

/-- The sign of an operator. -/
def sign : Operator → String
  | or => "||"
  | and => "&&"
  | equal => "=="
  | unequal => "!="
  | greaterOrEqual => ">="
  | lessOrEqual => "<="
  | greater => ">"
  | less => "<"
  | plus => "+"
  | minus => "-"
  | times => "*"
  | divide => "/"
  | modulo => "%"
  | not => "!"

/-- The operator that a word stands for. -/
def ofWord? : String → Option Operator
  | "and" => some and
  | "or" => some or
  | "not" => some not
  | "eq" => some equal
  | "ne" => some unequal
  | "gt" => some greater
  | "ge" => some greaterOrEqual
  | "lt" => some less
  | "le" => some lessOrEqual
  | "div" => some divide
  | "mod" => some modulo
  | _ => none

end Operator

/-- What a token says, as it is shown in messages. -/
def Token.content : Token → String
  | number written => written
  | text content => content
  | parameter written => written
  | path written => written
  | keyword word => word.word
  | operator sign => sign.sign
  | openParenthesis => "("
  | closeParenthesis => ")"
  | endOfText => ""

/-- Why a text is no expression. -/
inductive SyntaxFault where
  /-- A quote is never closed. -/
  | unterminatedText
  /-- No token starts with this character. -/
  | unexpectedCharacter (character : Char)
  /-- This character stands for nothing behind a backslash. -/
  | invalidEscape (character : Char)
  /-- There is no token at all. -/
  | emptyExpression
  /-- No expression goes on with this token. -/
  | unexpectedToken (content : String)
  /-- The expression stops too early. -/
  | unexpectedEnd
  /-- A parenthesis is not closed where it has to be. -/
  | closingExpected
  /-- An integer does not fit into 64 bits. -/
  | integerOutOfRange (written : String)
  /-- An integer or the index of a parameter has more digits than can be read.  This is no fault of
  the syntax, and it is not reported as one. -/
  | tooManyDigits (count : Nat)
deriving Repr, Inhabited, DecidableEq

/-- A fault at a position of the text. -/
structure SyntaxError where
  fault : SyntaxFault
  position : Nat
deriving Repr, Inhabited, DecidableEq

/-- The text of a fault, without its position. -/
def SyntaxFault.message : SyntaxFault → String
  | unterminatedText => "Unterminated string literal"
  | unexpectedCharacter character =>
      "Unexpected character '" ++ String.singleton character ++ "'"
  | invalidEscape character =>
      "Invalid escape sequence '\\" ++ String.singleton character ++ "'"
  | emptyExpression => "Empty expression"
  | unexpectedToken content => "Unexpected token '" ++ content ++ "'"
  | unexpectedEnd => "Unexpected end of expression"
  | closingExpected => "Expected ')' after grouped expression"
  | integerOutOfRange written => "Integer literal out of range: " ++ written
  | tooManyDigits count => (DigitFault.reading count).message

/-- Whether a fault is one of the syntax, which is reported with its position. -/
def SyntaxFault.isSyntax : SyntaxFault → Bool
  | tooManyDigits _ => false
  | _ => true

/-- The text of an error, with its position if it is one of the syntax. -/
def SyntaxError.message (error : SyntaxError) : String :=
  if error.fault.isSyntax then
    "Syntax error at position " ++ integerText error.position ++ ": " ++ error.fault.message
  else error.fault.message

end Stencil.Expr
