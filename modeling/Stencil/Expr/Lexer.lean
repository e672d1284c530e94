/-
Module: Stencil.Expr.Lexer
Purpose: Cutting the text of an expression into tokens.
Main exports: LexemeClass, LexemeClass.scan, tokenize
-/
import Stencil.Expr.Token
import Stencil.Text.Blank
import Stencil.Text.DecimalDigit
import Stencil.Text.WordCharacter

namespace Stencil.Expr

open Text

/-- How many characters satisfy a test before the first one that does not. -/
def runLength (test : Char → Bool) (text : List Char) : Nat :=
  (text.takeWhile test).length

/-- Whether a segment of a path may start with a character. -/
def isNameStart (character : Char) : Bool :=
  character == '$' || (isWordCharacter character && !isDecimalDigit character)

/-- Whether a segment of a path may go on with a character. -/
def isNamePart (character : Char) : Bool :=
  character == '$' || isWordCharacter character

/-- The length of an exponent: a mark, an optional sign and digits; zero if there is none. -/
def exponentLength : List Char → Nat
  | mark :: rest =>
      if mark == 'e' || mark == 'E' then
        let signLength := match rest with
          | sign :: _ => if sign == '+' || sign == '-' then 1 else 0
          | [] => 0
        let digits := runLength isDecimalDigit (rest.drop signLength)
        if digits = 0 then 0 else 1 + signLength + digits
      else 0
  | [] => 0

/-- The length of a number: digits with at most one point in or around them, and an optional
exponent; zero if there is none. -/
def numberLength (text : List Char) : Nat :=
  let whole := runLength isDecimalDigit text
  match text.drop whole with
  | '.' :: rest =>
      let fraction := runLength isDecimalDigit rest
      if whole = 0 && fraction = 0 then 0
      else whole + 1 + fraction + exponentLength (rest.drop fraction)
  | rest => if whole = 0 then 0 else whole + exponentLength rest

/-- The length of a quoted text behind its opening quote, with the closing one.  A backslash takes
the character behind it along, whatever it is. -/
def quotedRest? (quote : Char) : List Char → Option Nat
  | [] => none
  | ['\\'] => none
  | '\\' :: _ :: rest => (quotedRest? quote rest).map (· + 2)
  | character :: rest =>
      if character == quote then some 1 else (quotedRest? quote rest).map (· + 1)

/-- The length of the rest of a dotted path, inside a segment.  A point belongs to the path only if
another segment follows it. -/
def pathRest : List Char → Nat
  | '.' :: character :: rest => if isNameStart character then 2 + pathRest rest else 0
  | character :: rest => if isNamePart character then 1 + pathRest rest else 0
  | [] => 0

/-- The operator that a text starts with, the longer one if two fit. -/
def leadingOperator? : List Char → Option (Operator × Nat)
  | '|' :: '|' :: _ => some (.or, 2)
  | '&' :: '&' :: _ => some (.and, 2)
  | '=' :: '=' :: _ => some (.equal, 2)
  | '!' :: '=' :: _ => some (.unequal, 2)
  | '>' :: '=' :: _ => some (.greaterOrEqual, 2)
  | '<' :: '=' :: _ => some (.lessOrEqual, 2)
  | '>' :: _ => some (.greater, 1)
  | '<' :: _ => some (.less, 1)
  | '+' :: _ => some (.plus, 1)
  | '-' :: _ => some (.minus, 1)
  | '*' :: _ => some (.times, 1)
  | '/' :: _ => some (.divide, 1)
  | '%' :: _ => some (.modulo, 1)
  | '!' :: _ => some (.not, 1)
  | _ => none

/-- The classes of lexemes. -/
inductive LexemeClass where
  | blank
  | number
  | quoted
  | parameter
  | path
  | operator (sign : Operator)
  | openParenthesis
  | closeParenthesis
deriving Repr, Inhabited, DecidableEq

/-- The class and length of the lexeme that a text starts with, given its first character and the
rest. -/
def LexemeClass.scan (first : Char) (rest : List Char) : Option (LexemeClass × Nat) :=
  let text := first :: rest
  let number := numberLength text
  if isBlank first then some (.blank, runLength isBlank text)
  else if number ≠ 0 then some (.number, number)
  else if first == '\'' || first == '"' then
    (quotedRest? first rest).map fun length => (.quoted, length + 1)
  else if first == '?' then
    let digits := runLength isDecimalDigit rest
    if digits = 0 then none else some (.parameter, digits + 1)
  else if isNameStart first then some (.path, pathRest rest + 1)
  else if first == '(' then some (.openParenthesis, 1)
  else if first == ')' then some (.closeParenthesis, 1)
  else (leadingOperator? text).map fun (sign, length) => (.operator sign, length)

/-- The character that a character behind a backslash stands for. -/
def escapedCharacter? : Char → Option Char
  | 'n' => some '\n'
  | 't' => some '\t'
  | 'r' => some '\r'
  | '\\' => some '\\'
  | '\'' => some '\''
  | '"' => some '"'
  | _ => none

/-- Replace the escapes in the body of a quoted text that starts at a position. -/
def unescape (position : Nat) : List Char → Except SyntaxError (List Char)
  | [] => .ok []
  | '\\' :: character :: rest =>
      match escapedCharacter? character with
      | some meant => (unescape (position + 2) rest).map (meant :: ·)
      | none => .error ⟨.invalidEscape character, position⟩
  | character :: rest => (unescape (position + 1) rest).map (character :: ·)

/-- The token of a name: a reserved word or a word for an operator only if it is the whole path. -/
def wordToken (written : String) : Token :=
  match Keyword.ofWord? written with
  | some word => .keyword word
  | none =>
      match Operator.ofWord? written with
      | some sign => .operator sign
      | none => .path written

/-- The token of a lexeme at a position; blanks have none. -/
def LexemeClass.token? (position : Nat) (written : List Char) :
    LexemeClass → Except SyntaxError (Option Token)
  | blank => .ok none
  | number => .ok (some (.number (String.ofList written)))
  | quoted =>
      (unescape (position + 1) (written.drop 1).dropLast).map fun content =>
        some (.text (String.ofList content))
  | parameter => .ok (some (.parameter (String.ofList written)))
  | path => .ok (some (wordToken (String.ofList written)))
  | operator sign => .ok (some (.operator sign))
  | openParenthesis => .ok (some .openParenthesis)
  | closeParenthesis => .ok (some .closeParenthesis)

/-- Why no lexeme starts with a character. -/
def unreadable (character : Char) : SyntaxFault :=
  if character == '\'' || character == '"' then .unterminatedText
  else .unexpectedCharacter character

/-- Cut a text that starts at a position into lexemes, the last one being the end of the text. -/
def tokenizeFrom (position : Nat) (text : List Char) : Except SyntaxError (List Lexeme) :=
  match text with
  | [] => .ok [⟨.endOfText, position⟩]
  | first :: rest =>
      match LexemeClass.scan first rest with
      | none => .error ⟨unreadable first, position⟩
      | some (kind, length) => do
          let token? ← kind.token? position ((first :: rest).take length)
          let later ← tokenizeFrom (position + length) (rest.drop (length - 1))
          pure (match token? with
            | some token => ⟨token, position⟩ :: later
            | none => later)
termination_by text.length

/-- The lexemes of a text, the last one being its end. -/
def tokenize (text : String) : Except SyntaxError (List Lexeme) :=
  tokenizeFrom 0 text.toList

end Stencil.Expr
