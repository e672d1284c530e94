/-
Module: Stencil.Expr.Evaluation
Purpose: The operations of the expression language on values, and the errors that they can give.
Main exports: EvaluationError, Failure, Value.canonical, joinOr, joinAnd, applySum, applyProduct,
  applyUnary, convert
-/
import Stencil.Expr.Path
import Stencil.Expr.Tree
import Stencil.Model.Text
import Stencil.Number.Reading
import Stencil.Number.Word64
import Stencil.Property.Error

namespace Stencil

namespace Expr

/-- Why an operation of the expression language failed. -/
inductive EvaluationError where
  | orOnNull
  | orOnKinds (left right : String)
  | andOnNull
  | andOnKinds (left right : String)
  | compareNull
  | compareKinds (left right : String)
  | addToNull
  | addNull
  | addKinds (left right : String)
  | subtractKinds (left right : String)
  | multiplyNull
  | multiplyKinds (sign : ProductOperator) (left right : String)
  | integerDivisionByZero
  | unaryOnNull (sign : UnaryOperator)
  | unaryOnKind (sign : UnaryOperator) (kind : String)
  /-- There is no model to look a path up in. -/
  | noModel (path : String)
  /-- A parameter was not given. -/
  | tooFewParameters (needed given : Nat)
  /-- An integer from outside does not fit into 64 bits. -/
  | integerOutOfRange (value : Int)
  /-- A value from outside belongs to no kind of the language. -/
  | invalidType (className : String)
  | convertNull (target : Conversion) (path : String)
  | convertKind (target : Conversion) (path kind : String)
  | invalidInteger (path written : String)
  | invalidDouble (path written : String)
deriving Repr, Inhabited, DecidableEq

/-- What a product operator does, as it is said in messages. -/
def ProductOperator.verb : ProductOperator → String
  | times => "multiply"
  | divide => "divide"
  | modulo => "build modulus for"

/-- The name of an operator in front of its operand in messages. -/
def UnaryOperator.name : UnaryOperator → String
  | not => "NOT"
  | minus => "MINUS"
  | empty => "EMPTY"

/-- What a conversion turns null into, as it is said in messages. -/
def Conversion.shortTarget : Conversion → String
  | toText => "a text"
  | toInteger => "an integer"
  | toDouble => "a float"

/-- What a conversion turns a value into, as it is said in messages. -/
def Conversion.longTarget : Conversion → String
  | toText => "a text"
  | toInteger => "an integer"
  | toDouble => "a floating point number"

/-- The text of an error. -/
def EvaluationError.message : EvaluationError → String
  | orOnNull => "Unable to determine OR value on null values"
  | orOnKinds left right =>
      "Unable to determine OR value for an instance of " ++ left ++ ", and an instance of " ++ right
  | andOnNull => "Unable to determine AND value on null values"
  | andOnKinds left right =>
      "Unable to determine AND value for an instance of " ++ left ++ ", and an instance of " ++ right
  | compareNull => "Unable to compare null values"
  | compareKinds left right =>
      "Unable to compare an instance of " ++ left ++ ", and an instance of " ++ right
  | addToNull => "Unable to add, or subtract from a null value"
  | addNull => "Unable to add, or subtract a null value"
  | addKinds left right =>
      "Unable to add an instance of " ++ left ++ ", and an instance of " ++ right
  | subtractKinds left right =>
      "Unable to subtract an instance of " ++ right ++ " from an instance of " ++ left
  | multiplyNull => "Unable to multiply, or divide a null value"
  | multiplyKinds sign left right =>
      "Unable to " ++ sign.verb ++ " an instance of " ++ left ++ " and an instance of " ++ right
  | integerDivisionByZero => "Integer division by zero"
  | unaryOnNull sign => "Unable to evaluate " ++ sign.name ++ " on a null value"
  | unaryOnKind sign kind => "Unable to evaluate " ++ sign.name ++ " on an instance of " ++ kind
  | noModel path => "No model available to resolve property " ++ path
  | tooFewParameters needed given =>
      "Expected at least " ++ integerText needed ++ " parameters, got " ++ integerText given
  | integerOutOfRange value => "Integer value out of 64-bit range: " ++ integerText value
  | invalidType className => "Invalid value type: " ++ className
  | convertNull target path =>
      "Unable to convert a null value to " ++ target.shortTarget ++ " (property " ++ path ++ ")"
  | convertKind target path kind =>
      "Unable to convert an instance of " ++ kind ++ " to " ++ target.longTarget ++ " (property "
        ++ path ++ ")"
  | invalidInteger path written => "Invalid integer value for property " ++ path ++ ": " ++ written
  | invalidDouble path written => "Invalid float value for property " ++ path ++ ": " ++ written

/-- Why the evaluation of an expression failed: in an operation, or in a lookup. -/
inductive Failure where
  | operation (error : EvaluationError)
  | lookup (error : LookupError)
deriving Repr, Inhabited, DecidableEq

namespace Failure

/-- The text of a failure. -/
def message : Failure → String
  | operation error => error.message
  | lookup error => error.message

/-- The failure that something outside the engine has raised. -/
def ofRaised (raised : Raised) : Failure :=
  .lookup (.raised raised)

/-- An error of which the text holds an integer.  The text cannot be made if the integer has too many
digits. -/
def stating (value : Int) (error : EvaluationError) : Failure :=
  if IsWritable value then .operation error else ofRaised DigitFault.writing.raised

end Failure

end Expr

open Stencil.Expr

/-- An integer from outside, if it fits into 64 bits. -/
def canonicalInteger (value : Int) : Except Failure Value :=
  if Word64.InRange value then .ok (.integer value)
  else .error (.stating value (.integerOutOfRange value))

/-- A value from outside as a value of the language: null, a boolean, a text, an integer of 64 bits or
a double-precision number.  Numbers of other libraries are converted, but a double-precision number
keeps a class of its own.  All else is refused. -/
def Value.canonical : Value → Except Failure Value
  | .null => .ok .null
  | .boolean flag => .ok (.boolean flag)
  | .text content => .ok (.text content)
  | .integer value => canonicalInteger value
  | .foreignInteger value => canonicalInteger value
  | .double value => .ok (.double value)
  | .derivedDouble className value => .ok (.derivedDouble className value)
  | .foreignReal value => .ok (.double value)
  | other => .error (.operation (.invalidType other.qualifiedName))

namespace Expr

/-- One step of a disjunction. -/
def joinOr : Value → Value → Except EvaluationError Bool
  | .boolean left, .boolean right => .ok (left || right)
  | left, right =>
      if left.isNull || right.isNull then .error .orOnNull
      else .error (.orOnKinds left.kindName right.kindName)

/-- One step of a conjunction. -/
def joinAnd : Value → Value → Except EvaluationError Bool
  | .boolean left, .boolean right => .ok (left && right)
  | left, right =>
      if left.isNull || right.isNull then .error .andOnNull
      else .error (.andOnKinds left.kindName right.kindName)

/-- Equality of values of the language: null equals null, all else equals only its own kind. -/
def sameValue : Value → Value → Bool
  | .null, .null => true
  | .boolean left, .boolean right => left == right
  | .integer left, .integer right => left == right
  | .double left, .double right => left.equals right
  | .derivedDouble class' left, .derivedDouble className right =>
      class' == className && left.equals right
  | .text left, .text right => left == right
  | _, _ => false

def applyEquality (sign : EqualityOperator) (left right : Value) : Value :=
  match sign with
  | .equal => .boolean (sameValue left right)
  | .unequal => .boolean (!sameValue left right)

def compareIntegers : ComparisonOperator → Int → Int → Bool
  | .greater, left, right => right < left
  | .greaterOrEqual, left, right => right ≤ left
  | .less, left, right => left < right
  | .lessOrEqual, left, right => left ≤ right

def compareDoubles : ComparisonOperator → Double → Double → Bool
  | .greater, left, right => right.lessThan left
  | .greaterOrEqual, left, right => right.atMost left
  | .less, left, right => left.lessThan right
  | .lessOrEqual, left, right => left.atMost right

/-- Order is defined on two integers and on two double-precision numbers. -/
def applyComparison (sign : ComparisonOperator) : Value → Value → Except EvaluationError Value
  | .integer left, .integer right => .ok (.boolean (compareIntegers sign left right))
  | .double left, .double right => .ok (.boolean (compareDoubles sign left right))
  | left, right =>
      if left.isNull || right.isNull then .error .compareNull
      else .error (.compareKinds left.kindName right.kindName)

/-- Addition and subtraction of two numbers of one kind; integers wrap around. -/
def applySum (sign : SumOperator) : Value → Value → Except EvaluationError Value
  | .integer left, .integer right =>
      .ok (.integer (Word64.wrap (match sign with
        | .plus => left + right
        | .minus => left - right)))
  | .double left, .double right =>
      .ok (.double (match sign with
        | .plus => left.add right
        | .minus => left.subtract right))
  | left, right =>
      if left.isNull then .error .addToNull
      else if right.isNull then .error .addNull
      else match sign with
        | .plus => .error (.addKinds left.kindName right.kindName)
        | .minus => .error (.subtractKinds left.kindName right.kindName)

/-- Multiplication, division and remainder of integers: products wrap around, quotients are rounded
toward zero. -/
def multiplyIntegers (sign : ProductOperator) (left right : Int) : Except EvaluationError Value :=
  match sign with
  | .times => .ok (.integer (Word64.wrap (left * right)))
  | .divide =>
      if right = 0 then .error .integerDivisionByZero
      else .ok (.integer (Word64.quotient left right))
  | .modulo =>
      if right = 0 then .error .integerDivisionByZero
      else .ok (.integer (Word64.remainder left right))

def multiplyDoubles (sign : ProductOperator) (left right : Double) : Double :=
  match sign with
  | .times => left.multiply right
  | .divide => left.divide right
  | .modulo => left.modulo right

/-- Multiplication, division and remainder of two numbers of one kind. -/
def applyProduct (sign : ProductOperator) : Value → Value → Except EvaluationError Value
  | .integer left, .integer right => multiplyIntegers sign left right
  | .double left, .double right => .ok (.double (multiplyDoubles sign left right))
  | left, right =>
      if left.isNull || right.isNull then .error .multiplyNull
      else .error (.multiplyKinds sign left.kindName right.kindName)

/-- Negation of a boolean, of a number, and the test for an empty text. -/
def applyUnary : UnaryOperator → Value → Except EvaluationError Value
  | sign, .null => .error (.unaryOnNull sign)
  | .not, .boolean flag => .ok (.boolean (!flag))
  | .minus, .integer value => .ok (.integer (Word64.wrap (-value)))
  | .minus, .double value => .ok (.double value.negate)
  | .empty, .text content => .ok (.boolean content.isEmpty)
  | sign, value => .error (.unaryOnKind sign value.kindName)

/-- Read an integer that fits into 64 bits from a text.  Before anything else, the text of an integer
must not have too many digits. -/
def textToInteger (path written : String) : Except Failure Value :=
  match readInteger? written.toList with
  | some value =>
      let digits := (splitSign written.toList).2
      if ¬ IsReadable digits then
        .error (.ofRaised (DigitFault.reading digits.length).raised)
      else if Word64.InRange value then .ok (.integer value)
      else .error (.operation (.invalidInteger path written))
  | none => .error (.operation (.invalidInteger path written))

/-- The conversion to an integer, of integers and of texts. -/
def toInteger (path : String) : Value → Except Failure Value
  | .null => .error (.operation (.convertNull .toInteger path))
  | .integer value => canonicalInteger value
  | .foreignInteger value => canonicalInteger value
  | .text written => textToInteger path written
  | value => .error (.operation (.convertKind .toInteger path value.kindName))

/-- An integer of 64 bits as a double-precision number. -/
def integerToDouble (value : Int) : Except Failure Value :=
  (canonicalInteger value).map fun _ => .double (Double.ofInteger value)

/-- The conversion to a double-precision number, of numbers and of texts. -/
def toDouble (path : String) : Value → Except Failure Value
  | .null => .error (.operation (.convertNull .toDouble path))
  | .integer value => integerToDouble value
  | .foreignInteger value => integerToDouble value
  | .double value => .ok (.double value)
  | .derivedDouble _ value => .ok (.double value)
  | .foreignReal value => .ok (.double value)
  | .text written =>
      match readDouble? written.toList with
      | some value => .ok (.double value)
      | none => .error (.operation (.invalidDouble path written))
  | value => .error (.operation (.convertKind .toDouble path value.kindName))

/-- The conversion to a text, of all values. -/
def toText (world : World) (value : Value) : Except Failure Value :=
  ((world.text value).map Value.text).mapError Failure.ofRaised

/-- What a looked up value becomes: converted as the path asks, else checked to be a value of the
language. -/
def convert (world : World) (path : String) : Option Conversion → Value → Except Failure Value
  | none, value => value.canonical
  | some .toText, value => toText world value
  | some .toInteger, value => toInteger path value
  | some .toDouble, value => toDouble path value

end Expr

end Stencil
