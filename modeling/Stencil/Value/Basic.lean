/-
Module: Stencil.Value.Basic
Purpose: The values that models, parameters and expressions are made of.
Main exports: Value, Value.typeName, Value.qualifiedName, Value.kindName, Value.get?
-/
import Stencil.Number.Shortest

namespace Stencil

/-- A value of a model.  Scalars and collections are plain data.  Objects and streams are references
into a `World`, because what they hold can change while a template is rendered. -/
inductive Value where
  | null
  | boolean (flag : Bool)
  | integer (value : Int)
  | double (value : Double)
  | text (characters : String)
  | list (items : List Value)
  | tuple (items : List Value)
  | set (items : List Value)
  | map (entries : List (Value × Value))
  /-- The variables of a loop, as the mapping in which they are kept.  Members of its class can take
  entries out. -/
  | bindings (entries : List (Value × Value))
  | bytes (octets : List UInt8)
  /-- An integer of another number library. -/
  | foreignInteger (value : Int)
  /-- A real number of another number library. -/
  | foreignReal (value : Double)
  /-- A double-precision number of a class of its own, under the class of the others. -/
  | derivedDouble (className : String) (value : Double)
  | decimal (negative : Bool) (magnitude : Decimal)
  | fraction (numerator : Int) (denominator : Nat)
  | complex (real imaginary : Double)
  | date (year month day : Nat)
  /-- A function without arguments, with the value that it returns. -/
  | function (result : Value)
  | object (className : String) (identity : Nat)
  /-- A stream yields each of its elements once. -/
  | stream (identity : Nat)
  /-- A read-only view of the contents of a mapping. -/
  | view (className : String) (items : List Value)
  /-- A part of the engine itself, of which a model sees the class only. -/
  | handle (moduleName className : String)
deriving Repr, Inhabited, BEq

namespace Value

/-- The name of the class of a value. -/
def typeName : Value → String
  | null => "NoneType"
  | boolean _ => "bool"
  | integer _ => "int"
  | double _ => "float"
  | text _ => "str"
  | list _ => "list"
  | tuple _ => "tuple"
  | set _ => "set"
  | map _ | bindings _ => "dict"
  | bytes _ => "bytes"
  | foreignInteger _ => "ForeignInt"
  | foreignReal _ => "ForeignReal"
  | derivedDouble className _ => className
  | decimal _ _ => "Decimal"
  | fraction _ _ => "Fraction"
  | complex _ _ => "complex"
  | date _ _ _ => "date"
  | function _ => "function"
  | object className _ => className
  | stream _ => "generator"
  | view className _ => className
  | handle _ className => className

/-- The name of the module that a value's class belongs to. -/
def moduleName : Value → String
  | foreignInteger _ | foreignReal _ | derivedDouble _ _ => "foreign"
  | decimal _ _ => "decimal"
  | fraction _ _ => "fractions"
  | date _ _ _ => "datetime"
  | object _ _ => "model"
  | view _ _ => "collections.abc"
  | handle moduleName _ => moduleName
  | _ => "builtins"

/-- The name of a value's class with its module. -/
def qualifiedName (value : Value) : String :=
  value.moduleName ++ "." ++ value.typeName

/-- The name of a value's kind in messages: the kinds of the expression language have names of their
own, all others are named by their class. -/
def kindName : Value → String
  | null => "null"
  | boolean _ => "boolean"
  | integer _ => "integer"
  | double _ | derivedDouble _ _ => "double"
  | text _ => "string"
  | value => value.typeName

def isNull : Value → Bool
  | null => true
  | _ => false

/-- Whether a value is a mapping of its own. -/
def isMap : Value → Bool
  | map _ => true
  | _ => false

/-- The entries of a value that is looked into by key. -/
def entries? : Value → Option (List (Value × Value))
  | map entries | bindings entries => some entries
  | _ => none

/-- The value at a textual key. -/
def get? (entries : List (Value × Value)) (key : String) : Option Value :=
  match entries with
  | [] => none
  | (.text name, value) :: rest => if name = key then some value else get? rest key
  | _ :: rest => get? rest key

end Value

end Stencil
