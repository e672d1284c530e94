/-
Module: Stencil.Property.Error
Purpose: Everything that can go wrong while a property is looked up.
Main exports: LookupError, LookupError.message, Lookup
-/
import Stencil.Model.World
import Stencil.Text.Quoted

namespace Stencil

/-- Why a lookup failed. -/
inductive LookupError where
  /-- There is no object to look into. -/
  | noObject
  /-- The name of the property is empty. -/
  | noProperty
  /-- Only mappings can be looked into by key. -/
  | notMapping (typeName : String)
  /-- A dotted path has an empty segment. -/
  | invalidPath (path : String)
  /-- A value before the end of a dotted path is null. -/
  | nullIntermediate (partialPath path : String)
  /-- A required value is null. -/
  | missingValue (typeName property : String)
  /-- A mapping has no such key. -/
  | noKey (key : String)
  /-- A member was called without an argument that it needs. -/
  | argumentMissing (member argument : String)
  /-- Something outside the engine raised this. -/
  | raised (raised : Raised)
deriving Repr, Inhabited, DecidableEq

namespace LookupError

/-- The text of a failure.  A missing key is shown in quotes. -/
def message : LookupError → String
  | noObject => "Object must not be None"
  | noProperty => "Property must not be empty"
  | notMapping typeName => "Expected a mapping, got " ++ typeName
  | invalidPath path => "Invalid property path: '" ++ path ++ "'"
  | nullIntermediate partialPath path =>
      "Intermediate value null for property " ++ partialPath ++ " while resolving " ++ path
  | missingValue typeName property =>
      "Object of type " ++ typeName ++ " returned null for property " ++ property
  | noKey key => String.ofList (Text.quoted key.toList)
  | argumentMissing member argument =>
      member ++ "() missing 1 required positional argument: '" ++ argument ++ "'"
  | raised error => error.text

/-- The failures that belong to the resolving of properties, as opposed to wrong calls and to
failures of the model itself. -/
def isResolution : LookupError → Bool
  | invalidPath _ | nullIntermediate _ _ | missingValue _ _ => true
  | raised error => error.isA "ResolutionError"
  | _ => false

/-- The failures that say that a key is not there. -/
def isKey : LookupError → Bool
  | noKey _ => true
  | raised error => error.isA "KeyError"
  | _ => false

/-- The failures that say that an attribute is not there. -/
def isAttribute : LookupError → Bool
  | raised error => error.isA "AttributeError"
  | _ => false

/-- The failures that say that an expression cannot be evaluated. -/
def isOperation : LookupError → Bool
  | raised error => error.isA "EvaluationError"
  | _ => false

end LookupError

/-- A lookup can fail, and what it did to the world before stays done. -/
abbrev Lookup (α : Type) := ExceptT LookupError (StateM World) α

/-- What code outside the engine gives, or the failure that it raises. -/
def Lookup.ofRaised {α : Type} : Except Raised α → Lookup α
  | .ok value => pure value
  | .error error => throw (.raised error)

/-- A lookup needs an object, and then the name of a property. -/
def requireArguments (isNull : Bool) (property : String) : Lookup Unit := do
  if isNull then throw .noObject
  if property.isEmpty then throw .noProperty

end Stencil
