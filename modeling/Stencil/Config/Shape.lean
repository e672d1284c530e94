/-
Module: Stencil.Config.Shape
Purpose: Checking values against shapes, and loading them as records.
Main exports: Shape, Shape.anyOf, Shape.oneOf, Loaded, Constructor, LoadError, refusal,
  Shape.loadWith, Shape.load
-/
import Stencil.Config.LineTerminator
import Stencil.Model.Text
import Stencil.Value.Equality

namespace Stencil.Config

/-- A loaded value: as it was, or a record with its fields in the order of the shape. -/
inductive Loaded where
  | plain (value : Value)
  | record (name : String) (fields : List (String × Loaded))
deriving Repr, Inhabited

/-- What a class makes of the fields of a record.  It is told which of them are given and what all of
them are loaded as; it stores fields of its own, or raises an exception. -/
structure Constructor where
  name : String
  run : List String → List (String × Loaded) → Except Raised (List (String × Loaded))

/-- Constructors are known by their names. -/
instance : BEq Constructor where
  beq one other := one.name == other.name

instance : Inhabited Constructor where
  default := ⟨"", fun _ fields => .ok fields⟩

instance : Repr Constructor where
  reprPrec constructor _ := constructor.name

/-- What a whole record has to satisfy once its fields are loaded. -/
inductive RecordRule where
  | free
  /-- The field holds a line terminator, which is stored by its characters. -/
  | terminatorField (field : String)
  /-- The class of the record makes what it likes of its fields. -/
  | constructed (constructor : Constructor)
deriving Repr, Inhabited, BEq

/-- What a value has to look like. -/
inductive Shape where
  | text
  | integer
  | double
  | boolean
  /-- No restriction. -/
  | anything
  /-- Null, as one of several possibilities. -/
  | null
  /-- A class of values that cannot be loaded. -/
  | unsupported (name : String)
  /-- One of these values. -/
  | literal (allowed : List Value)
  /-- One of several shapes, tried in order. -/
  | union (alternatives : List Shape)
  /-- A mapping with these fields; a field with a default may be absent. -/
  | record (name : String) (fields : List (String × Shape × Option Value)) (rule : RecordRule)
deriving Repr, Inhabited, BEq

namespace Shape

/-- Drop all but the first of equal elements. -/
def withoutRepeats {α : Type} [BEq α] (items : List α) : List α :=
  items.foldl (fun kept item => if kept.contains item then kept else kept ++ [item]) []

/-- One of these values, each counted once. -/
def oneOf (allowed : List Value) : Shape :=
  literal (withoutRepeats allowed)

/-- The shapes that an alternative stands for. -/
def alternatives : Shape → List Shape
  | union shapes => shapes
  | shape => [shape]

/-- One of several shapes.  Alternatives of alternatives count as alternatives, equal ones count
once, and a single one stands for itself. -/
def anyOf (shapes : List Shape) : Shape :=
  match withoutRepeats (shapes.flatMap alternatives) with
  | [shape] => shape
  | several => union several

/-- The name of a shape in messages. -/
def name : Shape → String
  | text => "str"
  | integer => "int"
  | double => "float"
  | boolean => "bool"
  | anything => "Any"
  | null => "NoneType"
  | unsupported name => name
  | literal _ => "Literal"
  | union _ => "Union"
  | record name _ _ => name

end Shape

mutual

/-- Why a value does not have a shape. -/
inductive Mismatch where
  /-- The value is of another class. -/
  | wrongClass (expected found : String)
  /-- The value is none of the allowed ones. -/
  | notAllowed (allowed : List Value) (found : Value)
  /-- No alternative fits; this is how they fail. -/
  | noAlternative (failures : List LoadError)
  /-- The value is no mapping. -/
  | notMapping (name found : String)
  /-- The mapping has keys that are no fields. -/
  | unknownKeys (keys : List Value)
  /-- A field without a default is absent. -/
  | missingField
  /-- Values of this class cannot be loaded. -/
  | unsupportedClass (name : String)

/-- Why a value cannot be loaded. -/
inductive LoadError where
  /-- The value at a path does not have its shape. -/
  | mismatch (path : String) (fault : Mismatch)
  /-- A line terminator has an unknown name. -/
  | terminator (refused : UnknownTerminator)
  /-- The unknown keys cannot be put into order, because they hold values of different classes. -/
  | unorderedKeys (left right : String)
  /-- The class of a record raises an exception, or the writing of a value for a message. -/
  | raised (error : Raised)

end

deriving instance Repr, Inhabited, BEq for Mismatch, LoadError

mutual

/-- The text of a mismatch, without its path. -/
def Mismatch.text (classes : Classes) (objects : Objects) : Mismatch → Except Raised String
  | .wrongClass expected found => .ok ("expected " ++ expected ++ ", got " ++ found)
  | .notAllowed allowed found => do
      let expected ← classes.display objects (.list allowed)
      let given ← classes.display objects found
      pure ("expected one of " ++ expected ++ ", got " ++ given)
  | .noAlternative failures => do
      let texts ← LoadError.texts classes objects failures
      pure (" | ".intercalate texts)
  | .notMapping name found => .ok ("expected mapping for " ++ name ++ ", got " ++ found)
  | .unknownKeys keys => do
      let shown ← classes.display objects (.list keys)
      pure ("unknown key(s): " ++ shown)
  | .missingField => .ok "required field missing"
  | .unsupportedClass name => .ok ("unsupported type " ++ name)

/-- The text of an error, if its values can be written. -/
def LoadError.text (classes : Classes) (objects : Objects) : LoadError → Except Raised String
  | .mismatch path fault => do
      let reason ← fault.text classes objects
      pure (path ++ ": " ++ reason)
  | .terminator refused => .ok refused.message
  | .unorderedKeys left right =>
      .ok ("'<' not supported between instances of '" ++ left ++ "' and '" ++ right ++ "'")
  | .raised error => .ok error.text

/-- The texts of errors, if all their values can be written. -/
def LoadError.texts (classes : Classes) (objects : Objects) :
    List LoadError → Except Raised (List String)
  | [] => .ok []
  | error :: rest => do
      let text ← error.text classes objects
      let others ← LoadError.texts classes objects rest
      pure (text :: others)

end

/-- The exception that an error is. -/
def LoadError.exception (classes : Classes) (objects : Objects) (error : LoadError) : Raised :=
  match error.text classes objects with
  | .error failure => failure
  | .ok text =>
      match error with
      | .mismatch _ _ => ⟨["ConfigLoadError", "ELTUserError", "ValueError", "Exception"], text⟩
      | .terminator _ => ⟨["ValueError", "Exception"], text⟩
      | .unorderedKeys _ _ => ⟨["TypeError", "Exception"], text⟩
      | .raised failure => failure

/-- Whether an error lets the next alternative be tried: it says where a value does not have its
shape, or a class raises such an error itself. -/
def LoadError.givesWay : LoadError → Bool
  | .mismatch _ _ => true
  | .raised error => error.isA "ConfigLoadError"
  | _ => false

/-- What a mismatch at a path is raised as. -/
abbrev Refusal := String → Mismatch → LoadError

/-- A mismatch is raised with its text; if that cannot be written, the reason is raised instead. -/
def refusal (classes : Classes) (objects : Objects) : Refusal := fun path fault =>
  match fault.text classes objects with
  | .ok _ => .mismatch path fault
  | .error raised => .raised raised

/-- Whether a key is ordered by its value as a number. -/
def isNumberKey : Value → Bool
  | .boolean _ | .integer _ | .double _ | .derivedDouble _ _ | .decimal _ _ | .fraction _ _ => true
  | _ => false

/-- Whether a key is the infinite number of a sign. -/
def isInfiniteKey (negative : Bool) : Value → Bool
  | .double value | .derivedDouble _ value => value.isInfinite && value.isNegative == negative
  | _ => false

/-- Whether one number is less than another.  What is no number is neither less nor greater than any. -/
def numberBefore (one two : Value) : Bool :=
  match one.exactRatio?, two.exactRatio? with
  | some (numerator, denominator), some (numerator', denominator') =>
      numerator * denominator' < numerator' * denominator
  | some _, none => isInfiniteKey false two
  | none, some _ => isInfiniteKey true one
  | none, none => isInfiniteKey true one && isInfiniteKey false two

mutual

/-- What keeps two keys from having an order.  Texts, octets and dates have one among themselves, and
so have numbers; tuples have the order of the first elements that differ. -/
def clash? : Value → Value → Option (Value × Value)
  | .text _, .text _ | .bytes _, .bytes _ | .date _ _ _, .date _ _ _ => none
  | .tuple one, .tuple two => clashWithin? one two
  | one, two => if isNumberKey one && isNumberKey two then none else some (one, two)

/-- The same for the elements of two tuples. -/
def clashWithin? : List Value → List Value → Option (Value × Value)
  | one :: rest, two :: rest' =>
      if one.equals two then clashWithin? rest rest' else clash? one two
  | _, _ => none

end

mutual

/-- Whether one key comes before another: texts by their characters, numbers by their value, dates by
the calendar, and tuples by the first elements that differ. -/
def keyBefore : Value → Value → Bool
  | .text one, .text two => one < two
  | .bytes one, .bytes two => one < two
  | .date year month day, .date year' month' day' =>
      year < year' || (year == year' && (month < month' || (month == month' && day < day')))
  | .tuple one, .tuple two => tupleBefore one two
  | one, two => numberBefore one two

/-- The same for the elements of two tuples. -/
def tupleBefore : List Value → List Value → Bool
  | one :: rest, two :: rest' =>
      if one.equals two then tupleBefore rest rest' else keyBefore one two
  | [], _ :: _ => true
  | _, _ => false

end

/-- What keeps keys from having an order: the first of them that has none with a later one. -/
def firstClash? : List Value → Option (Value × Value)
  | [] => none
  | first :: rest => (rest.findSome? (clash? first)).or (firstClash? rest)

/-- Put keys into order.  Of two that have none, a text is named first. -/
def orderKeys (keys : List Value) : Except LoadError (List Value) :=
  match firstClash? keys with
  | none => .ok (keys.mergeSort fun left right => !keyBefore right left)
  | some (.text characters, other) =>
      .error (.unorderedKeys (Value.text characters).typeName other.typeName)
  | some (first, other) => .error (.unorderedKeys other.typeName first.typeName)

/-- The keys of a mapping that are no fields. -/
def unknownKeys (fieldNames : List String) (entries : List (Value × Value)) : List Value :=
  (entries.map (·.1)).filter fun key =>
    match key with
    | .text name => !fieldNames.contains name
    | _ => true

/-- Whether a value is a scalar of the class with a name, or of a class under it.  An object is none,
even if its class has the name of one of these. -/
def isScalarOf (expected : String) : Value → Bool
  | .text _ => expected == "str"
  | .integer _ => expected == "int"
  | .double _ | .derivedDouble _ _ => expected == "float"
  | .boolean _ => expected == "bool"
  | _ => false

section Loading

variable (refuse : Refusal)

/-- Check a value against a class of scalars. -/
def requireClass (path expected : String) (value : Value) : Except LoadError Loaded :=
  if isScalarOf expected value then .ok (.plain value)
  else .error (refuse path (.wrongClass expected value.typeName))

/-- Check that a value is one of the allowed ones.  Numbers are compared by value. -/
def requireAllowed (path : String) (allowed : List Value) (value : Value) :
    Except LoadError Loaded :=
  if allowed.any fun candidate => candidate.equals value then .ok (.plain value)
  else .error (refuse path (.notAllowed allowed value))

/-- Apply the rule of a record to its fields, some of which are given. -/
def applyRule (rule : RecordRule) (given : List String) (fields : List (String × Loaded)) :
    Except LoadError (List (String × Loaded)) :=
  match rule with
  | .free => .ok fields
  | .terminatorField name =>
      fields.mapM fun field =>
        match field with
        | (fieldName, .plain (.text written)) =>
            if fieldName = name then
              match LineTerminator.read written with
              | .ok terminator => .ok (fieldName, .plain (.text terminator.text))
              | .error refused => .error (.terminator refused)
            else .ok field
        | _ => .ok field
  | .constructed constructor =>
      match constructor.run given fields with
      | .ok stored => .ok stored
      | .error raised => .error (.raised raised)

/-- The fields of a record that a mapping gives. -/
def givenFields (entries : List (Value × Value)) (fields : List (String × Shape × Option Value)) :
    List String :=
  (fields.map (·.1)).filter fun name => (Value.get? entries name).isSome

mutual

/-- Load a value that has to have a shape; `path` is its place in messages. -/
def Shape.loadWith (path : String) (value : Value) : Shape → Except LoadError Loaded
  | .text => requireClass refuse path "str" value
  | .integer => requireClass refuse path "int" value
  | .double => requireClass refuse path "float" value
  | .boolean => requireClass refuse path "bool" value
  | .anything => .ok (.plain value)
  | .null => .error (refuse path (.unsupportedClass "NoneType"))
  | .unsupported name => .error (refuse path (.unsupportedClass name))
  | .literal allowed => requireAllowed refuse path allowed value
  | .union alternatives => loadAny path value [] alternatives
  | .record name fields rule =>
      match value with
      | .map entries => do
          let unknown := unknownKeys (fields.map (·.1)) entries
          if unknown.isEmpty then
            let loaded ← loadFields path entries fields
            let fields ← applyRule rule (givenFields entries fields) loaded
            pure (.record name fields)
          else
            let keys ← orderKeys unknown
            .error (refuse path (.unknownKeys keys))
      | other => .error (refuse path (.notMapping name other.typeName))

/-- Load a value by the first alternative that fits; `failures` is how the earlier ones failed.  Null
fits no alternative but its own. -/
def loadAny (path : String) (value : Value) (failures : List LoadError) :
    List Shape → Except LoadError Loaded
  | [] => .error (refuse path (.noAlternative failures))
  | .null :: rest => if value.isNull then .ok (.plain .null) else loadAny path value failures rest
  | shape :: rest =>
      match shape.loadWith path value with
      | .ok loaded => .ok loaded
      | .error error =>
          if error.givesWay then loadAny path value (failures ++ [error]) rest else .error error

/-- Load the fields of a record. -/
def loadFields (path : String) (entries : List (Value × Value)) :
    List (String × Shape × Option Value) → Except LoadError (List (String × Loaded))
  | [] => .ok []
  | (name, shape, default?) :: rest => do
      let fieldPath := path ++ "." ++ name
      let loaded ←
        match Value.get? entries name, default? with
        | some value, _ => shape.loadWith fieldPath value
        | none, some value => .ok (.plain value)
        | none, none => .error (refuse fieldPath .missingField)
      let later ← loadFields path entries rest
      pure ((name, loaded) :: later)

end

end Loading

/-- Load a value that has to have a shape; every mismatch is raised as it is. -/
def Shape.load (path : String) (value : Value) (shape : Shape) : Except LoadError Loaded :=
  shape.loadWith LoadError.mismatch path value

end Stencil.Config
