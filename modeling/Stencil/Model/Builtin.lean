/-
Module: Stencil.Model.Builtin
Purpose: Classes that do not belong to a model, as far as the program itself knows them.
Main exports: commonClasses, objectClasses
-/
import Stencil.Value.Text
import Stencil.Text.Blank
import Stencil.Text.DecimalDigit
import Stencil.Text.LetterCase

namespace Stencil

/-- The number of binary digits of an integer's magnitude. -/
def bitLength (value : Int) : Nat :=
  if value = 0 then 0 else value.natAbs.log2 + 1

/-- A member that is read as it is. -/
def BuiltinMember.reading (read : Value → Value) : BuiltinMember :=
  { kind := .data, run := fun value => .ok (read value) }

/-- A member that is called. -/
def BuiltinMember.calling (call : Value → Value) : BuiltinMember :=
  { kind := .call, run := fun value => .ok (call value) }

/-- The characters of a text. -/
def Value.characters : Value → List Char
  | text content => content.toList
  | _ => []

/-- The integer that an integer or a boolean is. -/
def Value.asInteger : Value → Int
  | integer value | foreignInteger value => value
  | boolean flag => if flag then 1 else 0
  | _ => 0

/-- The number that a double-precision number is. -/
def Value.asDouble : Value → Double
  | double value | foreignReal value | derivedDouble _ value => value
  | _ => Double.zero

/-- Texts. -/
def textClass : BuiltinClass where
  members :=
    [("upper", .calling fun value => .text (String.ofList (Text.upper value.characters))),
      ("lower", .calling fun value => .text (String.ofList (Text.lower value.characters))),
      ("strip", .calling fun value => .text (String.ofList (Text.trim value.characters))),
      ("isdigit", .calling fun value =>
        .boolean (!value.characters.isEmpty && value.characters.all Text.isDigitLike))]

/-- Integers, and booleans. -/
def integerClass : BuiltinClass where
  members :=
    [("real", .reading fun value => .integer value.asInteger),
      ("imag", .reading fun _ => .integer 0),
      ("numerator", .reading fun value => .integer value.asInteger),
      ("denominator", .reading fun _ => .integer 1),
      ("bit_length", .calling fun value => .integer (bitLength value.asInteger))]

/-- Double-precision numbers. -/
def doubleClass : BuiltinClass where
  members :=
    [("real", .reading fun value => .double value.asDouble),
      ("imag", .reading fun _ => .double Double.zero),
      ("is_integer", .calling fun value =>
        .boolean (value.asDouble.isFinite && value.asDouble.units % Double.unitsOfOne == 0))]

/-- Lists. -/
def listClass : BuiltinClass where
  members := [("copy", .calling fun value => value)]

/-- The entries of a mapping, where nothing else has any. -/
def Value.entries (value : Value) : List (Value × Value) :=
  value.entries?.getD []

/-- The names among the keys of entries. -/
def namesOf (entries : List (Value × Value)) : List String :=
  entries.filterMap fun entry =>
    match entry.1 with
    | .text name => some name
    | _ => none

/-- The last entry of a mapping, which is taken out. -/
def lastEntry (value : Value) : Except Raised Value :=
  match value.entries.getLast? with
  | some (key, item) => .ok (.tuple [key, item])
  | none => .error ⟨["KeyError", "LookupError", "Exception"], "'popitem(): dictionary is empty'"⟩

/-- Mappings, as resolvers of objects see them.  What a member takes out is gone from the variables of
loops; mappings of the model itself are values here and stay as they are. -/
def mappingClass : BuiltinClass where
  members :=
    [("popitem",
        { kind := .call, run := lastEntry, takes := fun entries => namesOf entries.getLast?.toList }),
      ("clear", { kind := .call, run := fun _ => .ok .null, takes := namesOf }),
      ("copy", .calling fun value => .map value.entries)]

/-- Integers of another number library, which are written as others are. -/
def foreignIntegerClass : BuiltinClass where
  text value := writtenInteger value.asInteger

/-- Real numbers of another number library, which are written as others are. -/
def foreignRealClass : BuiltinClass where
  text value := .ok value.asDouble.text

/-- The classes that the program knows. -/
def commonClasses : String → BuiltinClass
  | "builtins.str" => textClass
  | "builtins.int" | "builtins.bool" => integerClass
  | "builtins.float" => doubleClass
  | "builtins.list" => listClass
  | "foreign.ForeignInt" => foreignIntegerClass
  | "foreign.ForeignReal" => foreignRealClass
  | _ => {}

/-- The classes that resolvers of objects meet: mappings have members there, too. -/
def objectClasses (className : String) : BuiltinClass :=
  if className = "builtins.dict" then mappingClass else commonClasses className

end Stencil
