/-
Module: Stencil.Expr.Path
Purpose: Paths of expressions and the conversions at their ends.
Main exports: Conversion, pathConversion?, pathBase
-/
namespace Stencil.Expr

/-- The conversions that the last segment of a path can ask for. -/
inductive Conversion where
  | toText
  | toInteger
  | toDouble
deriving Repr, Inhabited, DecidableEq

/-- The name of a conversion. -/
def Conversion.name : Conversion → String
  | toText => "toString"
  | toInteger => "toInt"
  | toDouble => "toFloat"

/-- The path before a final segment with a name, if something stands before that segment. -/
def withoutSegment? (path : List Char) (name : List Char) : Option (List Char) :=
  let suffix := '.' :: name
  let base := path.take (path.length - suffix.length)
  if !base.isEmpty && base ++ suffix == path then some base else none

/-- Split the conversion off a path: what is to be looked up, and the conversion. -/
def splitConversion (written : String) : String × Option Conversion :=
  let split (conversion : Conversion) : Option (String × Option Conversion) :=
    (withoutSegment? written.toList conversion.name.toList).map fun base =>
      (String.ofList base, some conversion)
  ((split .toText).or ((split .toInteger).or (split .toDouble))).getD (written, none)

/-- The conversion at the end of a path. -/
def pathConversion? (written : String) : Option Conversion :=
  (splitConversion written).2

/-- A path without its conversion: what is looked up in the model. -/
def pathBase (written : String) : String :=
  (splitConversion written).1

end Stencil.Expr
