/-
Module: Stencil.Value.Equality
Purpose: Equality of values across number classes, and mappings that keep one entry per key.
Main exports: Value.scalarEquals, Value.equals, Value.insert, Value.mapOf, Value.bind
-/
import Stencil.Value.Basic

namespace Stencil.Value

/-- The exact ratio that a finite number of any class stands for, with its denominator. -/
def exactRatio? : Value → Option (Int × Nat)
  | boolean flag => some (if flag then 1 else 0, 1)
  | integer value => some (value, 1)
  | double value | derivedDouble _ value | complex value ⟨0⟩ =>
      if value.isFinite then
        let units : Int := value.units
        some (if value.isNegative then -units else units, Double.unitsOfOne)
      else none
  | decimal negative magnitude =>
      let (up, down) := Double.powerOfTen magnitude.exponent
      let scaled : Int := (magnitude.coefficient * up : Nat)
      some (if negative then -scaled else scaled, down)
  | fraction numerator denominator => some (numerator, denominator)
  | _ => none

/-- Equality of scalars: numbers by value whatever their class, all else within one class.
Collections and objects equal no scalar. -/
def scalarEquals (left right : Value) : Bool :=
  match left, right with
  | null, null => true
  | text one, text two => one == two
  | bytes one, bytes two => one == two
  | date year month day, date year' month' day' =>
      year == year' && month == month' && day == day'
  | double one, double two => one.equals two
  | one, two =>
      match one.exactRatio?, two.exactRatio? with
      | some (numerator, denominator), some (numerator', denominator') =>
          numerator * denominator' == numerator' * denominator
      | _, _ => false

mutual

/-- Equality of all values: lists and tuples element by element, sets and mappings in whatever order,
objects if they are the same one, and all else as scalars. -/
def equals : Value → Value → Bool
  | list one, list two | tuple one, tuple two => equalsAll one two
  | set one, set two => one.length == two.length && allWithin two one
  | map one, map two => one.length == two.length && entriesWithin two one
  | object _ one, object _ two => one == two
  | complex real imaginary, complex real' imaginary' =>
      real.equals real' && imaginary.equals imaginary'
  | one, two => scalarEquals one two

def equalsAll : List Value → List Value → Bool
  | [], [] => true
  | one :: rest, two :: rest' => one.equals two && equalsAll rest rest'
  | _, _ => false

/-- Whether a set has all of some elements. -/
def allWithin (elements : List Value) : List Value → Bool
  | [] => true
  | one :: rest => elements.any one.equals && allWithin elements rest

/-- Whether a mapping has equal values at all of some keys. -/
def entriesWithin (entries : List (Value × Value)) : List (Value × Value) → Bool
  | [] => true
  | (key, value) :: rest =>
      (match entries.find? fun entry => scalarEquals entry.1 key with
        | some entry => value.equals entry.2
        | none => false) && entriesWithin entries rest

end

/-- Put a value at a key.  An equal key keeps its place and its own form. -/
def insert : List (Value × Value) → Value → Value → List (Value × Value)
  | [], key, value => [(key, value)]
  | (present, old) :: rest, key, value =>
      if scalarEquals present key then (present, value) :: rest
      else (present, old) :: insert rest key value

/-- The mapping with the given entries, put in one after another. -/
def mapOf (entries : List (Value × Value)) : Value :=
  map (entries.foldl (fun built entry => insert built entry.1 entry.2) [])

/-- Put a value at a textual key. -/
def bind : List (Value × Value) → String → Value → List (Value × Value)
  | [], name, value => [(text name, value)]
  | (text present, old) :: rest, name, value =>
      if present = name then (text present, value) :: rest
      else (text present, old) :: bind rest name value
  | entry :: rest, name, value => entry :: bind rest name value

end Stencil.Value
