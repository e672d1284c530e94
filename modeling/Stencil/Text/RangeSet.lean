/-
Module: Stencil.Text.RangeSet
Purpose: Sets of character codes written as the list of codes at which membership changes.
Main exports: RangeSet, RangeSet.contains
-/
namespace Stencil.Text

/-- A set of character codes, given by the ascending codes at which membership flips.  Codes
below the first boundary are outside. -/
structure RangeSet where
  boundaries : List Nat
deriving Repr, Inhabited, DecidableEq

namespace RangeSet

/-- Membership of a code, given whether codes just below the first remaining boundary belong. -/
def containsFrom (inside : Bool) : List Nat → Nat → Bool
  | [], _ => inside
  | boundary :: later, code => if code < boundary then inside else containsFrom (!inside) later code

/-- Whether a character belongs to the set. -/
def contains (set : RangeSet) (character : Char) : Bool :=
  containsFrom false set.boundaries character.toNat

end RangeSet

end Stencil.Text
