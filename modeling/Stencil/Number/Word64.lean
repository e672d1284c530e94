/-
Module: Stencil.Number.Word64
Purpose: Signed 64-bit integers: range, wrapping, and division toward zero.
Main exports: Word64.InRange, Word64.wrap, Word64.quotient, Word64.remainder
-/
namespace Stencil.Word64

/-- The smallest signed 64-bit integer, -2^63. -/
def least : Int := -0x8000000000000000

/-- The largest signed 64-bit integer, 2^63 - 1. -/
def greatest : Int := 0x7fffffffffffffff

/-- The integers that fit into a signed 64-bit word. -/
def InRange (value : Int) : Prop :=
  least ≤ value ∧ value ≤ greatest

instance (value : Int) : Decidable (InRange value) :=
  inferInstanceAs (Decidable (_ ∧ _))

/-- The number of integers in range, 2^64. -/
def modulus : Int := 0x10000000000000000

/-- The integer in range that is congruent to the given one modulo 2^64. -/
def wrap (value : Int) : Int :=
  (value - least) % modulus + least

/-- The quotient rounded toward zero, wrapped into range. -/
def quotient (dividend divisor : Int) : Int :=
  wrap (dividend.tdiv divisor)

/-- The remainder that goes with the quotient rounded toward zero; it has the sign of the
dividend. -/
def remainder (dividend divisor : Int) : Int :=
  dividend.tmod divisor

end Stencil.Word64
