/-
Module: Stencil.Proofs.Number.WordArithmetic
Purpose: Wrapping depends on the remainder modulo 2^64 alone, and how quotients and remainders of
  integers of 64 bits belong together.
Main exports: Word64.wrap_modEq, Word64.wrap_congr, Word64.roundTowardZero,
  Word64.tdiv_eq_roundTowardZero, Word64.wrap_quotient_mul_add_remainder
-/
import Mathlib.Data.Int.ModEq
import Mathlib.Data.Rat.Floor
import Mathlib.Tactic.Positivity
import Stencil.Number.Word64

namespace Stencil.Word64

variable {value dividend divisor : Int}

/-! ### Wrapping -/

theorem wrap_inRange (value : Int) : InRange (wrap value) := by
  unfold InRange wrap least greatest modulus
  omega

/-- Integers in range stay as they are. -/
theorem wrap_of_inRange (fits : InRange value) : wrap value = value := by
  unfold InRange least greatest at fits
  unfold wrap least modulus
  omega

theorem wrap_modEq (value : Int) : wrap value ≡ value [ZMOD modulus] := by
  have shifted := (Int.mod_modEq (value - least) modulus).add_right least
  rwa [Int.sub_add_cancel] at shifted

/-- Integers that are congruent modulo 2^64 are wrapped to the same one. -/
theorem wrap_congr {one two : Int} (same : one ≡ two [ZMOD modulus]) : wrap one = wrap two := by
  have shifted : (one - least) % modulus = (two - least) % modulus := same.sub_right least
  unfold wrap
  rw [shifted]

/-- The integer in range that is congruent to a given one is the only one. -/
theorem eq_wrap_of_modEq {result : Int} (fits : InRange result)
    (same : result ≡ value [ZMOD modulus]) : result = wrap value := by
  rw [← wrap_of_inRange fits]
  exact wrap_congr same

/-! ### Quotients and remainders -/

/-- The integer next to a number on the side of zero. -/
def roundTowardZero (x : ℚ) : Int :=
  if 0 ≤ x then ⌊x⌋ else ⌈x⌉

theorem tdiv_natCast_eq_roundTowardZero (dividend : Int) (divisor : Nat) :
    dividend.tdiv divisor = roundTowardZero (dividend / divisor) := by
  unfold roundTowardZero
  split
  · rename_i positive
    rw [Rat.floor_intCast_div_natCast]
    rcases Nat.eq_zero_or_pos divisor with rfl | solid
    · simp
    · have above : 0 ≤ dividend := by
        have scaled := mul_nonneg positive (Nat.cast_nonneg (α := ℚ) divisor)
        rw [div_mul_cancel₀ _ (by exact_mod_cast solid.ne')] at scaled
        exact_mod_cast scaled
      exact Int.tdiv_eq_ediv_of_nonneg above
  · rename_i negative
    have below : 0 ≤ -dividend := by
      by_contra above
      exact negative (div_nonneg (by exact_mod_cast (by omega : 0 ≤ dividend)) (Nat.cast_nonneg _))
    rw [Rat.ceil_intCast_div_natCast, ← Int.tdiv_eq_ediv_of_nonneg below, Int.neg_tdiv, Int.neg_neg]

/-- The quotient of two integers is rounded toward zero, whatever their signs. -/
theorem tdiv_eq_roundTowardZero (dividend divisor : Int) :
    dividend.tdiv divisor = roundTowardZero (dividend / divisor) := by
  obtain ⟨amount, rfl | rfl⟩ := Int.eq_nat_or_neg divisor
  · exact tdiv_natCast_eq_roundTowardZero dividend amount
  · rw [← Int.neg_tdiv_neg, Int.neg_neg, tdiv_natCast_eq_roundTowardZero, Int.cast_neg,
      Int.cast_neg, neg_div, div_neg, Int.cast_natCast]

/-- The least integer divided by -1 is the only quotient out of range. -/
theorem tdiv_inRange (fits : InRange dividend)
    (exact : ¬(dividend = least ∧ divisor = -1)) : InRange (dividend.tdiv divisor) := by
  have smaller := Int.natAbs_tdiv_le_natAbs dividend divisor
  unfold InRange least greatest at *
  -- Only a quotient of the magnitude of the least integer can be too large, and it is positive then.
  by_cases large : (dividend.tdiv divisor).natAbs = 0x8000000000000000
  · have whole : dividend = -0x8000000000000000 := by omega
    have unit : divisor.natAbs ≤ 1 := by
      by_contra two
      have halved : (dividend.tdiv divisor).natAbs ≤ dividend.natAbs / 2 := by
        rw [Int.natAbs_tdiv]
        exact Nat.div_le_div_left (by omega) (by omega)
      omega
    have signs : divisor = 0 ∨ divisor = 1 := by omega
    rcases signs with rfl | rfl
    · simp at large
    · rw [Int.tdiv_one, whole]
      omega
  · omega

theorem quotient_eq_of_inRange (fits : InRange dividend)
    (exact : ¬(dividend = least ∧ divisor = -1)) :
    quotient dividend divisor = roundTowardZero (dividend / divisor) := by
  rw [quotient, wrap_of_inRange (tdiv_inRange fits exact), tdiv_eq_roundTowardZero]

/-- A remainder is no larger than the dividend. -/
theorem remainder_inRange (fits : InRange dividend) (divisor : Int) :
    InRange (remainder dividend divisor) := by
  have bound := Int.natAbs_tmod dividend divisor
  have smaller := Nat.mod_le dividend.natAbs divisor.natAbs
  unfold InRange least greatest remainder at *
  -- The least integer has no counterpart, so the sign of the dividend is needed as well.
  rcases Int.le_total 0 dividend with positive | negative
  · have sign := Int.tmod_nonneg divisor positive
    omega
  · have sign := Int.tmod_nonneg divisor (Int.neg_nonneg_of_nonpos negative)
    rw [Int.neg_tmod] at sign
    omega

theorem abs_remainder_lt (dividend : Int) (nonzero : divisor ≠ 0) :
    |remainder dividend divisor| < |divisor| := by
  rw [Int.abs_eq_natAbs, Int.abs_eq_natAbs, remainder, Int.natAbs_tmod]
  exact_mod_cast Nat.mod_lt _ (Int.natAbs_pos.mpr nonzero)

/-- A remainder that is not zero has the sign of the dividend. -/
theorem remainder_sign (dividend divisor : Int) :
    remainder dividend divisor = 0 ∨ (remainder dividend divisor).sign = dividend.sign := by
  rw [← Int.sign_eq_zero_iff_zero, remainder, Int.sign_tmod]
  split
  · exact .inl rfl
  · exact .inr rfl

/-- Quotient, divisor and remainder make up the dividend again, also where the quotient wraps. -/
theorem wrap_quotient_mul_add_remainder (fits : InRange dividend) (divisor : Int) :
    wrap (wrap (quotient dividend divisor * divisor) + remainder dividend divisor) = dividend := by
  have product : wrap (quotient dividend divisor * divisor) ≡
      dividend.tdiv divisor * divisor [ZMOD modulus] :=
    (wrap_modEq _).trans ((wrap_modEq _).mul_right divisor)
  have total : wrap (quotient dividend divisor * divisor) + remainder dividend divisor ≡
      dividend [ZMOD modulus] := by
    have whole := product.add_right (remainder dividend divisor)
    rwa [remainder, Int.tdiv_mul_add_tmod] at whole
  rw [wrap_congr total, wrap_of_inRange fits]

end Stencil.Word64
