/-
Module: Stencil.Proofs.Number.Rounding
Purpose: Rounding a ratio depends on its value alone, and a number is what its own value rounds to.
Main exports: Double.binaryExponent_eq_log, Double.ofRatio_congr, Double.ofRatio_units
-/
import Mathlib.Data.Int.Log
import Mathlib.Data.Rat.Floor
import Mathlib.Algebra.Order.Field.Power
import Mathlib.Tactic.FieldSimp
import Mathlib.Tactic.Positivity
import Mathlib.Tactic.Ring
import Stencil.Proofs.Number.Magnitude

namespace Stencil.Double

/-! ### Dividing -/

theorem divideToEven_mul {factor : Nat} (positive : 0 < factor) (numerator denominator : Nat) :
    divideToEven (factor * numerator) (factor * denominator) =
      divideToEven numerator denominator := by
  have less : factor * denominator < 2 * (factor * (numerator % denominator)) ↔
      denominator < 2 * (numerator % denominator) := by
    rw [Nat.mul_left_comm, Nat.mul_lt_mul_left positive]
  have half : 2 * (factor * (numerator % denominator)) = factor * denominator ↔
      2 * (numerator % denominator) = denominator := by
    rw [Nat.mul_left_comm, Nat.mul_right_inj (Nat.pos_iff_ne_zero.mp positive)]
  unfold divideToEven
  rw [Nat.mul_div_mul_left _ _ positive, Nat.mul_mod_mul_left]
  simp only [less, beq_iff_eq, half, Bool.or_eq_true, Bool.and_eq_true, decide_eq_true_eq]

theorem divideToEven_exact {divisor : Nat} (positive : 0 < divisor) (quotient : Nat) :
    divideToEven (quotient * divisor) divisor = quotient := by
  unfold divideToEven
  simp [Nat.mul_div_cancel _ positive, Nat.pos_iff_ne_zero.mp positive, Ne.symm]

/-! ### Powers of two -/

theorem powerOfTwo_positive (exponent : Int) :
    0 < (powerOfTwo exponent).1 ∧ 0 < (powerOfTwo exponent).2 := by
  unfold powerOfTwo
  split
  · exact ⟨Nat.pow_pos (by decide), Nat.one_pos⟩
  · exact ⟨Nat.one_pos, Nat.pow_pos (by decide)⟩

/-- The two parts of a power of two have it as their ratio. -/
theorem powerOfTwo_ratio (exponent : Int) :
    ((powerOfTwo exponent).1 : ℚ) = 2 ^ exponent * (powerOfTwo exponent).2 := by
  unfold powerOfTwo
  split
  · rename_i whole
    obtain ⟨power, rfl⟩ := Int.eq_ofNat_of_zero_le whole
    simp
  · rename_i negative
    obtain ⟨power, same⟩ := Int.eq_ofNat_of_zero_le (a := -exponent) (by omega)
    obtain rfl : exponent = -(power : Int) := by omega
    simp

/-- A power of two is at or below a ratio if it is so after multiplying with all denominators. -/
theorem powerOfTwo_le_iff {numerator denominator : Nat} (positive : 0 < denominator)
    (exponent : Int) :
    denominator * (powerOfTwo exponent).1 ≤ numerator * (powerOfTwo exponent).2 ↔
      (2 : ℚ) ^ exponent ≤ (numerator : ℚ) / denominator := by
  have down : (0 : ℚ) < (powerOfTwo exponent).2 := by exact_mod_cast (powerOfTwo_positive _).2
  have positive' : (0 : ℚ) < denominator := by exact_mod_cast positive
  rw [← Nat.cast_le (α := ℚ), Nat.cast_mul, Nat.cast_mul, powerOfTwo_ratio, le_div_iff₀ positive',
    ← mul_assoc, mul_le_mul_iff_of_pos_right down, mul_comm]

/-- A ratio lies within a factor of two of the power that the lengths of its parts give. -/
theorem log_of_parts {numerator denominator : Nat} (nonzero : 0 < numerator)
    (positive : 0 < denominator) :
    (numerator.log2 : Int) - denominator.log2 - 1 ≤ Int.log 2 ((numerator : ℚ) / denominator) ∧
      Int.log 2 ((numerator : ℚ) / denominator) ≤ (numerator.log2 : Int) - denominator.log2 := by
  have above : (2 : ℚ) ^ (numerator.log2 : Int) ≤ numerator := by
    exact_mod_cast Nat.log2_self_le (Nat.pos_iff_ne_zero.mp nonzero)
  have below : (numerator : ℚ) < 2 ^ ((numerator.log2 : Int) + 1) := by
    exact_mod_cast @Nat.lt_log2_self numerator
  have above' : (2 : ℚ) ^ (denominator.log2 : Int) ≤ denominator := by
    exact_mod_cast Nat.log2_self_le (Nat.pos_iff_ne_zero.mp positive)
  have below' : (denominator : ℚ) < 2 ^ ((denominator.log2 : Int) + 1) := by
    exact_mod_cast @Nat.lt_log2_self denominator
  have positive' : (0 : ℚ) < denominator := by exact_mod_cast positive
  have ratio : (0 : ℚ) < (numerator : ℚ) / denominator :=
    div_pos (by exact_mod_cast nonzero) positive'
  constructor
  · refine (Int.zpow_le_iff_le_log (by decide) ratio).mp ?_
    rw [Nat.cast_ofNat, le_div_iff₀ positive']
    calc
      (2 : ℚ) ^ ((numerator.log2 : Int) - denominator.log2 - 1) * denominator
        ≤ 2 ^ ((numerator.log2 : Int) - denominator.log2 - 1) *
            2 ^ ((denominator.log2 : Int) + 1) :=
          mul_le_mul_of_nonneg_left below'.le (by positivity)
      _ = 2 ^ (numerator.log2 : Int) := by
          rw [← zpow_add₀ (by norm_num)]
          congr 1
          ring
      _ ≤ numerator := above
  · refine Int.lt_add_one_iff.mp ((Int.lt_zpow_iff_log_lt (by decide) ratio).mp ?_)
    rw [Nat.cast_ofNat, div_lt_iff₀ positive']
    calc
      (numerator : ℚ) < 2 ^ ((numerator.log2 : Int) + 1) := below
      _ = 2 ^ ((numerator.log2 : Int) - denominator.log2 + 1) * 2 ^ (denominator.log2 : Int) := by
          rw [← zpow_add₀ (by norm_num)]
          congr 1
          ring
      _ ≤ 2 ^ ((numerator.log2 : Int) - denominator.log2 + 1) * denominator :=
          mul_le_mul_of_nonneg_left above' (by positivity)

/-- The binary exponent of a ratio is the logarithm of its value. -/
theorem binaryExponent_eq_log {numerator denominator : Nat} (nonzero : 0 < numerator)
    (positive : 0 < denominator) :
    binaryExponent numerator denominator = Int.log 2 ((numerator : ℚ) / denominator) := by
  have ratio : (0 : ℚ) < (numerator : ℚ) / denominator :=
    div_pos (by exact_mod_cast nonzero) (by exact_mod_cast positive)
  obtain ⟨least, most⟩ := log_of_parts nonzero positive
  have reached : ∀ exponent : Int,
      denominator * (powerOfTwo exponent).1 ≤ numerator * (powerOfTwo exponent).2 ↔
        exponent ≤ Int.log 2 ((numerator : ℚ) / denominator) := by
    intro exponent
    rw [powerOfTwo_le_iff positive]
    exact Int.zpow_le_iff_le_log (b := 2) (by decide) ratio
  unfold binaryExponent
  simp only [reached, Int.ofNat_eq_natCast]
  split <;> omega

/-! ### Rounding -/

/-- Rounding does not change if both parts of a ratio are multiplied. -/
theorem ofRatio_mul {factor denominator : Nat} (more : 0 < factor) (positive : 0 < denominator)
    (negative : Bool) (numerator : Nat) :
    ofRatio negative (factor * numerator) (factor * denominator) =
      ofRatio negative numerator denominator := by
  rcases Nat.eq_zero_or_pos numerator with rfl | nonzero
  · unfold ofRatio
    rw [Nat.mul_zero, if_pos rfl, if_pos rfl]
  · have product : 0 < factor * numerator := Nat.mul_pos more nonzero
    have exponent : binaryExponent (factor * numerator) (factor * denominator) =
        binaryExponent numerator denominator := by
      rw [binaryExponent_eq_log product (Nat.mul_pos more positive),
        binaryExponent_eq_log nonzero positive, Nat.cast_mul, Nat.cast_mul,
        mul_div_mul_left _ _ (by exact_mod_cast more.ne')]
    unfold ofRatio
    simp only [product.ne', nonzero.ne', if_false, exponent, Nat.mul_assoc, divideToEven_mul more]

/-- Ratios of the same value are rounded to the same number. -/
theorem ofRatio_congr {numerator denominator numerator' denominator' : Nat}
    (positive : 0 < denominator) (positive' : 0 < denominator')
    (same : numerator * denominator' = numerator' * denominator) (negative : Bool) :
    ofRatio negative numerator denominator = ofRatio negative numerator' denominator' := by
  rw [← ofRatio_mul positive' positive, ← ofRatio_mul positive positive',
    Nat.mul_comm denominator' numerator, same, Nat.mul_comm numerator' denominator,
    Nat.mul_comm denominator' denominator]

/-! ### Exact values -/

theorem unitsOfOne_positive : 0 < unitsOfOne :=
  Nat.pow_pos (by decide)

theorem natPow_cast (exponent : Nat) : ((Nat.pow 2 exponent : Nat) : ℚ) = 2 ^ (exponent : Int) := by
  rw [Nat.pow_eq, Nat.cast_pow, zpow_natCast, Nat.cast_ofNat]

theorem unitsOfOne_cast : (unitsOfOne : ℚ) = 2 ^ (1074 : Int) :=
  natPow_cast 1074

theorem units_cast (x : Double) : (x.units : ℚ) = x.significand * 2 ^ (x.scale : Int) := by
  unfold units
  rw [Nat.cast_mul, natPow_cast]

/-- The pattern of a number is its scale and its significand. -/
theorem scale_add_significand (x : Double) :
    x.scale * exponentWeight + x.significand = x.magnitudeCode := by
  have parts := Nat.div_add_mod x.magnitudeCode exponentWeight
  unfold scale significand
  simp only
  split
  · rename_i small
    rw [small] at parts ⊢
    omega
  · rename_i large
    obtain ⟨scale, same⟩ := Nat.exists_eq_succ_of_ne_zero large
    rw [same, Nat.mul_succ] at parts
    rw [same, Nat.succ_sub_one, Nat.mul_comm]
    omega

/-- Only the numbers of the lowest scale have a significand below 2^52. -/
theorem significand_bounds (x : Double) :
    x.significand < 2 * exponentWeight ∧ (x.scale ≠ 0 → exponentWeight ≤ x.significand) := by
  have fraction : x.magnitudeCode % exponentWeight < exponentWeight :=
    Nat.mod_lt _ (by decide)
  unfold scale significand
  simp only
  split <;> omega

theorem significand_positive {x : Double} (nonzero : x.isZero = false) : 0 < x.significand := by
  have code : x.magnitudeCode ≠ 0 := by
    simpa [isZero] using nonzero
  have parts := x.scale_add_significand
  obtain ⟨-, least⟩ := x.significand_bounds
  refine Nat.pos_of_ne_zero fun vanished => ?_
  by_cases lowest : x.scale = 0
  · rw [lowest, vanished] at parts
    omega
  · have positive : 0 < exponentWeight := by decide
    have enough := least lowest
    omega

theorem units_positive {x : Double} (nonzero : x.isZero = false) : 0 < x.units :=
  Nat.mul_pos (significand_positive nonzero) (Nat.pow_pos (by decide))

/-- The exponent that a number is rounded with is its own. -/
theorem roundingExponent_units {x : Double} (nonzero : x.isZero = false) :
    max (binaryExponent x.units unitsOfOne - 52) (-1074) = (x.scale : Int) - 1074 := by
  obtain ⟨most, least⟩ := x.significand_bounds
  have value : (x.units : ℚ) / unitsOfOne = x.significand * 2 ^ ((x.scale : Int) - 1074) := by
    rw [units_cast, unitsOfOne_cast, zpow_sub₀ (by norm_num), mul_div_assoc]
  have positive : (0 : ℚ) < x.significand := by exact_mod_cast significand_positive nonzero
  have ratio : (0 : ℚ) < x.significand * 2 ^ ((x.scale : Int) - 1074) := by positivity
  rw [binaryExponent_eq_log (units_positive nonzero) unitsOfOne_positive, value]
  -- The significand has at most 53 digits in base two, and exactly these if the scale is not lowest.
  have upper : Int.log 2 ((x.significand : ℚ) * 2 ^ ((x.scale : Int) - 1074)) <
      53 + ((x.scale : Int) - 1074) := by
    refine (Int.lt_zpow_iff_log_lt (by decide) ratio).mp ?_
    rw [Nat.cast_ofNat, zpow_add₀ (by norm_num)]
    refine mul_lt_mul_of_pos_right ?_ (by positivity)
    have bound : x.significand < 2 ^ 53 := most
    exact_mod_cast bound
  have lower : x.scale ≠ 0 → 52 + ((x.scale : Int) - 1074) ≤
      Int.log 2 ((x.significand : ℚ) * 2 ^ ((x.scale : Int) - 1074)) := by
    intro large
    refine (Int.zpow_le_iff_le_log (by decide) ratio).mp ?_
    rw [Nat.cast_ofNat, zpow_add₀ (by norm_num)]
    refine mul_le_mul_of_nonneg_right ?_ (by positivity)
    have bound : 2 ^ 52 ≤ x.significand := least large
    exact_mod_cast bound
  by_cases lowest : x.scale = 0
  · omega
  · have reached := lower lowest
    omega

/-- A magnitude is what its own value is rounded to. -/
theorem ofRatio_units {x : Double} (magnitude : x.IsMagnitude) (finite : x.isFinite)
    (nonzero : x.isZero = false) : ofRatio false x.units unitsOfOne = x := by
  have units : x.units ≠ 0 := (units_positive nonzero).ne'
  obtain ⟨up, down⟩ := powerOfTwo_positive ((x.scale : Int) - 1074)
  have parts : x.units * (powerOfTwo ((x.scale : Int) - 1074)).2 =
      x.significand * (unitsOfOne * (powerOfTwo ((x.scale : Int) - 1074)).1) := by
    have value : ((x.units * (powerOfTwo ((x.scale : Int) - 1074)).2 : Nat) : ℚ) =
        (x.significand * (unitsOfOne * (powerOfTwo ((x.scale : Int) - 1074)).1) : Nat) := by
      rw [Nat.cast_mul, Nat.cast_mul, Nat.cast_mul, units_cast, unitsOfOne_cast, powerOfTwo_ratio,
        zpow_sub₀ (by norm_num)]
      field_simp
    exact_mod_cast value
  have rounded := divideToEven_exact (Nat.mul_pos unitsOfOne_positive up) x.significand
  have code : min infinityCode (x.scale * exponentWeight + x.significand) = x.magnitudeCode := by
    rw [scale_add_significand]
    exact Nat.min_eq_right (Nat.le_of_lt (of_decide_eq_true finite))
  have offset : ((x.scale : Int) - 1074 + 1074).toNat = x.scale := by omega
  unfold ofRatio
  simp only [units, if_false, roundingExponent_units nonzero, parts, rounded, offset, code]
  exact magnitude.eq_ofMagnitude

end Stencil.Double
