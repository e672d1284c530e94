/-
Module: Stencil.Proofs.Number.Shortest
Purpose: The shortest decimal of a number is one that reads back as the number.
Main exports: Double.ofDecimal_shift, Double.ofDecimal_shortest
-/
import Mathlib.Tactic.LinearCombination
import Stencil.Proofs.Number.Digits
import Stencil.Proofs.Number.Rounding

namespace Stencil.Double

/-! ### Powers of ten -/

theorem powerOfTen_positive (exponent : Int) :
    0 < (powerOfTen exponent).1 ∧ 0 < (powerOfTen exponent).2 := by
  unfold powerOfTen
  split
  · exact ⟨Nat.pow_pos (by decide), Nat.one_pos⟩
  · exact ⟨Nat.one_pos, Nat.pow_pos (by decide)⟩

/-- The two parts of a power of ten have it as their ratio. -/
theorem powerOfTen_ratio (exponent : Int) :
    ((powerOfTen exponent).1 : ℚ) = 10 ^ exponent * (powerOfTen exponent).2 := by
  unfold powerOfTen
  split
  · rename_i whole
    obtain ⟨power, rfl⟩ := Int.eq_ofNat_of_zero_le whole
    simp
  · rename_i negative
    obtain ⟨power, same⟩ := Int.eq_ofNat_of_zero_le (a := -exponent) (by omega)
    obtain rfl : exponent = -(power : Int) := by omega
    simp

/-! ### Equal decimals -/

theorem ofDecimal_zero (negative : Bool) (exponent : Int) :
    ofDecimal negative ⟨0, exponent⟩ = ofMagnitude negative 0 := by
  unfold ofDecimal
  simp

/-- Zeros at the end of the coefficient may be counted in the exponent. -/
theorem ofDecimal_shift (negative : Bool) (coefficient count : Nat) (exponent : Int) :
    ofDecimal negative ⟨coefficient * 10 ^ count, exponent⟩ =
      ofDecimal negative ⟨coefficient, exponent + count⟩ := by
  rcases Nat.eq_zero_or_pos coefficient with rfl | nonzero
  · rw [Nat.zero_mul, ofDecimal_zero, ofDecimal_zero]
  · have product : 0 < coefficient * 10 ^ count := Nat.mul_pos nonzero (Nat.pow_pos (by decide))
    have order : ((digitCount (coefficient * 10 ^ count) : Nat) : Int) + exponent =
        digitCount coefficient + (exponent + count) := by
      rw [digitCount_mul_pow nonzero]
      omega
    obtain ⟨-, down⟩ := powerOfTen_positive exponent
    obtain ⟨-, down'⟩ := powerOfTen_positive (exponent + count)
    have same : coefficient * 10 ^ count * (powerOfTen exponent).1 *
          (powerOfTen (exponent + count)).2 =
        coefficient * (powerOfTen (exponent + count)).1 * (powerOfTen exponent).2 := by
      have value : ((coefficient * 10 ^ count * (powerOfTen exponent).1 *
            (powerOfTen (exponent + count)).2 : Nat) : ℚ) =
          (coefficient * (powerOfTen (exponent + count)).1 * (powerOfTen exponent).2 : Nat) := by
        push_cast
        rw [powerOfTen_ratio, powerOfTen_ratio, zpow_add₀ (by norm_num), zpow_natCast]
        ring
      exact_mod_cast value
    unfold ofDecimal
    simp only [nonzero.ne', product.ne', order, ofRatio_congr down down' same negative]

/-! ### Shortest decimals -/

theorem ofDecimal_of_hit {target : Double} {hits : Bool} {candidate decimal : Decimal}
    (reads : hits = true → ofDecimal false candidate = target)
    (hit : (if hits then some candidate else none) = some decimal) :
    ofDecimal false decimal = target := by
  split at hit
  · rename_i holds
    cases hit
    exact reads holds
  · cases hit

/-- The search on one grid finds a decimal that reads back. -/
theorem ofDecimal_gridHit {target : Double} {numerator denominator : Nat} {exponent : Int}
    {decimal : Decimal} (found : gridHit target numerator denominator exponent = some decimal) :
    ofDecimal false decimal = target := by
  unfold gridHit at found
  simp only at found
  split at found
  · rename_i lower upper low high
    split at found
    · cases found
      exact ofDecimal_of_hit beq_iff_eq.mp high
    · cases found
      exact ofDecimal_of_hit (fun holds => beq_iff_eq.mp (Bool.and_elim_right holds)) low
  · rename_i low high
    cases found
    exact ofDecimal_of_hit (fun holds => beq_iff_eq.mp (Bool.and_elim_right holds)) low
  · exact ofDecimal_of_hit beq_iff_eq.mp found

theorem ofDecimal_firstHit {target : Double} {numerator denominator : Nat} {order : Int}
    {decimal : Decimal} (grids digits : Nat)
    (found : firstHit target numerator denominator order grids digits = some decimal) :
    ofDecimal false decimal = target := by
  induction grids generalizing digits with
  | zero => cases found
  | succ grids ih =>
      unfold firstHit at found
      split at found
      · rename_i hit
        cases found
        exact ofDecimal_gridHit hit
      · exact ih _ found

theorem units_lt {x : Double} (finite : x.isFinite) : x.units < Nat.pow 2 2098 := by
  have code : x.magnitudeCode < infinityCode := of_decide_eq_true finite
  obtain ⟨most, -⟩ := x.significand_bounds
  have scale : x.scale ≤ 2045 := by
    have quotient : x.magnitudeCode / exponentWeight < 2047 := Nat.div_lt_of_lt_mul code
    unfold Double.scale
    omega
  calc
    x.units = x.significand * 2 ^ x.scale := rfl
    _ ≤ x.significand * 2 ^ 2045 :=
        Nat.mul_le_mul_left _ (Nat.pow_le_pow_right (by decide) scale)
    _ < 2 * exponentWeight * 2 ^ 2045 := Nat.mul_lt_mul_of_pos_right most (Nat.pow_pos (by decide))
    _ ≤ Nat.pow 2 2098 := by decide +kernel

/-- The exact decimals of numbers are neither so large nor so small that their digits are not looked
at. -/
theorem digitCount_exactDecimal {x : Double} (finite : x.isFinite) (nonzero : x.isZero = false) :
    674 ≤ digitCount x.exactDecimal.coefficient ∧
      digitCount x.exactDecimal.coefficient ≤ 1474 := by
  have units := units_positive nonzero
  have five : 0 < Nat.pow 5 1074 := Nat.pow_pos (by decide)
  have positive : 0 < x.exactDecimal.coefficient := Nat.mul_pos units five
  constructor
  · refine Nat.not_lt.mp fun few => ?_
    have small := (digitCount_le_iff positive 673).mp (Nat.le_of_lt_succ few)
    have large : 10 ^ 673 ≤ Nat.pow 5 1074 := by decide +kernel
    have larger : Nat.pow 5 1074 ≤ x.exactDecimal.coefficient := Nat.le_mul_of_pos_left _ units
    omega
  · rw [digitCount_le_iff positive]
    have below : x.exactDecimal.coefficient < Nat.pow 2 2098 * Nat.pow 5 1074 :=
      Nat.mul_lt_mul_of_pos_right (units_lt finite) five
    have enough : Nat.pow 2 2098 * Nat.pow 5 1074 ≤ 10 ^ 1474 := by decide +kernel
    exact Nat.lt_of_lt_of_le below enough

theorem five_pow_ratio {count : Nat} {exponent : Int} (same : exponent = count) :
    ((Nat.pow 5 count : Nat) : ℚ) * 10 ^ (-exponent) * 2 ^ exponent = 1 := by
  have ten : (10 : ℚ) = 5 * 2 := by norm_num
  rw [same, Nat.pow_eq, Nat.cast_pow, Nat.cast_ofNat, zpow_neg, zpow_natCast, zpow_natCast, ten,
    mul_pow]
  field_simp

theorem cancel_ratio {five ten two : ℚ} (units down : ℚ) (one : five * ten * two = 1) :
    units * five * (ten * down) * two = units * down := by
  linear_combination (units * down) * one

/-- The exact value of a number reads back as the number. -/
theorem ofDecimal_exactDecimal {x : Double} (magnitude : x.IsMagnitude) (finite : x.isFinite)
    (nonzero : x.isZero = false) : ofDecimal false x.exactDecimal = x := by
  obtain ⟨least, most⟩ := digitCount_exactDecimal finite nonzero
  have units := units_positive nonzero
  have coefficient : x.exactDecimal.coefficient ≠ 0 :=
    (Nat.mul_pos units (Nat.pow_pos (by decide))).ne'
  have exponent : x.exactDecimal.exponent = -1074 := rfl
  have noUnderflow : ¬(digitCount x.exactDecimal.coefficient : Int) + -1074 < -400 := by omega
  have noOverflow : ¬400 < (digitCount x.exactDecimal.coefficient : Int) + -1074 := by omega
  obtain ⟨-, down⟩ := powerOfTen_positive (-1074)
  have same : x.exactDecimal.coefficient * (powerOfTen (-1074)).1 * unitsOfOne =
      x.units * (powerOfTen (-1074)).2 := by
    have value : ((x.exactDecimal.coefficient * (powerOfTen (-1074)).1 * unitsOfOne : Nat) : ℚ) =
        (x.units * (powerOfTen (-1074)).2 : Nat) := by
      rw [exactDecimal, Nat.cast_mul, Nat.cast_mul, Nat.cast_mul, Nat.cast_mul, powerOfTen_ratio,
        unitsOfOne_cast]
      have one : ((Nat.pow 5 1074 : Nat) : ℚ) * 10 ^ (-1074 : Int) * 2 ^ (1074 : Int) = 1 :=
        five_pow_ratio rfl
      exact cancel_ratio _ _ one
    exact_mod_cast value
  unfold ofDecimal
  simp only [coefficient, exponent, noUnderflow, noOverflow, decide_false, Bool.or_self,
    Bool.false_eq_true, if_false]
  exact (ofRatio_congr down unitsOfOne_positive same false).trans
    (ofRatio_units magnitude finite nonzero)

/-- The shortest decimal of a magnitude reads back as the magnitude. -/
theorem ofDecimal_shortest {x : Double} (magnitude : x.IsMagnitude) (finite : x.isFinite) :
    ofDecimal false x.shortest = x := by
  unfold shortest
  cases zero : x.isZero with
  | true =>
      have code : x.magnitudeCode = 0 := by
        simpa [isZero] using zero
      rw [if_pos rfl, ofDecimal_zero, ← code]
      exact magnitude.eq_ofMagnitude
  | false =>
      simp only [Bool.false_eq_true, if_false, magnitude.eq_ofMagnitude]
      cases found : firstHit x x.units unitsOfOne (decimalOrder x.units unitsOfOne) 17 0 with
      | some decimal => exact ofDecimal_firstHit 17 0 found
      | none => exact ofDecimal_exactDecimal magnitude finite zero

end Stencil.Double
