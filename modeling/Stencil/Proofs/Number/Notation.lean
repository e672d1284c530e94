/-
Module: Stencil.Proofs.Number.Notation
Purpose: The written form of a decimal is a numeral that is read as the decimal.
Main exports: dropTrailingZeros_append, exists_numeral_of_decimalText
-/
import Mathlib.Data.List.TakeWhile
import Stencil.Proofs.Number.Numeral
import Stencil.Proofs.Number.Shortest

namespace Stencil

open Text

/-! ### Trailing zeros -/

/-- Digits are the ones that are kept and the zeros behind them. -/
theorem dropTrailingZeros_append {digits : List Char} (nonzero : naturalOfDigits digits ≠ 0) :
    ∃ count, digits = dropTrailingZeros digits ++ List.replicate count '0' := by
  have parts : digits = (digits.reverse.dropWhile (· == '0')).reverse ++
      (digits.reverse.takeWhile (· == '0')).reverse := by
    rw [← List.reverse_append, List.takeWhile_append_dropWhile, List.reverse_reverse]
  have zeros : (digits.reverse.takeWhile (· == '0')).reverse =
      List.replicate (digits.reverse.takeWhile (· == '0')).length '0' := by
    rw [List.eq_replicate_iff]
    refine ⟨List.length_reverse, fun digit member => ?_⟩
    have dropped := List.mem_takeWhile_imp (List.mem_reverse.mp member)
    exact beq_iff_eq.mp dropped
  refine ⟨(digits.reverse.takeWhile (· == '0')).length, ?_⟩
  rw [zeros] at parts
  unfold dropTrailingZeros
  split
  · rename_i noDigits
    rw [noDigits, List.nil_append] at parts
    rw [parts, naturalOfDigits_zeros] at nonzero
    exact absurd rfl nonzero
  · exact parts

theorem dropTrailingZeros_ne_nil (digits : List Char) : dropTrailingZeros digits ≠ [] := by
  unfold dropTrailingZeros
  split
  · simp
  · assumption

/-! ### Positional notation and exponents -/

theorem padZeros_isDigit (width value : Nat) :
    ∀ digit ∈ padZeros width (naturalDigits value), digit.isDigit := by
  refine List.forall_mem_append.mpr ⟨fun digit member => ?_, naturalDigits_isDigit value⟩
  rw [List.eq_of_mem_replicate member]
  decide

section Notations

variable {digits : List Char} (nonempty : digits ≠ []) (plain : ∀ digit ∈ digits, digit.isDigit)

include nonempty plain

/-- Digits with a point in or around them are a numeral. -/
theorem exists_numeral_of_positionalText (point : Int) :
    ∃ numeral : Numeral, numeral.text = positionalText true digits point ∧
      numeral.fraction ≠ [] ∧
      ∀ negative, Double.ofDecimal negative numeral.decimal =
        Double.ofDecimal negative ⟨naturalOfDigits digits, point - digits.length⟩ := by
  have zeros : ∀ count, ∀ digit ∈ List.replicate count '0', digit.isDigit := by
    intro count digit member
    rw [List.eq_of_mem_replicate member]
    decide
  unfold positionalText
  by_cases low : point ≤ 0
  · -- All digits stand behind the point.
    have behind : ∀ digit ∈ List.replicate (-point).toNat '0' ++ digits, digit.isDigit :=
      List.forall_mem_append.mpr ⟨zeros _, plain⟩
    refine ⟨⟨['0'], List.replicate (-point).toNat '0' ++ digits, none, by simp, by simp, behind,
      by simp⟩, ?_, by simp [nonempty], fun negative => ?_⟩
    · simp [Numeral.text, Numeral.fractionText, Numeral.exponentText, low, nonempty]
    · have value : naturalOfDigits (['0'] ++ (List.replicate (-point).toNat '0' ++ digits)) =
          naturalOfDigits digits := by
        have zero : ['0'] = List.replicate 1 '0' := rfl
        rw [zero, naturalOfDigits_zeros_append, naturalOfDigits_zeros_append]
      have place : (0 : Int) - (List.replicate (-point).toNat '0' ++ digits).length =
          point - digits.length := by
        rw [List.length_append, List.length_replicate]
        omega
      simp only [Numeral.decimal, Numeral.exponentValue, value, place]
  · by_cases whole : digits.length ≤ point.toNat
    · -- All digits stand before the point.
      have before : ∀ digit ∈ digits ++ List.replicate (point.toNat - digits.length) '0',
          digit.isDigit := List.forall_mem_append.mpr ⟨plain, zeros _⟩
      refine ⟨⟨digits ++ List.replicate (point.toNat - digits.length) '0', ['0'], none,
        by simp [nonempty], before, by simp, by simp⟩, ?_, by simp, fun negative => ?_⟩
      · simp [Numeral.text, Numeral.fractionText, Numeral.exponentText, low, whole]
      · have value : naturalOfDigits
            (digits ++ List.replicate (point.toNat - digits.length) '0' ++ ['0']) =
              naturalOfDigits digits * 10 ^ (point.toNat - digits.length + 1) := by
          rw [List.append_assoc, ← naturalOfDigits_append_zeros, List.replicate_succ']
        have place : (0 : Int) - (['0'] : List Char).length +
            ((point.toNat - digits.length + 1 : Nat) : Int) = point - digits.length := by
          rw [List.length_singleton]
          omega
        simp only [Numeral.decimal, Numeral.exponentValue, value, Double.ofDecimal_shift, place]
    · -- The point stands between the digits.
      have front : digits.take point.toNat ≠ [] := by
        rw [Ne, List.take_eq_nil_iff]
        rintro (start | empty)
        · omega
        · exact nonempty empty
      have rest : digits.drop point.toNat ≠ [] := by
        rw [Ne, List.drop_eq_nil_iff]
        exact whole
      refine ⟨⟨digits.take point.toNat, digits.drop point.toNat, none, front, fun digit member =>
        plain digit (List.mem_of_mem_take member), fun digit member =>
        plain digit (List.mem_of_mem_drop member), by simp⟩, ?_, rest, fun negative => ?_⟩
      · simp [Numeral.text, Numeral.fractionText, Numeral.exponentText, low, whole]
      · have place : (0 : Int) - (digits.drop point.toNat).length = point - digits.length := by
          rw [List.length_drop]
          omega
        simp only [Numeral.decimal, Numeral.exponentValue, List.take_append_drop, place]

/-- Digits with one of them before the point, and an exponent, are a numeral. -/
theorem exists_numeral_of_exponentText (width : Nat) (exponent : Int) :
    ∃ numeral : Numeral, numeral.text = exponentText width digits exponent ∧
      numeral.exponent? ≠ none ∧
      ∀ negative, Double.ofDecimal negative numeral.decimal =
        Double.ofDecimal negative ⟨naturalOfDigits digits, exponent + 1 - digits.length⟩ := by
  have front : digits.take 1 ≠ [] := by
    rw [Ne, List.take_eq_nil_iff]
    simp [nonempty]
  have padded : padZeros width (naturalDigits exponent.natAbs) ≠ [] := by
    unfold padZeros
    simp [naturalDigits_ne_nil]
  refine ⟨⟨digits.take 1, digits.drop 1,
    (decide (exponent < 0), padZeros width (naturalDigits exponent.natAbs)), front,
    fun digit member => plain digit (List.mem_of_mem_take member),
    fun digit member => plain digit (List.mem_of_mem_drop member), ?_⟩, ?_, by simp,
    fun negative => ?_⟩
  · intro parts member
    cases member
    exact ⟨padded, padZeros_isDigit width _⟩
  · simp [Numeral.text, Numeral.fractionText, Numeral.exponentText, exponentText]
  · have value : naturalOfDigits (padZeros width (naturalDigits exponent.natAbs)) =
        exponent.natAbs := by
      unfold padZeros
      rw [naturalOfDigits_zeros_append, naturalOfDigits_naturalDigits]
    have length : 0 < digits.length := List.length_pos_iff.mpr nonempty
    have place : (if exponent < 0 then -(exponent.natAbs : Int) else exponent.natAbs) -
        (digits.drop 1).length = exponent + 1 - digits.length := by
      rw [List.length_drop]
      split <;> omega
    simp only [Numeral.decimal, Numeral.exponentValue, List.take_append_drop, value,
      decide_eq_true_eq, place]

end Notations

/-- The written form of a decimal is a numeral with a point or an exponent, which is read as the
decimal. -/
theorem exists_numeral_of_decimalText (decimal : Decimal) :
    ∃ numeral : Numeral, numeral.text = decimalText plainNotation decimal ∧
      (numeral.fraction ≠ [] ∨ numeral.exponent? ≠ none) ∧
      ∀ negative, Double.ofDecimal negative numeral.decimal = Double.ofDecimal negative decimal := by
  obtain ⟨coefficient, exponent⟩ := decimal
  unfold decimalText
  by_cases zero : coefficient = 0
  · subst zero
    obtain ⟨numeral, text, fraction, value⟩ :=
      @exists_numeral_of_positionalText ['0'] (by simp) (by simp) 1
    refine ⟨numeral, text, .inl fraction, fun negative => ?_⟩
    have zeroDigits : naturalOfDigits ['0'] = 0 := by decide
    rw [value, zeroDigits, Double.ofDecimal_zero, Double.ofDecimal_zero]
  · have written : naturalOfDigits (naturalDigits coefficient) ≠ 0 := by
      rw [naturalOfDigits_naturalDigits]
      exact zero
    obtain ⟨count, parts⟩ := dropTrailingZeros_append written
    have nonempty := dropTrailingZeros_ne_nil (naturalDigits coefficient)
    have plain : ∀ digit ∈ dropTrailingZeros (naturalDigits coefficient), digit.isDigit :=
      fun digit member => naturalDigits_isDigit coefficient digit
        (parts ▸ List.mem_append_left _ member)
    -- The zeros that are dropped count in the exponent.
    have shifted : ∀ negative, Double.ofDecimal negative ⟨coefficient, exponent⟩ =
        Double.ofDecimal negative
          ⟨naturalOfDigits (dropTrailingZeros (naturalDigits coefficient)), exponent + count⟩ := by
      intro negative
      have whole := naturalOfDigits_naturalDigits coefficient
      rw [parts, naturalOfDigits_append_zeros] at whole
      rw [← Double.ofDecimal_shift, whole]
    have length : ((naturalDigits coefficient).length : Int) =
        (dropTrailingZeros (naturalDigits coefficient)).length + count := by
      have same := congrArg List.length parts
      rw [List.length_append, List.length_replicate] at same
      omega
    simp only [zero, if_false]
    split
    · obtain ⟨numeral, text, fraction, value⟩ := exists_numeral_of_positionalText nonempty plain
        ((naturalDigits coefficient).length + exponent)
      refine ⟨numeral, text, .inl fraction, fun negative => ?_⟩
      rw [value, shifted, length]
      congr 2
      omega
    · obtain ⟨numeral, text, marked, value⟩ := exists_numeral_of_exponentText nonempty plain
        plainNotation.exponentWidth ((naturalDigits coefficient).length + exponent - 1)
      refine ⟨numeral, text, .inr marked, fun negative => ?_⟩
      rw [value, shifted, length]
      congr 2
      omega

end Stencil
