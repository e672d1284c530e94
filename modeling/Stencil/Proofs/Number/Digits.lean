/-
Module: Stencil.Proofs.Number.Digits
Purpose: Decimal digits: what runs of them denote, how many a number has, and that writing a number and
  reading it gives it back.
Main exports: naturalOfDigits_append, naturalOfDigits_naturalDigits, digitCount_mul_pow
-/
import Mathlib.Data.List.Basic
import Mathlib.Tactic.Ring
import Stencil.Number.Layout
import Stencil.Proofs.Number.Magnitude

namespace Stencil

open Text

/-! ### The digits from 0 to 9 -/

theorem isDigit_iff_toNat {character : Char} :
    character.isDigit ↔ 48 ≤ character.toNat ∧ character.toNat < 58 := by
  unfold Char.isDigit Char.toNat
  simp only [Bool.and_eq_true, decide_eq_true_eq, ge_iff_le, UInt32.le_iff_toNat_le]
  constructor
  · rintro ⟨low, high⟩
    exact ⟨low, Nat.lt_succ_of_le high⟩
  · rintro ⟨low, high⟩
    exact ⟨low, Nat.le_of_lt_succ high⟩

theorem isDecimalDigit_of_isDigit {character : Char} (digit : character.isDigit) :
    isDecimalDigit character := by
  obtain ⟨low, high⟩ := isDigit_iff_toNat.mp digit
  rw [isDecimalDigit_ascii (by omega)]
  exact decide_eq_true ⟨low, high⟩

theorem digitValue?_of_isDigit {character : Char} (digit : character.isDigit) :
    digitValue? character = some (character.toNat - 48) := by
  obtain ⟨low, high⟩ := isDigit_iff_toNat.mp digit
  have offset : offsetInRun decimalDigits.boundaries character.toNat =
      some (character.toNat - 48) := by
    unfold decimalDigits
    rw [offsetInRun, if_neg (Nat.not_lt.mpr low), if_pos high]
  unfold digitValue?
  rw [offset, Option.map_some, Nat.mod_eq_of_lt (by omega)]

theorem isBlank_of_isDigit {character : Char} (digit : character.isDigit) :
    isBlank character = false := by
  obtain ⟨low, high⟩ := isDigit_iff_toNat.mp digit
  unfold isBlank RangeSet.contains blankCharacters
  simp only [RangeSet.containsFrom]
  rw [if_neg (by omega), if_neg (by omega), if_neg (by omega), if_neg (by omega),
    if_pos (by omega)]
  rfl

/-! ### Runs of digits -/

theorem naturalOfDigits_foldl (start : Nat) (digits : List Char) :
    digits.foldl (fun value character => 10 * value + (digitValue? character).getD 0) start =
      start * 10 ^ digits.length + naturalOfDigits digits := by
  unfold naturalOfDigits
  induction digits generalizing start with
  | nil => simp
  | cons digit rest ih =>
      rw [List.foldl_cons, List.foldl_cons, ih, ih (10 * 0 + _), List.length_cons, Nat.pow_succ]
      ring

/-- A run of digits in front of another one counts as many times ten as there are digits behind. -/
theorem naturalOfDigits_append (front rest : List Char) :
    naturalOfDigits (front ++ rest) =
      naturalOfDigits front * 10 ^ rest.length + naturalOfDigits rest := by
  have split : naturalOfDigits (front ++ rest) =
      rest.foldl (fun value character => 10 * value + (digitValue? character).getD 0)
        (naturalOfDigits front) := List.foldl_append
  rw [split, naturalOfDigits_foldl]

theorem naturalOfDigits_zeros (count : Nat) : naturalOfDigits (List.replicate count '0') = 0 := by
  induction count with
  | zero => rfl
  | succ count ih =>
      have zero : naturalOfDigits ['0'] = 0 := by decide
      rw [List.replicate_succ', naturalOfDigits_append, ih, zero]
      simp

/-- Zeros in front of a run of digits do not count. -/
theorem naturalOfDigits_zeros_append (count : Nat) (digits : List Char) :
    naturalOfDigits (List.replicate count '0' ++ digits) = naturalOfDigits digits := by
  rw [naturalOfDigits_append, naturalOfDigits_zeros, Nat.zero_mul, Nat.zero_add]

/-- Each zero behind a run of digits counts ten times. -/
theorem naturalOfDigits_append_zeros (digits : List Char) (count : Nat) :
    naturalOfDigits (digits ++ List.replicate count '0') = naturalOfDigits digits * 10 ^ count := by
  rw [naturalOfDigits_append, naturalOfDigits_zeros, List.length_replicate, Nat.add_zero]

theorem naturalOfDigits_eq_ofDigitChars {digits : List Char}
    (plain : ∀ digit ∈ digits, digit.isDigit) :
    naturalOfDigits digits = Nat.ofDigitChars 10 digits 0 := by
  unfold naturalOfDigits
  rw [Nat.ofDigitChars_eq_foldl]
  apply List.foldl_ext
  intro value digit member
  rw [digitValue?_of_isDigit (plain digit member)]
  rfl

/-! ### The digits of a number -/

theorem naturalDigits_isDigit (value : Nat) : ∀ digit ∈ naturalDigits value, digit.isDigit :=
  fun _ member => Nat.isDigit_of_mem_toDigits (by decide) (by decide) member

theorem naturalDigits_ne_nil (value : Nat) : naturalDigits value ≠ [] :=
  Nat.toDigits_ne_nil

/-- The digits of a number denote it. -/
theorem naturalOfDigits_naturalDigits (value : Nat) :
    naturalOfDigits (naturalDigits value) = value := by
  rw [naturalOfDigits_eq_ofDigitChars (naturalDigits_isDigit value)]
  exact Nat.ofDigitChars_ten_toDigits

theorem integerText_toList (value : Nat) : (integerText value).toList = naturalDigits value := by
  have noSign : ¬(value : Int) < 0 := Int.not_lt.mpr (Int.natCast_nonneg value)
  unfold integerText
  simp only [String.toList_ofList, if_neg noSign, Int.natAbs_natCast, List.nil_append]

namespace Double

theorem digitCount_eq_length {value : Nat} (positive : 0 < value) :
    digitCount value = (naturalDigits value).length :=
  if_neg (Nat.pos_iff_ne_zero.mp positive)

/-- A positive number has as many digits as it has powers of ten at or below it. -/
theorem digitCount_le_iff {value : Nat} (positive : 0 < value) (count : Nat) :
    digitCount value ≤ count ↔ value < 10 ^ count := by
  rw [digitCount_eq_length positive]
  cases count with
  | zero =>
      have written : (naturalDigits value).length ≠ 0 := by
        simpa using naturalDigits_ne_nil value
      constructor <;> intro small <;> omega
  | succ count => exact Nat.length_toDigits_le_iff (by decide) (Nat.succ_pos count)

/-- Multiplying with a power of ten puts as many digits behind a number. -/
theorem digitCount_mul_pow {value : Nat} (positive : 0 < value) (count : Nat) :
    digitCount (value * 10 ^ count) = digitCount value + count := by
  have more : 0 < value * 10 ^ count := Nat.mul_pos positive (Nat.pow_pos (by decide))
  apply Nat.le_antisymm
  · rw [digitCount_le_iff more, Nat.pow_add]
    have below := (digitCount_le_iff positive _).mp (Nat.le_refl _)
    exact Nat.mul_lt_mul_of_pos_right below (Nat.pow_pos (by decide))
  · have below := (digitCount_le_iff more _).mp (Nat.le_refl _)
    have enough : count ≤ digitCount (value * 10 ^ count) := by
      have power : 10 ^ count < 10 ^ digitCount (value * 10 ^ count) :=
        Nat.lt_of_le_of_lt (Nat.le_mul_of_pos_left _ positive) below
      exact Nat.le_of_lt ((Nat.pow_lt_pow_iff_right (by decide)).mp power)
    obtain ⟨rest, same⟩ := Nat.exists_eq_add_of_le' enough
    rw [same, Nat.pow_add] at below
    have few := (digitCount_le_iff positive rest).mpr (Nat.lt_of_mul_lt_mul_right below)
    omega

end Double

end Stencil
