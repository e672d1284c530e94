/-
Module: Stencil.Proofs.Number.DigitLimit
Purpose: Which integers have few enough digits to be written, and that those that have been read do.
Main exports: isWritable_iff, isWritable_of_inRange, IsReadable.isWritable, isReadable_integerText
-/
import Stencil.Number.DigitLimit
import Stencil.Number.Word64
import Stencil.Proofs.Number.Digits

namespace Stencil

/-- The integers that can be written are those below a power of ten in magnitude. -/
theorem isWritable_iff {value : Int} : IsWritable value ↔ value.natAbs < 10 ^ digitLimit :=
  Nat.length_toDigits_le_iff (by decide) (by decide)

theorem isWritable_of_lt {value : Int} (small : value.natAbs < 10 ^ 20) : IsWritable value :=
  isWritable_iff.mpr (Nat.lt_of_lt_of_le small (Nat.pow_le_pow_right (by decide) (by decide)))

/-- Every integer of 64 bits can be written. -/
theorem isWritable_of_inRange {value : Int} (fits : Word64.InRange value) : IsWritable value := by
  unfold Word64.InRange Word64.least Word64.greatest at fits
  apply isWritable_of_lt
  omega

theorem digitValue?_getD_lt (character : Char) : (Text.digitValue? character).getD 0 < 10 := by
  unfold Text.digitValue?
  cases Text.offsetInRun Text.decimalDigits.boundaries character.toNat with
  | none => exact Nat.zero_lt_succ 9
  | some offset => exact Nat.mod_lt offset (Nat.zero_lt_succ 9)

/-- Digits denote a number below the power of ten with as many zeros. -/
theorem naturalOfDigits_lt (digits : List Char) :
    Text.naturalOfDigits digits < 10 ^ digits.length := by
  induction digits with
  | nil => exact Nat.zero_lt_one
  | cons digit rest ih =>
      have first : Text.naturalOfDigits [digit] < 10 := by
        have value : Text.naturalOfDigits [digit] = (Text.digitValue? digit).getD 0 := by
          simp [Text.naturalOfDigits]
        rw [value]
        exact digitValue?_getD_lt digit
      have parts := naturalOfDigits_append [digit] rest
      rw [List.singleton_append] at parts
      rw [parts, List.length_cons, Nat.pow_succ]
      have whole := Nat.mul_le_mul_right (10 ^ rest.length) (Nat.le_of_lt_succ first)
      omega

/-- What has been read can be written. -/
theorem IsReadable.isWritable {digits : List Char} (readable : IsReadable digits) :
    IsWritable (Text.naturalOfDigits digits) :=
  isWritable_iff.mpr
    (Nat.lt_of_lt_of_le (naturalOfDigits_lt digits) (Nat.pow_le_pow_right (by decide) readable))

/-- What can be written can be read. -/
theorem isReadable_integerText {value : Nat} (writable : IsWritable value) :
    IsReadable (integerText value).toList := by
  rw [integerText_toList]
  exact writable

end Stencil
