/-
Module: Stencil.Proofs.Number.Magnitude
Purpose: The numbers from zero up to infinity, and that rounding and reading without a sign give them.
Main exports: Double.IsMagnitude, Double.ofRatio_isMagnitude, readDouble?_isMagnitude
-/
import Stencil.Number.Reading

namespace Stencil

open Text

namespace Double

/-- The numbers from zero up to infinity: their sign bit is not set, and they are numbers. -/
def IsMagnitude (x : Double) : Prop :=
  x.bits.toNat ≤ infinityCode

theorem toNat_ofMagnitude {code : Nat} (small : code ≤ infinityCode) :
    (ofMagnitude false code).bits.toNat = code := by
  have fits : code < UInt64.size := by
    unfold infinityCode at small
    unfold UInt64.size
    omega
  exact UInt64.toNat_ofNat_of_lt' fits

theorem ofMagnitude_isMagnitude {code : Nat} (small : code ≤ infinityCode) :
    (ofMagnitude false code).IsMagnitude := by
  unfold IsMagnitude
  rw [toNat_ofMagnitude small]
  exact small

namespace IsMagnitude

variable {x : Double} (magnitude : x.IsMagnitude)

include magnitude

theorem isNegative : x.isNegative = false := by
  unfold IsMagnitude infinityCode at magnitude
  unfold Double.isNegative signWeight
  exact decide_eq_false (by omega)

theorem magnitudeCode : x.magnitudeCode = x.bits.toNat := by
  unfold IsMagnitude infinityCode at magnitude
  unfold Double.magnitudeCode signWeight
  omega

/-- Such a number is given by the pattern of its magnitude. -/
theorem eq_ofMagnitude : ofMagnitude false x.magnitudeCode = x := by
  rw [magnitude.magnitudeCode]
  unfold ofMagnitude
  simp

end IsMagnitude

theorem ofRatio_isMagnitude (numerator denominator : Nat) :
    (ofRatio false numerator denominator).IsMagnitude := by
  unfold ofRatio
  split
  · exact ofMagnitude_isMagnitude (Nat.zero_le _)
  · exact ofMagnitude_isMagnitude (Nat.min_le_left _ _)

theorem ofDecimal_isMagnitude (decimal : Decimal) : (ofDecimal false decimal).IsMagnitude := by
  unfold ofDecimal
  simp only
  split
  · exact ofMagnitude_isMagnitude (Nat.zero_le _)
  · split
    · exact ofMagnitude_isMagnitude (Nat.le_refl _)
    · exact ofRatio_isMagnitude _ _

end Double

/-! ### Reading without a sign -/

/-- Below its second run a set of ranges holds its first one. -/
theorem containsFrom_first {start stop next code : Nat} (later : List Nat) (below : code < next) :
    RangeSet.containsFrom false (start :: stop :: next :: later) code =
      decide (start ≤ code ∧ code < stop) := by
  simp only [RangeSet.containsFrom, below, if_true]
  by_cases low : code < start
  · simp [low, Nat.not_le.mpr low]
  · by_cases high : code < stop
    · simp [low, high, Nat.not_lt.mp low]
    · simp [low, high]

/-- Of the characters of ASCII, the decimal digits are those from 0 to 9. -/
theorem isDecimalDigit_ascii {character : Char} (ascii : character.toNat < 128) :
    isDecimalDigit character = decide (48 ≤ character.toNat ∧ character.toNat < 58) :=
  containsFrom_first _ (by omega)

theorem splitSign_cons {first : Char} (rest : List Char) (noMinus : first ≠ '-')
    (noPlus : first ≠ '+') : splitSign (first :: rest) = (false, first :: rest) := by
  unfold splitSign
  split
  · simp_all
  · simp_all
  · rfl

/-- What is trimmed still starts with its first character, if that is no blank. -/
theorem trimNumber_cons {first : Char} (solid : isBlank first = false) (rest : List Char) :
    ∃ rest', trimNumber (first :: rest) = first :: rest' := by
  have kept : isNumberBlank first = false := by simp [isNumberBlank, solid]
  unfold trimNumber
  rw [List.dropWhile_cons_of_neg (by simp [kept]), List.reverse_cons, List.dropWhile_append]
  split
  · exact ⟨[], by simp [kept]⟩
  · exact ⟨(rest.reverse.dropWhile isNumberBlank).reverse, by simp⟩

theorem readNumberWord?_eq_none {first : Char} (negative : Bool) (rest : List Char)
    (start : isDecimalDigit first ∨ first = '.') :
    readNumberWord? negative (first :: rest) = none := by
  have other : ∀ word : String, word ∈ ["inf", "infinity", "nan"] →
      String.ofList (lowerAscii (first :: rest)) ≠ word := by
    intro word member same
    have head : (lowerAscii (first :: rest)).head? = word.toList.head? := by
      rw [← same, String.toList_ofList]
    have letter : (lowerAscii [first]).head? = some 'i' ∨ (lowerAscii [first]).head? = some 'n' := by
      simp only [List.mem_cons, List.not_mem_nil, or_false] at member
      rcases member with rfl | rfl | rfl
      · exact .inl head
      · exact .inl head
      · exact .inr head
    simp only [lowerAscii, List.map_cons, List.map_nil, List.head?_cons, Option.some.injEq] at letter
    rcases start with digit | rfl
    · split at letter
      · rename_i upper
        simp only [Bool.and_eq_true, decide_eq_true_eq] at upper
        rw [isDecimalDigit_ascii (by omega), decide_eq_true_eq] at digit
        omega
      · rcases letter with rfl | rfl <;> revert digit <;> decide
    · revert letter
      decide
  unfold readNumberWord?
  simp [other]

/-- A number that starts with a digit or a point is no less than zero. -/
theorem readDouble?_isMagnitude {first : Char} {rest : List Char} {x : Double}
    (solid : isBlank first = false) (start : isDecimalDigit first ∨ first = '.')
    (read : readDouble? (first :: rest) = some x) : x.IsMagnitude := by
  have noMinus : first ≠ '-' := by
    rintro rfl
    revert start
    decide
  have noPlus : first ≠ '+' := by
    rintro rfl
    revert start
    decide
  obtain ⟨rest', trimmed⟩ := trimNumber_cons solid rest
  unfold readDouble? at read
  rw [trimmed, splitSign_cons rest' noMinus noPlus] at read
  simp only [readNumberWord?_eq_none false rest' start] at read
  obtain ⟨digits, -, read⟩ := Option.bind_eq_some_iff.mp read
  obtain ⟨decimal, -, read⟩ := Option.bind_eq_some_iff.mp read
  cases read
  exact Double.ofDecimal_isMagnitude decimal

end Stencil
