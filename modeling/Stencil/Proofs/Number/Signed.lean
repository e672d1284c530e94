/-
Module: Stencil.Proofs.Number.Signed
Purpose: Numbers of either sign: their parts, and that writing one and reading it gives it back.
Main exports: Double.ofMagnitude_parts, Double.ofDecimal_shortest_signed, head?_decimalText,
  Double.exists_signedNumeral, Double.readDouble?_text
-/
import Stencil.Proofs.Number.Notation

namespace Stencil

open Text

namespace Double

/-! ### Sign and magnitude -/

/-- A number is given by its sign and the pattern of its magnitude. -/
theorem ofMagnitude_parts (x : Double) : ofMagnitude x.isNegative x.magnitudeCode = x := by
  have bits : x.bits.toNat < UInt64.size := x.bits.toNat_lt
  have whole : (if x.isNegative then signWeight + x.magnitudeCode else x.magnitudeCode) =
      x.bits.toNat := by
    unfold isNegative magnitudeCode signWeight at *
    unfold UInt64.size at bits
    simp only [decide_eq_true_eq]
    split <;> omega
  unfold ofMagnitude
  rw [whole, UInt64.ofNat_toNat]

theorem magnitudeCode_ofMagnitude {code : Nat} (small : code < signWeight) :
    (ofMagnitude false code).magnitudeCode = code := by
  have fits : code < UInt64.size := Nat.lt_trans small (by decide)
  unfold magnitudeCode ofMagnitude
  rw [if_neg (by decide), UInt64.toNat_ofNat_of_lt' fits, Nat.mod_eq_of_lt small]

/-- The magnitude of a number. -/
def magnitude (x : Double) : Double :=
  ofMagnitude false x.magnitudeCode

theorem magnitudeCode_magnitude (x : Double) : x.magnitude.magnitudeCode = x.magnitudeCode :=
  magnitudeCode_ofMagnitude (Nat.mod_lt _ (by decide))

theorem isMagnitude_magnitude {x : Double} (finite : x.isFinite) : x.magnitude.IsMagnitude :=
  ofMagnitude_isMagnitude (Nat.le_of_lt (of_decide_eq_true finite))

theorem units_magnitude (x : Double) : x.magnitude.units = x.units := by
  unfold units significand scale
  rw [magnitudeCode_magnitude]

/-- The digits of a number are those of its magnitude. -/
theorem shortest_magnitude (x : Double) : x.magnitude.shortest = x.shortest := by
  unfold shortest exactDecimal isZero
  rw [magnitudeCode_magnitude, units_magnitude]

/-! ### Rounding -/

theorem ofRatio_eq_ofMagnitude (negative : Bool) (numerator denominator : Nat) :
    ofRatio negative numerator denominator =
      ofMagnitude negative (ofRatio false numerator denominator).magnitudeCode := by
  unfold ofRatio
  split
  · rw [magnitudeCode_ofMagnitude (by decide)]
  · simp only
    rw [magnitudeCode_ofMagnitude (Nat.lt_of_le_of_lt (Nat.min_le_left _ _) (by decide))]

/-- The sign of a decimal does not bear on how its magnitude is rounded. -/
theorem ofDecimal_eq_ofMagnitude (negative : Bool) (decimal : Decimal) :
    ofDecimal negative decimal = ofMagnitude negative (ofDecimal false decimal).magnitudeCode := by
  unfold ofDecimal
  simp only
  split
  · rw [magnitudeCode_ofMagnitude (by decide)]
  · split
    · unfold signedInfinity
      rw [magnitudeCode_ofMagnitude (by decide)]
    · exact ofRatio_eq_ofMagnitude negative _ _

/-- The digits of a finite number with its sign are read as the number. -/
theorem ofDecimal_shortest_signed {x : Double} (finite : x.isFinite) :
    ofDecimal x.isNegative x.shortest = x := by
  have finite' : x.magnitude.isFinite := by
    rwa [isFinite, magnitudeCode_magnitude]
  calc ofDecimal x.isNegative x.shortest
      = ofMagnitude x.isNegative (ofDecimal false x.magnitude.shortest).magnitudeCode := by
        rw [ofDecimal_eq_ofMagnitude, shortest_magnitude]
    _ = ofMagnitude x.isNegative x.magnitudeCode := by
        rw [ofDecimal_shortest (isMagnitude_magnitude finite) finite', magnitudeCode_magnitude]
    _ = x := ofMagnitude_parts x

end Double

/-! ### Leading zeros -/

theorem digitChar_ne_zero : ∀ digit < 10, 0 < digit → Nat.digitChar digit ≠ '0' := by
  decide

/-- The digits of a positive number do not start with a zero. -/
theorem head?_naturalDigits {value : Nat} (positive : 0 < value) :
    (naturalDigits value).head? ≠ some '0' := by
  unfold naturalDigits
  induction value using Nat.strongRecOn with
  | ind value hypothesis =>
      by_cases small : value < 10
      · rw [Nat.toDigits_of_lt_base small, List.head?_singleton]
        exact fun same => digitChar_ne_zero value small positive (Option.some.inj same)
      · have front : Nat.toDigits 10 (value / 10) ≠ [] := Nat.toDigits_ne_nil
        rw [Nat.toDigits_of_base_le (by decide) (by omega), List.head?_append_of_ne_nil _ front]
        exact hypothesis (value / 10) (by omega) (by omega)

theorem head?_dropTrailingZeros {digits : List Char} (nonzero : naturalOfDigits digits ≠ 0) :
    (dropTrailingZeros digits).head? = digits.head? := by
  obtain ⟨count, parts⟩ := dropTrailingZeros_append nonzero
  conv_rhs => rw [parts]
  rw [List.head?_append_of_ne_nil _ (dropTrailingZeros_ne_nil digits)]

/-- If digits do not start with a zero, it is the point in front of them that a zero is written
for. -/
theorem head?_positionalText {first : Char} (leading : first ≠ '0') (others : List Char)
    (point : Int) :
    (positionalText true (first :: others) point).head? ≠ some '0' ∨
      ∃ rest, positionalText true (first :: others) point = '0' :: '.' :: rest := by
  unfold positionalText
  split
  · exact .inr ⟨_, rfl⟩
  · apply Or.inl
    obtain ⟨count, whole⟩ : ∃ count, point.toNat = count + 1 := ⟨point.toNat - 1, by omega⟩
    simp only [whole]
    split <;> simpa using leading

/-- In a written decimal only a point follows a leading zero. -/
theorem head?_decimalText (decimal : Decimal) :
    (decimalText plainNotation decimal).head? ≠ some '0' ∨
      ∃ rest, decimalText plainNotation decimal = '0' :: '.' :: rest := by
  obtain ⟨coefficient, exponent⟩ := decimal
  unfold decimalText
  by_cases zero : coefficient = 0
  · subst zero
    exact .inr ⟨['0'], rfl⟩
  · have value := naturalOfDigits_naturalDigits coefficient
    obtain ⟨first, others, digits⟩ :=
      List.exists_cons_of_ne_nil (dropTrailingZeros_ne_nil (naturalDigits coefficient))
    have leading : first ≠ '0' := by
      have head := head?_dropTrailingZeros (value.trans_ne zero)
      rw [digits] at head
      have noZero := head?_naturalDigits (Nat.pos_of_ne_zero zero)
      rwa [← head, List.head?_cons, Ne, Option.some.injEq] at noZero
    simp only [zero, if_false, digits]
    split
    · exact head?_positionalText leading others _
    · apply Or.inl
      simpa [exponentText] using leading

theorem Numeral.whole_of_decimalText {numeral : Numeral} {decimal : Decimal}
    (text : numeral.text = decimalText plainNotation decimal) :
    numeral.whole = ['0'] ∨ numeral.whole.head? ≠ some '0' := by
  obtain ⟨first, others, whole⟩ := List.exists_cons_of_ne_nil numeral.whole_ne_nil
  have written : numeral.text = first :: (others ++ (fractionText numeral.fraction ++
      exponentText numeral.exponent?)) := by
    rw [Numeral.text, whole, List.cons_append]
  obtain leading | ⟨rest, same⟩ := head?_decimalText decimal
  · rw [← text, written] at leading
    rw [whole]
    exact .inr leading
  · rw [← text, written] at same
    obtain ⟨rfl, behind⟩ := List.cons.inj same
    cases others with
    | nil => exact .inl whole
    | cons second later =>
        -- A second digit would stand where the point is.
        obtain ⟨rfl, -⟩ := List.cons.inj behind
        have digit := numeral.whole_digits '.' (by simp [whole])
        exact absurd digit (by decide)

/-! ### The written form of a number -/

namespace Double

theorem text_of_isNaN {x : Double} (noNumber : x.isNaN) : x.text = "nan" := by
  unfold text textIn
  rw [if_pos noNumber]

theorem text_signedInfinity (negative : Bool) :
    (signedInfinity negative).text = if negative then "-inf" else "inf" := by
  cases negative <;> decide +kernel

theorem signedInfinity_of_isInfinite {x : Double} (infinite : x.isInfinite) :
    signedInfinity x.isNegative = x := by
  rw [signedInfinity, ← beq_iff_eq.mp infinite, ofMagnitude_parts]

/-- An infinite magnitude is written as a word. -/
theorem text_of_isInfinite {x : Double} (magnitude : x.IsMagnitude) (infinite : x.isInfinite) :
    x.text = "inf" := by
  rw [← signedInfinity_of_isInfinite infinite, text_signedInfinity, magnitude.isNegative]
  rfl

/-- The written form of a finite number is its sign and a numeral with a point or an exponent, which
is read as the number. -/
theorem exists_signedNumeral {x : Double} (finite : x.isFinite) :
    ∃ numeral : Numeral, x.text.toList = (if x.isNegative then ['-'] else []) ++ numeral.text ∧
      (numeral.whole = ['0'] ∨ numeral.whole.head? ≠ some '0') ∧
      (numeral.fraction ≠ [] ∨ numeral.exponent? ≠ none) ∧
      ofDecimal x.isNegative numeral.decimal = x := by
  obtain ⟨numeral, text, marked, value⟩ := exists_numeral_of_decimalText x.shortest
  have code : x.magnitudeCode < infinityCode := of_decide_eq_true finite
  have number : x.isNaN = false := decide_eq_false (by omega)
  have noInfinity : x.isInfinite = false := beq_false_of_ne (Nat.ne_of_lt code)
  refine ⟨numeral, ?_, Numeral.whole_of_decimalText text, marked, ?_⟩
  · unfold Double.text textIn
    rw [number, noInfinity, text]
    simp only [Bool.false_eq_true, if_false, String.toList_ofList]
    split <;> rfl
  · rw [value, ofDecimal_shortest_signed finite]

/-- The written form of a finite magnitude is a numeral. -/
theorem exists_numeral {x : Double} (magnitude : x.IsMagnitude) (finite : x.isFinite) :
    ∃ numeral : Numeral, numeral.text = x.text.toList ∧
      (numeral.fraction ≠ [] ∨ numeral.exponent? ≠ none) := by
  obtain ⟨numeral, text, -, marked, -⟩ := exists_signedNumeral finite
  rw [magnitude.isNegative] at text
  exact ⟨numeral, text.symm, marked⟩

/-- Writing a finite number and reading it gives it back. -/
theorem readDouble?_text {x : Double} (finite : x.isFinite) :
    readDouble? x.text.toList = some x := by
  obtain ⟨numeral, text, -, -, value⟩ := exists_signedNumeral finite
  rw [text, numeral.readDouble?_signed, value]

end Double

end Stencil
