/-
Module: Stencil.Proofs.Number.Numeral
Purpose: Numbers as they are written, part by part, and how they are read.
Main exports: Numeral, Numeral.text, Numeral.decimal, Numeral.readDouble?_signed
-/
import Stencil.Proofs.Number.Digits

namespace Stencil

open Text

/-- A number as it is written: digits, digits behind a point, of which there may be none, and an
exponent, with whether it is negative, if there is one. -/
structure Numeral where
  whole : List Char
  fraction : List Char
  exponent? : Option (Bool × List Char)
  whole_ne_nil : whole ≠ []
  whole_digits : ∀ digit ∈ whole, digit.isDigit
  fraction_digits : ∀ digit ∈ fraction, digit.isDigit
  exponent_digits : ∀ exponent ∈ exponent?, exponent.2 ≠ [] ∧ ∀ digit ∈ exponent.2, digit.isDigit

namespace Numeral

/-- The point and the digits behind it, if there are any. -/
def fractionText (fraction : List Char) : List Char :=
  if fraction.isEmpty then [] else '.' :: fraction

/-- The mark, the sign and the digits of an exponent, if there is one. -/
def exponentText : Option (Bool × List Char) → List Char
  | none => []
  | some (negative, digits) => 'e' :: (if negative then '-' else '+') :: digits

def exponentValue : Option (Bool × List Char) → Int
  | none => 0
  | some (negative, digits) =>
      if negative then -(naturalOfDigits digits : Int) else naturalOfDigits digits

/-- The characters of a numeral. -/
def text (numeral : Numeral) : List Char :=
  numeral.whole ++ (fractionText numeral.fraction ++ exponentText numeral.exponent?)

/-- The value of a numeral. -/
def decimal (numeral : Numeral) : Decimal :=
  ⟨naturalOfDigits (numeral.whole ++ numeral.fraction),
    exponentValue numeral.exponent? - numeral.fraction.length⟩

/-- A numeral without a point and without an exponent. -/
def ofDigits (digits : List Char) (nonempty : digits ≠ [])
    (plain : ∀ digit ∈ digits, digit.isDigit) :
    Numeral where
  whole := digits
  fraction := []
  exponent? := none
  whole_ne_nil := nonempty
  whole_digits := plain
  fraction_digits := by simp
  exponent_digits := by simp

theorem text_ofDigits {digits : List Char} (nonempty : digits ≠ [])
    (plain : ∀ digit ∈ digits, digit.isDigit) : (ofDigits digits nonempty plain).text = digits := by
  simp [text, ofDigits, fractionText, exponentText]

/-! ### The characters of a numeral -/

theorem text_eq_cons (numeral : Numeral) :
    ∃ first rest, numeral.text = first :: rest ∧ first.isDigit := by
  cases parts : numeral.whole with
  | nil => exact absurd parts numeral.whole_ne_nil
  | cons first rest =>
      refine ⟨first, rest ++ (fractionText numeral.fraction ++ exponentText numeral.exponent?),
        ?_, ?_⟩
      · rw [text, parts, List.cons_append]
      · exact numeral.whole_digits first (parts ▸ List.mem_cons_self)

/-- A numeral consists of digits, a point, the mark of the exponent and its sign. -/
theorem mem_text {numeral : Numeral} {character : Char} (member : character ∈ numeral.text) :
    character.isDigit ∨ character ∈ ['.', 'e', '-', '+'] := by
  rcases List.mem_append.mp member with whole | behind
  · exact .inl (numeral.whole_digits character whole)
  · rcases List.mem_append.mp behind with fraction | exponent
    · unfold fractionText at fraction
      split at fraction
      · cases fraction
      · rcases List.mem_cons.mp fraction with rfl | digit
        · exact .inr (by decide)
        · exact .inl (numeral.fraction_digits character digit)
    · cases same : numeral.exponent? with
      | none =>
          rw [same] at exponent
          cases exponent
      | some parts =>
          obtain ⟨negative, digits⟩ := parts
          obtain ⟨-, plain⟩ := numeral.exponent_digits (negative, digits) same
          rw [same] at exponent
          rcases List.mem_cons.mp exponent with rfl | later
          · exact .inr (by decide)
          · rcases List.mem_cons.mp later with rfl | digit
            · refine .inr ?_
              cases negative <;> decide
            · exact .inl (plain character digit)

theorem isNumberBlank_of_mem_text {numeral : Numeral} {character : Char}
    (member : character ∈ numeral.text) : isNumberBlank character = false := by
  have solid : isBlank character = false := by
    rcases mem_text member with digit | mark
    · exact isBlank_of_isDigit digit
    · have marks : ['.', 'e', '-', '+'].all (fun mark => !isBlank mark) = true := by decide
      exact (Bool.not_eq_true' _).mp (List.all_eq_true.mp marks character mark)
  rw [isNumberBlank, solid, Bool.false_and]

theorem underscore_notMem_text (numeral : Numeral) : '_' ∉ numeral.text := by
  intro member
  rcases mem_text member with digit | mark
  · revert digit
    decide
  · revert mark
    decide

/-! ### Reading the parts -/

/-- A run of digits ends where no digit follows. -/
theorem span_digits {digits rest : List Char} (plain : ∀ digit ∈ digits, digit.isDigit)
    (stops : ∀ next ∈ rest.head?, isDecimalDigit next = false) :
    (digits ++ rest).takeWhile isDecimalDigit = digits ∧
      (digits ++ rest).dropWhile isDecimalDigit = rest := by
  have all : ∀ digit ∈ digits, isDecimalDigit digit := fun digit member =>
    isDecimalDigit_of_isDigit (plain digit member)
  rw [List.takeWhile_append_of_pos all, List.dropWhile_append_of_pos all]
  cases rest with
  | nil => simp
  | cons next later =>
      have other := stops next rfl
      simp [other]

theorem head?_exponentText {exponent? : Option (Bool × List Char)} {rest : List Char}
    (stops : ∀ next ∈ rest.head?, isDecimalDigit next = false) :
    ∀ next ∈ (exponentText exponent? ++ rest).head?, isDecimalDigit next = false := by
  cases exponent? with
  | none => exact stops
  | some parts =>
      intro next member
      cases member
      decide

theorem head?_fractionText {fraction rest : List Char}
    (stops : ∀ next ∈ rest.head?, isDecimalDigit next = false) :
    ∀ next ∈ (fractionText fraction ++ rest).head?, isDecimalDigit next = false := by
  cases fraction with
  | nil => exact stops
  | cons digit digits =>
      intro next member
      cases member
      decide

theorem splitSign_sign (negative : Bool) (digits : List Char) :
    splitSign ((if negative then '-' else '+') :: digits) = (negative, digits) := by
  cases negative <;> rfl

theorem readExponent?_exponentText {exponent? : Option (Bool × List Char)}
    (plain : ∀ exponent ∈ exponent?, exponent.2 ≠ [] ∧ ∀ digit ∈ exponent.2, digit.isDigit) :
    readExponent? (exponentText exponent?) = some (exponentValue exponent?) := by
  cases exponent? with
  | none => rfl
  | some parts =>
      obtain ⟨negative, digits⟩ := parts
      obtain ⟨nonempty, digit⟩ := plain (negative, digits) rfl
      have solid : digits.isEmpty = false := by simpa using nonempty
      have all : digits.all isDecimalDigit = true :=
        List.all_eq_true.mpr fun character member => isDecimalDigit_of_isDigit (digit character member)
      unfold exponentText readExponent? readInteger?
      simp only [splitSign_sign, solid, all]
      rfl

/-- A numeral is read as its value. -/
theorem readDecimalLiteral?_text (numeral : Numeral) :
    readDecimalLiteral? numeral.text = some numeral.decimal := by
  have stops : ∀ next ∈ (exponentText numeral.exponent?).head?, isDecimalDigit next = false := by
    have atEnd : ∀ next ∈ ([] : List Char).head?, isDecimalDigit next = false := by simp
    have behind := @head?_exponentText numeral.exponent? [] atEnd
    rwa [List.append_nil] at behind
  obtain ⟨taken, left⟩ := span_digits numeral.whole_digits
    (@head?_fractionText numeral.fraction _ stops)
  obtain ⟨taken', left'⟩ := span_digits numeral.fraction_digits stops
  have solid : numeral.whole.isEmpty = false := by simpa using numeral.whole_ne_nil
  have exponent := readExponent?_exponentText numeral.exponent_digits
  unfold readDecimalLiteral? text decimal
  simp only [taken, left, solid, Bool.false_and, Bool.false_eq_true, if_false]
  cases parts : numeral.fraction with
  | nil =>
      cases same : numeral.exponent? with
      | none => rfl
      | some written =>
          rw [same] at exponent
          -- What follows starts with the mark of the exponent, which is no point.
          change (readExponent? (exponentText (some written))).map (fun exponent =>
            Decimal.mk (naturalOfDigits (numeral.whole ++ [])) (exponent - (0 : Nat))) = _
          rw [exponent]
          rfl
  | cons digit rest =>
      rw [parts] at taken' left'
      rw [List.cons_append] at taken' left'
      simp only [fractionText, List.isEmpty_cons, Bool.false_eq_true, if_false, List.cons_append,
        taken', left', exponent]
      rfl

/-! ### Reading a numeral -/

theorem dropUnderscores?_eq_some {text : List Char} (previous : Option Char)
    (noUnderscore : '_' ∉ text) :
    dropUnderscores? previous text = some text := by
  induction text generalizing previous with
  | nil => rfl
  | cons character rest ih =>
      rw [List.mem_cons, not_or] at noUnderscore
      obtain ⟨here, later⟩ := noUnderscore
      rw [dropUnderscores?]
      · rw [ih _ later]
        rfl
      · rintro rfl
        exact here rfl

theorem dropWhile_eq_self {test : Char → Bool} {characters : List Char}
    (fails : ∀ character ∈ characters, test character = false) :
    characters.dropWhile test = characters := by
  cases characters with
  | nil => rfl
  | cons first rest =>
      rw [List.dropWhile_cons_of_neg]
      simp [fails first List.mem_cons_self]

theorem trimNumber_eq_self {characters : List Char}
    (solid : ∀ character ∈ characters, isNumberBlank character = false) :
    trimNumber characters = characters := by
  have solid' : ∀ character ∈ characters.reverse, isNumberBlank character = false :=
    fun character member => solid character (List.mem_reverse.mp member)
  rw [trimNumber, dropWhile_eq_self solid, dropWhile_eq_self solid', List.reverse_reverse]

/-- A minus sign in front of a numeral is split off, and nothing else is. -/
theorem splitSign_text (numeral : Numeral) (negative : Bool) :
    splitSign ((if negative then ['-'] else []) ++ numeral.text) = (negative, numeral.text) := by
  obtain ⟨first, rest, parts, digit⟩ := numeral.text_eq_cons
  have noMinus : first ≠ '-' := by
    rintro rfl
    revert digit
    decide
  have noPlus : first ≠ '+' := by
    rintro rfl
    revert digit
    decide
  cases negative with
  | true => rfl
  | false =>
      rw [parts]
      exact splitSign_cons rest noMinus noPlus

/-- A numeral with its sign is read as the number of that sign that is nearest to its value. -/
theorem readDouble?_signed (numeral : Numeral) (negative : Bool) :
    readDouble? ((if negative then ['-'] else []) ++ numeral.text) =
      some (Double.ofDecimal negative numeral.decimal) := by
  have solid : ∀ character ∈ (if negative then ['-'] else []) ++ numeral.text,
      isNumberBlank character = false := by
    have ofSign : ∀ character ∈ (if negative then ['-'] else []),
        isNumberBlank character = false := by
      cases negative with
      | true => exact List.forall_mem_singleton.mpr (by decide)
      | false => exact List.forall_mem_nil _
    exact List.forall_mem_append.mpr ⟨ofSign, fun _ member => isNumberBlank_of_mem_text member⟩
  have noWord : readNumberWord? negative numeral.text = none := by
    obtain ⟨first, rest, parts, digit⟩ := numeral.text_eq_cons
    rw [parts]
    exact readNumberWord?_eq_none negative rest (.inl (isDecimalDigit_of_isDigit digit))
  unfold readDouble?
  simp only [trimNumber_eq_self solid, splitSign_text, noWord,
    dropUnderscores?_eq_some none numeral.underscore_notMem_text, Option.bind_eq_bind,
    Option.bind_some, readDecimalLiteral?_text]
  rfl

end Numeral

end Stencil
