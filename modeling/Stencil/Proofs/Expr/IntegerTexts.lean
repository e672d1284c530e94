/-
Module: Stencil.Proofs.Expr.IntegerTexts
Purpose: Integer literals and the conversion of texts to integers read the same texts, and read them
  as the same integers, up to a number of digits with which neither reads anything.
Main exports: signedText, signedValue, evaluateText, evaluateText_literal, evaluateText_conversion,
  integer_readers_agree
-/
import Mathlib.Data.Nat.Digits.Defs
import Stencil.Proofs.Expr.Canonical
import Stencil.Proofs.Expr.Neutral
import Stencil.Proofs.Expr.Simultaneous
import Stencil.Proofs.Number.WordArithmetic

namespace Stencil.Expr

open Text

/-! ### Texts of integers -/

/-- A minus sign or none, and digits. -/
def signedText (negative : Bool) (digits : List Char) : String :=
  String.ofList ((if negative then ['-'] else []) ++ digits)

/-- The number that digits of any script denote in base ten, the most significant one first. -/
def decimalValue (digits : List Char) : Nat :=
  Nat.ofDigits 10 (digits.map fun digit => (digitValue? digit).getD 0).reverse

/-- The integer that a sign and digits denote. -/
def signedValue (negative : Bool) (digits : List Char) : Int :=
  if negative then -decimalValue digits else decimalValue digits

theorem naturalOfDigits_eq_decimalValue (digits : List Char) :
    naturalOfDigits digits = decimalValue digits := by
  induction digits using List.reverseRecOn with
  | nil => rfl
  | append_singleton front last ih =>
      unfold decimalValue at ih ⊢
      rw [naturalOfDigits_append, ih, List.map_append, List.reverse_append]
      simp [Nat.ofDigits_cons, naturalOfDigits]
      omega

/-- The text of an integer is its sign and its digits, and denotes it. -/
theorem integerText_eq_signedText (value : Int) :
    ∃ negative digits, Digits digits ∧ (IsWritable value → IsReadable digits) ∧
      integerText value = signedText negative digits ∧ signedValue negative digits = value := by
  refine ⟨decide (value < 0), naturalDigits value.natAbs, ?_, id, ?_, ?_⟩
  · refine ⟨naturalDigits_ne_nil _, fun digit member => ?_⟩
    exact isDecimalDigit_of_isDigit (naturalDigits_isDigit _ digit member)
  · simp [integerText, signedText]
  · unfold signedValue
    rw [← naturalOfDigits_eq_decimalValue, naturalOfDigits_naturalDigits]
    by_cases negative : value < 0
    · rw [if_pos (decide_eq_true negative)]
      omega
    · rw [if_neg (by simpa using negative)]
      omega

/-! ### Evaluating texts -/

/-- Read a text and evaluate what has been read. -/
def evaluateText (setting : Setting) (world : World) (text : String) :
    Except SyntaxError (Except Failure Value) :=
  (Expression.parse text).map fun expression => ((expression.evaluate setting).run.run world).1

section Readers

variable {negative : Bool} {digits : List Char}

/-! ### Literals -/

/-- The phrase of a sign and digits. -/
def literalPhrase (negative : Bool) (digits : List Char) : UnaryPhrase :=
  if negative then .applied .minus (.number (String.ofList digits))
  else .plain (.number (String.ofList digits))

theorem integerValue?_digits (digital : Digits digits) :
    integerValue? (String.ofList digits) = some (decimalValue digits) := by
  unfold integerValue?
  rw [String.toList_ofList, isDoubleLiteral_of_digits digital.2, naturalOfDigits_eq_decimalValue]
  rfl

/-- A sign and digits are the tokens of their phrase. -/
theorem literal_lexes (digital : Digits digits) :
    Lexes (signedText negative digits).toList
      (literalPhrase negative digits).disjunction.tokens := by
  have number : IsNumber digits := by
    have whole := IsNumber.whole digital (.inl rfl)
    rwa [List.append_nil] at whole
  have inner := Lexes.number number
  unfold signedText literalPhrase
  rw [String.toList_ofList, UnaryPhrase.tokens_disjunction]
  cases negative with
  | false => exact inner
  | true =>
      have scanned : ∀ rest, LexemeClass.scan '-' (digits ++ rest) = some (.operator .minus, 1) :=
        fun _ => rfl
      exact Lexes.marked (by decide) inner scanned fun _ => rfl

/-- The phrase of a sign and digits is in range just if the digits can be read and the integer is in
range. -/
theorem literalPhrase_inRange (digital : Digits digits) :
    (literalPhrase negative digits).InRange ↔
      IsReadable digits ∧ Word64.InRange (signedValue negative digits) := by
  have value := integerValue?_digits digital
  have number : (PrimaryPhrase.number (String.ofList digits)).InRange ↔
      IsReadable digits ∧ (decimalValue digits : Int) ≤ Word64.greatest := by
    simp [PrimaryPhrase.InRange, value]
  unfold literalPhrase signedValue Word64.InRange
  cases negative with
  | false =>
      have plain : (UnaryPhrase.plain (.number (String.ofList digits))).InRange ↔
          IsReadable digits ∧ (decimalValue digits : Int) ≤ Word64.greatest := number
      simp only [Bool.false_eq_true, if_false, plain, Word64.least]
      exact and_congr_right fun _ => by omega
  | true =>
      -- Behind a minus sign 2^63 is in range too.
      simp only [if_true, UnaryPhrase.InRange, number, PrimaryPhrase.integer?_number, value,
        String.toList_ofList, Option.some.injEq, true_and, Word64.least, Word64.greatest,
        leastMagnitude, ← and_or_left]
      exact and_congr_right fun _ => by omega

/-- In range, a sign and digits are evaluated to the integer. -/
theorem literalPhrase_evaluate (digital : Digits digits) (readable : IsReadable digits)
    (fits : Word64.InRange (signedValue negative digits)) (setting : Setting) :
    (literalPhrase negative digits).tree.evaluate setting =
      pure (.integer (signedValue negative digits)) := by
  have value := integerValue?_digits digital
  have number : (PrimaryPhrase.number (String.ofList digits)).tree =
      .integer (decimalValue digits) := by
    simp [PrimaryPhrase.tree, numberTree, value]
  unfold literalPhrase signedValue at *
  cases negative with
  | false => simp [UnaryPhrase.tree, number, Primary.evaluate]
  | true =>
      simp only [if_true, UnaryPhrase.tree, PrimaryPhrase.integer?, value, number, true_and,
        String.toList_ofList, if_pos readable, Option.some.injEq] at fits ⊢
      by_cases least : decimalValue digits = leastMagnitude
      · rw [if_pos least, least]
        rfl
      · rw [if_neg least]
        have wrapped := Word64.wrap_of_inRange fits
        simp [Unary.evaluate, Primary.evaluate, applyUnary, wrapped, Evaluation.ofOperation]

/-- A sign and digits are evaluated to the integer that they denote, if it is in range. -/
theorem evaluateText_literal (digital : Digits digits) (readable : IsReadable digits)
    (fits : Word64.InRange (signedValue negative digits)) (setting : Setting) (world : World) :
    evaluateText setting world (signedText negative digits) =
      .ok (.ok (.integer (signedValue negative digits))) := by
  have read := (@literal_lexes negative digits digital).parse_eq_ok_iff.mpr
    ⟨UnaryPhrase.inRange_disjunction.mpr ((literalPhrase_inRange digital).mpr ⟨readable, fits⟩),
      rfl⟩
  have evaluated := literalPhrase_evaluate digital readable fits setting
  unfold evaluateText
  rw [read, UnaryPhrase.tree_disjunction]
  simp only [Except.map, Expression.evaluate, Unary.evaluate_disjunction, evaluated]
  rfl

/-- A sign and digits that denote no integer in range are no expression. -/
theorem parse_literal_outOfRange (digital : Digits digits)
    (beyond : ¬ Word64.InRange (signedValue negative digits)) :
    ∃ fault, Expression.parse (signedText negative digits) = .error fault := by
  cases read : Expression.parse (signedText negative digits) with
  | error fault => exact ⟨fault, rfl⟩
  | ok expression =>
      have fits := ((literal_lexes digital).parse_eq_ok_iff.mp read).1
      exact absurd ((literalPhrase_inRange digital).mp (UnaryPhrase.inRange_disjunction.mp fits)).2
        beyond

/-- A sign and digits that are too many to be read are no expression either, whatever they denote. -/
theorem parse_literal_long (digital : Digits digits) (long : ¬ IsReadable digits) :
    ∃ position, Expression.parse (signedText negative digits) =
      .error ⟨.tooManyDigits digits.length, position⟩ := by
  obtain ⟨lexemes, cut, same⟩ := (@literal_lexes negative digits digital).tokenize
  have token : (Token.number (String.ofList digits)).digits = digits := by
    simp [Token.digits, isDoubleLiteral_of_digits digital.2]
  obtain ⟨body, last, rfl, -⟩ := tokenize_lexical cut
  have parts : tokensOf body = (if negative then [.operator .minus] else []) ++
      [.number (String.ofList digits)] := by
    rw [tokensOf_append, tokensOf_cons, tokensOf_nil, List.dropLast_concat] at same
    rw [same]
    unfold literalPhrase
    rw [UnaryPhrase.tokens_disjunction]
    cases negative <;> rfl
  obtain ⟨front, numbers, rfl, sign, number⟩ := tokensOf_eq_append_iff.mp parts
  obtain ⟨lexeme, others, rfl, isNumber, ended⟩ := tokensOf_eq_cons_iff.mp number
  obtain rfl := List.map_eq_nil_iff.mp ended
  rw [← isNumber] at token
  have start : front = [] ∨ ∃ sign : Lexeme, sign.token = .operator .minus ∧ front = [sign] := by
    cases negative with
    | false => exact .inl (List.map_eq_nil_iff.mp sign)
    | true =>
        obtain ⟨minus, rest, rfl, isMinus, ended⟩ := tokensOf_eq_cons_iff.mp sign
        obtain rfl := List.map_eq_nil_iff.mp ended
        exact .inr ⟨minus, isMinus, rfl⟩
  have refused := @parseLexemes_long _ [⟨.endOfText, last⟩] _ (by rwa [token]) start
  rw [token] at refused
  refine ⟨lexeme.position, ?_⟩
  rw [parse_of_tokenize cut, List.append_assoc, List.singleton_append, refused]
  rfl

/-! ### The conversion -/

theorem splitSign_signed (digital : Digits digits) :
    splitSign ((if negative then ['-'] else []) ++ digits) = (negative, digits) := by
  cases negative with
  | true => rfl
  | false =>
      obtain ⟨first, rest, rfl⟩ := List.exists_cons_of_ne_nil digital.1
      have digit := digital.2 first List.mem_cons_self
      apply splitSign_cons
      · rintro rfl
        revert digit
        decide
      · rintro rfl
        revert digit
        decide

theorem readInteger?_signed (digital : Digits digits) :
    readInteger? (signedText negative digits).toList = some (signedValue negative digits) := by
  unfold readInteger? signedText signedValue
  rw [String.toList_ofList, splitSign_signed digital]
  have notEmpty : digits.isEmpty = false := by simpa using digital.1
  have all : digits.all isDecimalDigit = true := List.all_eq_true.mpr digital.2
  simp only [notEmpty, all, naturalOfDigits_eq_decimalValue]
  simp

/-- A mapping that has a text at one name. -/
def textAt (cache : Nat) (parameters : List Value) (text : String) : Setting where
  resolver := Resolver.standard cache
  model := .value (.map [(.text "x", .text text)])
  parameters := parameters

/-- The conversion of a text at a name is the conversion of the text. -/
theorem evaluateText_conversion (cache : Nat) (parameters : List Value) (world : World)
    (text : String) :
    evaluateText (textAt cache parameters text) world "x.toInt" =
      .ok (textToInteger "x.toInt" text) := by
  have read : Expression.parse "x.toInt" =
      .ok ⟨(Unary.plain (.path "x.toInt")).disjunction, "x.toInt"⟩ := by
    cbv
  have split : splitConversion "x.toInt" = ("x", some .toInteger) := by decide
  have present : (textAt cache parameters text).model.isNull = false := rfl
  have ran := @evaluatePath_run _ "x.toInt" present world world (.ok (.text text))
  rw [split] at ran
  have evaluated := ran rfl
  unfold evaluateText
  rw [read]
  simp only [Except.map, Expression.evaluate, Unary.evaluate_disjunction, Unary.evaluate_plain,
    Primary.evaluate, evaluated]
  rfl

/-- What there is to read is a sign and digits, and an integer only if it is not too long. -/
theorem textToInteger_signed (path : String) (digital : Digits digits) :
    textToInteger path (signedText negative digits) =
      if ¬ IsReadable digits then
        .error (.ofRaised (DigitFault.reading digits.length).raised)
      else if Word64.InRange (signedValue negative digits) then
        .ok (.integer (signedValue negative digits))
      else .error (.operation (.invalidInteger path (signedText negative digits))) := by
  have parts : splitSign (signedText negative digits).toList = (negative, digits) := by
    unfold signedText
    rw [String.toList_ofList, splitSign_signed digital]
  unfold textToInteger
  rw [readInteger?_signed digital]
  simp only [parts]

/-- The conversion gives the integer that a sign and digits denote, if it is in range. -/
theorem evaluateText_conversion_inRange (digital : Digits digits) (readable : IsReadable digits)
    (fits : Word64.InRange (signedValue negative digits)) (cache : Nat) (parameters : List Value)
    (world : World) :
    evaluateText (textAt cache parameters (signedText negative digits)) world "x.toInt" =
      .ok (.ok (.integer (signedValue negative digits))) := by
  rw [evaluateText_conversion, textToInteger_signed _ digital, if_neg (not_not_intro readable),
    if_pos fits]

/-- The conversion of a sign and digits that denote no integer in range fails. -/
theorem evaluateText_conversion_outOfRange (digital : Digits digits)
    (readable : IsReadable digits) (beyond : ¬ Word64.InRange (signedValue negative digits)) (cache : Nat)
    (parameters : List Value) (world : World) :
    evaluateText (textAt cache parameters (signedText negative digits)) world "x.toInt" =
      .ok (.error (.operation (.invalidInteger "x.toInt" (signedText negative digits)))) := by
  rw [evaluateText_conversion, textToInteger_signed _ digital, if_neg (not_not_intro readable),
    if_neg beyond]

/-- Where there are too many digits, the conversion fails otherwise, whatever they denote. -/
theorem evaluateText_conversion_long (digital : Digits digits) (long : ¬ IsReadable digits)
    (cache : Nat) (parameters : List Value) (world : World) :
    evaluateText (textAt cache parameters (signedText negative digits)) world "x.toInt" =
      .ok (.error (.ofRaised (DigitFault.reading digits.length).raised)) := by
  rw [evaluateText_conversion, textToInteger_signed _ digital, if_pos long]

end Readers

/-! ### Both readers -/

/-- What gives an integer if it is in range, and else none, gives exactly that integer. -/
theorem reads_iff {result : Except SyntaxError (Except Failure Value)} {denoted value : Int}
    (inside : Word64.InRange denoted → result = .ok (.ok (.integer denoted)))
    (outside : ¬ Word64.InRange denoted → ∀ other, result ≠ .ok (.ok (.integer other))) :
    result = .ok (.ok (.integer value)) ↔ denoted = value ∧ Word64.InRange value := by
  constructor
  · intro given
    by_cases fits : Word64.InRange denoted
    · rw [inside fits] at given
      cases given
      exact ⟨rfl, fits⟩
    · exact absurd given (outside fits value)
  · rintro ⟨rfl, fits⟩
    exact inside fits

/-- On texts of a sign and digits, of any script and up to a number of them, the literal and the
conversion give an integer exactly if the text denotes it and it fits into 64 bits.  Otherwise the text
is no expression, and the conversion fails.  So both give back every integer from its text.  With more
digits neither gives an integer, even if they are zeros: both fail because there are too many. -/
theorem integer_readers_agree (setting : Setting) (world : World) (cache : Nat)
    (parameters : List Value) (world' : World) :
    (∀ (negative : Bool) (digits : List Char), Digits digits → IsReadable digits →
      (∀ value : Int,
        evaluateText setting world (signedText negative digits) = .ok (.ok (.integer value)) ↔
          signedValue negative digits = value ∧ Word64.InRange value) ∧
      (∀ value : Int,
        evaluateText (textAt cache parameters (signedText negative digits)) world' "x.toInt" =
            .ok (.ok (.integer value)) ↔
          signedValue negative digits = value ∧ Word64.InRange value) ∧
      (¬ Word64.InRange (signedValue negative digits) →
        (∃ fault, evaluateText setting world (signedText negative digits) = .error fault) ∧
        evaluateText (textAt cache parameters (signedText negative digits)) world' "x.toInt" =
          .ok (.error (.operation
            (.invalidInteger "x.toInt" (signedText negative digits)))))) ∧
    (∀ (negative : Bool) (digits : List Char), Digits digits → ¬ IsReadable digits →
      (∃ position, evaluateText setting world (signedText negative digits) =
        .error ⟨.tooManyDigits digits.length, position⟩) ∧
      evaluateText (textAt cache parameters (signedText negative digits)) world' "x.toInt" =
        .ok (.error (.ofRaised (DigitFault.reading digits.length).raised))) ∧
    ∀ value : Int, Word64.InRange value →
      evaluateText setting world (Value.integer value).toText = .ok (.ok (.integer value)) ∧
        evaluateText (textAt cache parameters (Value.integer value).toText) world' "x.toInt" =
          .ok (.ok (.integer value)) := by
  refine ⟨?_, ?_, ?_⟩
  · intro negative digits digital readable
    have refused (beyond : ¬ Word64.InRange (signedValue negative digits)) :
        ∃ fault, evaluateText setting world (signedText negative digits) = .error fault := by
      obtain ⟨fault, read⟩ := parse_literal_outOfRange digital beyond
      unfold evaluateText
      rw [read]
      exact ⟨fault, rfl⟩
    have failed (beyond : ¬ Word64.InRange (signedValue negative digits)) :=
      evaluateText_conversion_outOfRange digital readable beyond cache parameters world'
    refine ⟨fun value => ?_, fun value => ?_, fun beyond => ⟨refused beyond, failed beyond⟩⟩
    · apply reads_iff
      · exact fun fits => evaluateText_literal digital readable fits setting world
      · intro beyond other given
        obtain ⟨fault, error⟩ := refused beyond
        rw [error] at given
        cases given
    · apply reads_iff
      · exact fun fits =>
          evaluateText_conversion_inRange digital readable fits cache parameters world'
      · intro beyond other given
        rw [failed beyond] at given
        cases given
  · intro negative digits digital long
    refine ⟨?_, evaluateText_conversion_long digital long cache parameters world'⟩
    obtain ⟨position, read⟩ := @parse_literal_long negative digits digital long
    refine ⟨position, ?_⟩
    unfold evaluateText
    rw [read]
    rfl
  · intro value fits
    obtain ⟨negative, digits, digital, few, text, denoted⟩ := integerText_eq_signedText value
    have readable := few (isWritable_of_inRange fits)
    have written : (Value.integer value).toText = signedText negative digits := text
    rw [written, ← denoted]
    rw [← denoted] at fits
    exact ⟨evaluateText_literal digital readable fits setting world,
      evaluateText_conversion_inRange digital readable fits cache parameters world'⟩

/-- With Devanagari digits and a zero in front, the least integer is in range, and its negation is
not. -/
theorem integer_readers_agree_devanagari :
    signedText true "०९२२३३७२०३६८५४७७५८०८".toList = "-०९२२३३७२०३६८५४७७५८०८" ∧
      evaluateText (textAt 0 [] "") {} "-०९२२३३७२०३६८५४७७५८०८" =
        .ok (.ok (.integer (-9223372036854775808))) ∧
      (∃ fault, evaluateText (textAt 0 [] "") {} "०९२२३३७२०३६८५४७७५८०८" = .error fault) ∧
      evaluateText (textAt 0 [] "-9223372036854775808") {} "x.toInt" =
        .ok (.ok (.integer (-9223372036854775808))) := by
  have digital : Digits "०९२२३३७२०३६८५४७७५८०८".toList :=
    ⟨by decide, List.all_eq_true.mp (by decide +kernel)⟩
  have readers := integer_readers_agree (textAt 0 [] "") {} 0 [] {}
  have value : signedValue true "०९२२३३७२०३६८५४७७५८०८".toList = -9223372036854775808 := by cbv
  have beyond : ¬ Word64.InRange (signedValue false "०९२२३३७२०३६८५४७७५८०८".toList) := by decide
  have text : signedText true "०९२२३३७२०३६८५४७७५८०८".toList = "-०९२२३३७२०३६८५४७७५८०८" := by
    cbv
  have text' : signedText false "०९२२३३७२०३६८५४७७५८०८".toList = "०९२२३३७२०३६८५४७७५८०८" := by
    cbv
  have readable : IsReadable "०९२२३३७२०३६८५४७७५८०८".toList := by decide
  have least :=
    ((readers.1 true _ digital readable).1 (-9223372036854775808)).mpr ⟨value, by decide⟩
  have refused := ((readers.1 false _ digital readable).2.2 beyond).1
  have converted := (readers.2.2 (-9223372036854775808) (by decide)).2
  rw [text] at least
  rw [text'] at refused
  exact ⟨text, least, refused, converted⟩

end Stencil.Expr
