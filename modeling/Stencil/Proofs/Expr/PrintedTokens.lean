/-
Module: Stencil.Proofs.Expr.PrintedTokens
Purpose: The printed form of each kind of token is cut into this token.
Main exports: Lexes.sign, Lexes.word, Lexes.number, Lexes.parameter, Lexes.quoted
-/
import Stencil.Expr.Printer
import Stencil.Proofs.Expr.LexemeClasses
import Stencil.Proofs.Expr.Relexing

namespace Stencil.Expr

open Text

/-! ### Signs -/

/-- The sign of an operator is read as the operator.  No sign goes on with a space or a parenthesis. -/
theorem Lexes.sign (sign : Operator) : Lexes sign.sign.toList [.operator sign] := by
  have scanned : ∀ first body, sign.sign.toList = first :: body → ∀ rest, Breaks rest →
      LexemeClass.scan first (body ++ rest) = some (.operator sign, body.length + 1) := by
    intro first body parts rest breaks
    cases rest with
    | nil => cases sign <;> cases parts <;> rfl
    | cons next rest =>
        rcases breaks next rfl with rfl | rfl <;> cases sign <;> cases parts <;> rfl
  cases parts : sign.sign.toList with
  | nil => cases sign <;> cases parts
  | cons first body =>
      have solid : isBlank first = false := by
        cases sign <;> cases parts <;> decide
      exact Lexes.one (.operator sign) solid (scanned first body parts) fun _ => rfl

/-! ### Names -/

/-- What follows a path does not lengthen it. -/
theorem pathRest_append {body rest : List Char} (whole : pathRest body = body.length)
    (breaks : Breaks rest) : pathRest (body ++ rest) = body.length := by
  fun_induction pathRest body with
  | case1 character body start ih =>
      have inner : pathRest body = body.length := by
        rw [List.length_cons, List.length_cons] at whole
        omega
      rw [List.cons_append, List.cons_append, pathRest, if_pos start, ih inner, List.length_cons,
        List.length_cons]
      omega
  | case3 character body other part ih =>
      have inner : pathRest body = body.length := by
        rw [List.length_cons] at whole
        omega
      rw [List.cons_append, pathRest_of_part part, ih inner, List.length_cons]
      omega
  | case2 | case4 => cases whole
  | case5 =>
      cases rest with
      | nil => rfl
      | cons next rest => rcases breaks next rfl with rfl | rfl <;> rfl

/-- A name is read as the token of its word. -/
theorem Lexes.word {first : Char} {body : List Char} (start : isNameStart first)
    (whole : pathRest body = body.length) :
    Lexes (first :: body) [wordToken (String.ofList (first :: body))] := by
  refine Lexes.one .path (isBlank_of_isNameStart start) (fun rest breaks => ?_) fun _ => rfl
  rw [scan_of_isNameStart start, pathRest_append whole breaks]

theorem Lexes.path {written : String} (lexical : (Token.path written).Lexical) :
    Lexes written.toList [.path written] := by
  obtain ⟨first, body, parts, -, start, whole, same⟩ := lexical
  have lexes := Lexes.word start whole
  rw [← parts, String.ofList_toList, same] at lexes
  exact lexes

/-! ### Numbers and parameters -/

theorem Breaks.noDigit {rest : List Char} (breaks : Breaks rest) :
    ∀ next ∈ rest.head?, isDecimalDigit next = false :=
  breaks.stops (by decide) (by decide)

/-- The characters of numbers. -/
def isNumberPart (character : Char) : Bool :=
  isDecimalDigit character || ['.', 'e', 'E', '+', '-'].contains character

theorem isNumberPart_of_digit {digit : Char} (decimal : isDecimalDigit digit = true) :
    isNumberPart digit = true := by
  rw [isNumberPart, decimal, Bool.true_or]

theorem isNumberPart_of_ending {exponent : List Char}
    (ending : exponent = [] ∨ IsExponent exponent) :
    ∀ part ∈ exponent, isNumberPart part = true := by
  rcases ending with rfl | written
  · exact List.forall_mem_nil _
  · cases written with
    | plain marked digital =>
        refine List.forall_mem_cons.mpr ⟨?_, fun digit member => ?_⟩
        · rcases marked with rfl | rfl <;> decide
        · exact isNumberPart_of_digit (digital.2 digit member)
    | signed marked isSign digital =>
        refine List.forall_mem_cons.mpr ⟨?_, List.forall_mem_cons.mpr ⟨?_, fun digit member => ?_⟩⟩
        · rcases marked with rfl | rfl <;> decide
        · rcases isSign with rfl | rfl <;> decide
        · exact isNumberPart_of_digit (digital.2 digit member)

theorem IsNumber.parts {written : List Char} (number : IsNumber written) :
    ∀ part ∈ written, isNumberPart part = true := by
  have digits : ∀ {text : List Char}, (∀ digit ∈ text, isDecimalDigit digit = true) →
      ∀ part ∈ text, isNumberPart part = true :=
    fun all digit member => isNumberPart_of_digit (all digit member)
  have point : isNumberPart '.' = true := by decide
  cases number with
  | whole digital ending =>
      exact List.forall_mem_append.mpr ⟨digits digital.2, isNumberPart_of_ending ending⟩
  | pointBehind digital rest ending =>
      exact List.forall_mem_append.mpr ⟨digits digital.2, List.forall_mem_cons.mpr
        ⟨point, List.forall_mem_append.mpr ⟨digits rest, isNumberPart_of_ending ending⟩⟩⟩
  | pointBefore digital ending =>
      exact List.forall_mem_cons.mpr
        ⟨point, List.forall_mem_append.mpr ⟨digits digital.2, isNumberPart_of_ending ending⟩⟩

/-- What follows a number does not lengthen it. -/
theorem IsNumber.numberLength_append {written rest : List Char} (number : IsNumber written)
    (breaks : Breaks rest) : numberLength (written ++ rest) = written.length := by
  have reach := number.length_le rest
  have positive := List.length_pos_iff.mpr number.ne_nil
  have reads : numberLength (written ++ rest) ≠ 0 := by omega
  obtain ⟨front, behind, parts, length, longer⟩ := numberLength_fronts reads
  refine Nat.le_antisymm ?_ reach
  rw [← length]
  rcases List.append_eq_append_iff.mp parts with ⟨more, rfl, rest'⟩ | ⟨more, rfl, -⟩
  · -- Nothing that breaks is a part of a number.
    cases more with
    | nil => simp
    | cons next more =>
        subst rest'
        have part := longer.parts next (by simp)
        have stops : isNumberPart next = false := breaks.stops (by decide) (by decide) next rfl
        rw [stops] at part
        cases part
  · simp

/-- A number is read as a number. -/
theorem Lexes.number {written : List Char} (number : IsNumber written) :
    Lexes written [.number (String.ofList written)] := by
  obtain ⟨first, body, rfl⟩ := List.exists_cons_of_ne_nil number.ne_nil
  have length : ∀ rest, Breaks rest →
      numberLength (first :: (body ++ rest)) = body.length + 1 :=
    fun rest breaks => number.numberLength_append breaks
  have solid : isBlank first = false := by
    have reads : numberLength (first :: (body ++ [])) ≠ 0 := by
      rw [length [] Breaks.nil]
      exact Nat.succ_ne_zero _
    exact isBlank_of_numberLength reads
  refine Lexes.one .number solid (fun rest breaks => ?_) fun _ => rfl
  have same := length rest breaks
  rw [scan_of_numberLength (by omega), same]

theorem exponentText_isExponent {exponent? : Option (Bool × List Char)}
    (plain : ∀ exponent ∈ exponent?, exponent.2 ≠ [] ∧ ∀ digit ∈ exponent.2, digit.isDigit) :
    Numeral.exponentText exponent? = [] ∨ IsExponent (Numeral.exponentText exponent?) := by
  cases exponent? with
  | none => exact .inl rfl
  | some parts =>
      obtain ⟨negative, digits⟩ := parts
      obtain ⟨nonempty, digital⟩ := plain _ rfl
      refine .inr (.signed (.inl rfl) ?_ ⟨nonempty, fun digit member =>
        isDecimalDigit_of_isDigit (digital digit member)⟩)
      cases negative
      · exact .inl rfl
      · exact .inr rfl

theorem IsNumber.numeral (numeral : Numeral) : IsNumber numeral.text := by
  have whole : Digits numeral.whole := ⟨numeral.whole_ne_nil, fun digit member =>
    isDecimalDigit_of_isDigit (numeral.whole_digits digit member)⟩
  have ending := exponentText_isExponent numeral.exponent_digits
  unfold Numeral.text Numeral.fractionText
  split
  · exact .whole whole ending
  · exact .pointBehind whole (fun digit member =>
      isDecimalDigit_of_isDigit (numeral.fraction_digits digit member)) ending

/-- A question mark and digits are read as a parameter. -/
theorem Lexes.mark {digits : List Char} (digital : Digits digits) :
    Lexes ('?' :: digits) [.parameter (String.ofList ('?' :: digits))] := by
  refine Lexes.one .parameter (by decide) (fun rest breaks => ?_) fun _ => rfl
  have run : runLength isDecimalDigit (digits ++ rest) = digits.length := by
    rw [runLength_append digital.2, runLength_of_stops breaks.noDigit, Nat.add_zero]
  have nonempty : digits.length ≠ 0 := by simpa using digital.1
  have solid : isBlank '?' = false := by decide
  have noNumber := @numberLength_eq_zero '?' (by decide) (by decide) (digits ++ rest)
  unfold LexemeClass.scan
  simp only [solid, noNumber, run, nonempty, Bool.false_eq_true, if_false, ne_eq, not_true,
    beq_self_eq_true, if_true]
  rfl

theorem parameter_toList (index : Nat) :
    ("?" ++ integerText index).toList = '?' :: naturalDigits index := by
  rw [String.toList_append, integerText_toList]
  rfl

theorem Lexes.parameter (index : Nat) :
    Lexes ("?" ++ integerText index).toList [.parameter ("?" ++ integerText index)] := by
  have lexes := Lexes.mark ⟨naturalDigits_ne_nil index, fun digit member =>
    isDecimalDigit_of_isDigit (naturalDigits_isDigit index digit member)⟩
  rw [← parameter_toList, String.ofList_toList] at lexes
  exact lexes

/-! ### Quoted texts -/

/-- A character of a text literal as it is written. -/
def escaped (character : Char) : List Char :=
  if character == '\\' || character == '\'' then ['\\', character] else [character]

theorem quotedRest?_escaped (content rest : List Char) :
    quotedRest? '\'' (content.flatMap escaped ++ '\'' :: rest) =
      some ((content.flatMap escaped).length + 1) := by
  induction content with
  | nil => rfl
  | cons character content ih =>
      rw [List.flatMap_cons, List.append_assoc, List.length_append]
      by_cases special : (character == '\\' || character == '\'') = true
      · rw [escaped, if_pos special]
        change (quotedRest? '\'' (content.flatMap escaped ++ '\'' :: rest)).map (· + 2) = _
        rw [ih, Option.map_some]
        congr 1
        simp only [List.length_cons, List.length_nil]
        omega
      · rw [Bool.or_eq_true, beq_iff_eq, beq_iff_eq, not_or] at special
        obtain ⟨noEscape, noQuote⟩ := special
        have single : escaped character = [character] := by
          simp [escaped, noEscape, noQuote]
        have other : (character == '\'') = false := beq_false_of_ne noQuote
        rw [single, List.singleton_append, quotedRest?, other, ih]
        · simp only [Bool.false_eq_true, if_false, Option.map_some, List.length_singleton]
          congr 1
          omega
        · exact fun escape => absurd escape noEscape
        · exact fun _ _ escape => absurd escape noEscape

/-- Escaping a text and replacing the escapes gives it back. -/
theorem unescape_escaped (position : Nat) (content : List Char) :
    unescape position (content.flatMap escaped) = .ok content := by
  induction content generalizing position with
  | nil => rfl
  | cons character content ih =>
      rw [List.flatMap_cons]
      by_cases special : (character == '\\' || character == '\'') = true
      · have meant : escapedCharacter? character = some character := by
          rw [Bool.or_eq_true, beq_iff_eq, beq_iff_eq] at special
          rcases special with rfl | rfl <;> rfl
        rw [escaped, if_pos special]
        change unescape position ('\\' :: character :: content.flatMap escaped) = _
        rw [unescape, meant, ih]
        rfl
      · rw [Bool.or_eq_true, beq_iff_eq, beq_iff_eq, not_or] at special
        obtain ⟨noEscape, noQuote⟩ := special
        have single : escaped character = [character] := by
          simp [escaped, noEscape, noQuote]
        rw [single, List.singleton_append, unescape, ih]
        · rfl
        · exact fun _ _ escape => absurd escape noEscape

/-- A text literal is read as the text. -/
theorem Lexes.quoted (content : String) : Lexes (quoteLiteral content).toList [.text content] := by
  have parts : (quoteLiteral content).toList =
      '\'' :: (content.toList.flatMap escaped ++ ['\'']) := by
    unfold quoteLiteral
    rw [String.toList_ofList]
    rfl
  rw [parts]
  refine Lexes.one .quoted (by decide) (fun rest breaks => ?_) fun position => ?_
  · have body := quotedRest?_escaped content.toList rest
    have solid : isBlank '\'' = false := by decide
    have noNumber := @numberLength_eq_zero '\'' (by decide) (by decide)
      (content.toList.flatMap escaped ++ ['\''] ++ rest)
    rw [List.append_cons] at body
    unfold LexemeClass.scan
    simp only [solid, noNumber, body, Bool.false_eq_true, if_false, ne_eq, not_true,
      beq_self_eq_true, Bool.true_or, if_true, Option.map_some, List.length_append,
      List.length_singleton]
  · have inside : (('\'' :: (content.toList.flatMap escaped ++ ['\''])).drop 1).dropLast =
        content.toList.flatMap escaped := by simp
    unfold LexemeClass.token?
    rw [inside, unescape_escaped]
    change Except.ok (some (Token.text (String.ofList content.toList))) = _
    rw [String.ofList_toList]

end Stencil.Expr
