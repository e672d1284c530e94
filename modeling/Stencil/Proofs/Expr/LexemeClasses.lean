/-
Module: Stencil.Proofs.Expr.LexemeClasses
Purpose: The classes of lexemes as sets of texts, and the scanner as the choice of the longest lexeme
  that a text starts with.
Main exports: LexemeClass.Matches, IsLexeme, scan_eq_some_iff, scan_eq_none_iff
-/
import Stencil.Proofs.Expr.Lexing

namespace Stencil.Expr

open Text

/-! ### The classes -/

/-- One or more decimal digits. -/
def Digits (text : List Char) : Prop :=
  text ≠ [] ∧ ∀ digit ∈ text, isDecimalDigit digit = true

/-- An exponent: a mark, at most one sign, and digits. -/
inductive IsExponent : List Char → Prop where
  | plain {mark : Char} {digits : List Char} (marked : mark = 'e' ∨ mark = 'E')
      (digital : Digits digits) : IsExponent (mark :: digits)
  | signed {mark sign : Char} {digits : List Char} (marked : mark = 'e' ∨ mark = 'E')
      (isSign : sign = '+' ∨ sign = '-') (digital : Digits digits) : IsExponent (mark :: sign :: digits)

/-- A number has digits in front of its point, or behind it, or no point; an exponent may follow. -/
inductive IsNumber : List Char → Prop where
  | whole {digits exponent : List Char} (digital : Digits digits)
      (ending : exponent = [] ∨ IsExponent exponent) : IsNumber (digits ++ exponent)
  | pointBehind {digits fraction exponent : List Char} (digital : Digits digits)
      (rest : ∀ digit ∈ fraction, isDecimalDigit digit = true)
      (ending : exponent = [] ∨ IsExponent exponent) :
      IsNumber (digits ++ '.' :: (fraction ++ exponent))
  | pointBefore {fraction exponent : List Char} (digital : Digits fraction)
      (ending : exponent = [] ∨ IsExponent exponent) : IsNumber ('.' :: (fraction ++ exponent))

/-- What may stand between two quotes: other characters, and any character behind a backslash. -/
inductive QuotedBody (quote : Char) : List Char → Prop where
  | nil : QuotedBody quote []
  | plain {character : Char} {rest : List Char} (noQuote : character ≠ quote)
      (noEscape : character ≠ '\\') (later : QuotedBody quote rest) :
      QuotedBody quote (character :: rest)
  | escape {rest : List Char} (character : Char) (later : QuotedBody quote rest) :
      QuotedBody quote ('\\' :: character :: rest)

/-- A segment of a path. -/
def IsSegment (text : List Char) : Prop :=
  ∃ first rest, text = first :: rest ∧ isNameStart first = true ∧
    ∀ part ∈ rest, isNamePart part = true

/-- Segments with points between them. -/
inductive IsPath : List Char → Prop where
  | last {segment : List Char} (name : IsSegment segment) : IsPath segment
  | dot {segment path : List Char} (name : IsSegment segment) (later : IsPath path) :
      IsPath (segment ++ '.' :: path)

/-- The texts of a class of lexemes. -/
def LexemeClass.Matches : LexemeClass → List Char → Prop
  | .blank, text => text ≠ [] ∧ ∀ character ∈ text, isBlank character = true
  | .number, text => IsNumber text
  | .quoted, text =>
      ∃ quote body, (quote = '\'' ∨ quote = '"') ∧ text = quote :: (body ++ [quote]) ∧
        QuotedBody quote body
  | .parameter, text => ∃ digits, text = '?' :: digits ∧ Digits digits
  | .path, text => IsPath text
  | .operator sign, text => text = sign.sign.toList
  | .openParenthesis, text => text = ['(']
  | .closeParenthesis, text => text = [')']

/-- A text is the longest lexeme of any class that it starts with when the rest follows it. -/
structure IsLexeme (kind : LexemeClass) (written rest : List Char) : Prop where
  fits : kind.Matches written
  longest : ∀ (other : LexemeClass) (front : List Char), other.Matches front →
    front <+: written ++ rest → front.length ≤ written.length

/-- A text starts with as many characters as given that have a property together. -/
def Fronts (P : List Char → Prop) (count : Nat) (text : List Char) : Prop :=
  ∃ front rest, text = front ++ rest ∧ front.length = count ∧ P front

/-! ### Characters -/

/-- The codes of blank characters. -/
def blankCodes : List Nat :=
  [9, 10, 11, 12, 13, 28, 29, 30, 31, 32, 133, 160, 5760, 8192, 8193, 8194, 8195, 8196, 8197, 8198,
    8199, 8200, 8201, 8202, 8232, 8233, 8239, 8287, 12288]

theorem mem_blankCodes {character : Char} (blank : isBlank character = true) :
    character.toNat ∈ blankCodes := by
  simp only [isBlank, blankCharacters, RangeSet.contains, RangeSet.containsFrom] at blank
  simp only [blankCodes, List.mem_cons, List.not_mem_nil, or_false]
  simp at blank
  omega

/-- No blank can stand at the front of another lexeme. -/
theorem isBlank_other {character : Char} (blank : isBlank character = true) :
    isWordCharacter character = false ∧ isDecimalDigit character = false := by
  have apart : ∀ code ∈ blankCodes,
      RangeSet.containsFrom false wordCharacters.boundaries code = false ∧
        RangeSet.containsFrom false decimalDigits.boundaries code = false := by
    decide +kernel
  exact apart _ (mem_blankCodes blank)

/-! ### Runs -/

section Runs

variable {test : Char → Bool}

theorem runLength_append {front : List Char} (all : ∀ character ∈ front, test character = true)
    (rest : List Char) :
    runLength test (front ++ rest) = front.length + runLength test rest := by
  rw [runLength, List.takeWhile_append_of_pos all, List.length_append]
  rfl

theorem runLength_of_stops {rest : List Char} (stops : ∀ next ∈ rest.head?, test next = false) :
    runLength test rest = 0 := by
  cases rest with
  | nil => rfl
  | cons next rest =>
      rw [runLength, List.takeWhile_cons_of_neg (by simp [stops next rfl])]
      rfl

/-- A run reaches at least as far as a front of which all characters satisfy the test. -/
theorem length_le_runLength {front : List Char}
    (all : ∀ character ∈ front, test character = true) (rest : List Char) :
    front.length ≤ runLength test (front ++ rest) := by
  rw [runLength_append all rest]
  omega

/-- A text is a run and what stops it. -/
theorem runLength_split (test : Char → Bool) (text : List Char) :
    ∃ front rest, text = front ++ rest ∧ (∀ character ∈ front, test character = true) ∧
      (∀ next ∈ rest.head?, test next = false) ∧ runLength test text = front.length := by
  refine ⟨text.takeWhile test, text.dropWhile test, List.takeWhile_append_dropWhile.symm,
    fun _ member => ?_, fun next member => ?_, rfl⟩
  · exact List.all_eq_true.mp List.all_takeWhile _ member
  · have stops := List.head?_dropWhile_not test text
    rw [Option.mem_def.mp member] at stops
    simpa using stops

end Runs

/-! ### Numbers -/

/-- The mark of an exponent is no digit. -/
theorem mark_noDigit {mark : Char} (marked : mark = 'e' ∨ mark = 'E') :
    isDecimalDigit mark = false := by
  rcases marked with rfl | rfl <;> decide

theorem IsExponent.stops {exponent more : List Char} (written : IsExponent exponent) :
    ∀ next ∈ (exponent ++ more).head?, isDecimalDigit next = false := by
  intro next member
  cases written with
  | plain marked _ | signed marked _ _ =>
      cases member
      exact mark_noDigit marked

theorem IsExponent.length_le {exponent : List Char} (written : IsExponent exponent)
    (more : List Char) : exponent.length ≤ exponentLength (exponent ++ more) := by
  cases written with
  | @plain mark digits marked digital =>
      obtain ⟨first, rest, rfl⟩ := List.exists_cons_of_ne_nil digital.1
      have run := length_le_runLength digital.2 more
      have noSign : (first == '+' || first == '-') = false := by
        have digit := digital.2 first (List.mem_cons_self ..)
        refine Bool.eq_false_iff.mpr fun sign => ?_
        rw [Bool.or_eq_true, beq_iff_eq, beq_iff_eq] at sign
        rcases sign with rfl | rfl <;> revert digit <;> decide
      rw [List.cons_append, List.length_cons] at run
      have isMark : (mark == 'e' || mark == 'E') = true := by simpa using marked
      simp only [List.cons_append, exponentLength, isMark, noSign, if_true, Bool.false_eq_true,
        if_false, List.drop_zero, List.length_cons]
      split <;> omega
  | @signed mark sign digits marked isSign digital =>
      have run := length_le_runLength digital.2 more
      have positive : 0 < digits.length := List.length_pos_iff.mpr digital.1
      have isMark : (mark == 'e' || mark == 'E') = true := by simpa using marked
      have isSign' : (sign == '+' || sign == '-') = true := by simpa using isSign
      simp only [List.cons_append, exponentLength, isMark, isSign', if_true, List.drop_succ_cons,
        List.drop_zero, List.length_cons]
      split <;> omega

theorem exponentLength_fronts (text : List Char) :
    Fronts (fun exponent => exponent = [] ∨ IsExponent exponent) (exponentLength text) text := by
  have nothing : Fronts (fun exponent => exponent = [] ∨ IsExponent exponent) 0 text :=
    ⟨[], text, rfl, rfl, .inl rfl⟩
  cases text with
  | nil => exact nothing
  | cons mark rest =>
      by_cases isMark : (mark == 'e' || mark == 'E') = true
      · have marked : mark = 'e' ∨ mark = 'E' := by simpa using isMark
        cases rest with
        | nil => simpa [exponentLength, isMark, runLength] using nothing
        | cons sign digits =>
            by_cases isSign : (sign == '+' || sign == '-') = true
            · obtain ⟨front, rest, rfl, all, stops, run⟩ := runLength_split isDecimalDigit digits
              simp only [exponentLength, isMark, isSign, if_true, List.drop_succ_cons,
                List.drop_zero, run]
              split
              · exact nothing
              · next nonempty =>
                  refine ⟨mark :: sign :: front, rest, rfl, by simp; omega, .inr ?_⟩
                  exact .signed marked (by simpa using isSign) ⟨by simpa using nonempty, all⟩
            · obtain ⟨front, rest, parts, all, stops, run⟩ :=
                runLength_split isDecimalDigit (sign :: digits)
              simp only [exponentLength, isMark, isSign, if_true, Bool.false_eq_true, if_false,
                List.drop_zero, run]
              split
              · exact nothing
              · next nonempty =>
                  rw [parts]
                  refine ⟨mark :: front, rest, rfl, by simp; omega, .inr ?_⟩
                  exact .plain marked ⟨by simpa using nonempty, all⟩
      · simpa [exponentLength, isMark] using nothing

/-- The length of digits, if any, and of an exponent behind them. -/
def digitsLength (text : List Char) : Nat :=
  runLength isDecimalDigit text +
    exponentLength (text.drop (runLength isDecimalDigit text))

theorem length_le_digitsLength {digits exponent : List Char}
    (all : ∀ digit ∈ digits, isDecimalDigit digit = true)
    (ending : exponent = [] ∨ IsExponent exponent) (more : List Char) :
    (digits ++ exponent).length ≤ digitsLength (digits ++ (exponent ++ more)) := by
  rw [List.length_append]
  rcases ending with rfl | written
  · exact Nat.le_add_right_of_le (length_le_runLength all _)
  · have exact := runLength_append all (exponent ++ more)
    rw [runLength_of_stops written.stops, Nat.add_zero] at exact
    rw [digitsLength, exact, List.drop_left]
    exact Nat.add_le_add_left (written.length_le more) _

theorem digitsLength_split (text : List Char) :
    ∃ digits exponent rest, text = digits ++ (exponent ++ rest) ∧
      (∀ digit ∈ digits, isDecimalDigit digit = true) ∧
      (exponent = [] ∨ IsExponent exponent) ∧ runLength isDecimalDigit text = digits.length ∧
      digitsLength text = digits.length + exponent.length := by
  obtain ⟨digits, behind, rfl, all, -, run⟩ := runLength_split isDecimalDigit text
  obtain ⟨exponent, rest, rfl, length, ending⟩ := exponentLength_fronts behind
  refine ⟨digits, exponent, rest, rfl, all, ending, run, ?_⟩
  rw [digitsLength, run, List.drop_left, length]

theorem exists_eq_point_cons {rest : List Char} (point : ¬ ∀ next ∈ rest.head?, next ≠ '.') :
    ∃ tail, rest = '.' :: tail := by
  cases rest with
  | nil => exact absurd (by rintro _ ⟨⟩) point
  | cons next tail => exact ⟨tail, by simpa using point⟩

/-- The length of digits with a point behind them, if there are digits on one side of it. -/
theorem numberLength_point {digits : List Char}
    (all : ∀ digit ∈ digits, isDecimalDigit digit = true) (rest : List Char) :
    numberLength (digits ++ '.' :: rest) =
      if digits = [] ∧ runLength isDecimalDigit rest = 0 then 0
      else digits.length + 1 + digitsLength rest := by
  have noDigit : isDecimalDigit '.' = false := by decide
  have whole : runLength isDecimalDigit (digits ++ '.' :: rest) = digits.length := by
    rw [runLength_append all _, runLength_of_stops (by rintro _ ⟨⟩; exact noDigit), Nat.add_zero]
  unfold numberLength
  simp only [whole, List.drop_left, List.length_eq_zero_iff, Bool.and_eq_true, decide_eq_true_eq,
    digitsLength]
  split <;> omega

/-- The length of digits with no point behind them. -/
theorem numberLength_whole {digits rest : List Char}
    (all : ∀ digit ∈ digits, isDecimalDigit digit = true)
    (stops : ∀ next ∈ rest.head?, isDecimalDigit next = false)
    (noPoint : ∀ next ∈ rest.head?, next ≠ '.') :
    numberLength (digits ++ rest) = if digits = [] then 0 else digitsLength (digits ++ rest) := by
  have whole : runLength isDecimalDigit (digits ++ rest) = digits.length := by
    rw [runLength_append all _, runLength_of_stops stops, Nat.add_zero]
  unfold numberLength digitsLength
  simp only [whole, List.drop_left, List.length_eq_zero_iff]
  cases rest with
  | nil => rfl
  | cons next tail =>
      split
      · next behind point =>
          cases point
          exact absurd rfl (noPoint '.' rfl)
      · rfl

theorem IsNumber.length_le {written : List Char} (number : IsNumber written) (more : List Char) :
    written.length ≤ numberLength (written ++ more) := by
  cases number with
  | @whole digits exponent digital ending =>
      have digitsFit := length_le_digitsLength digital.2 ending more
      have positive : 0 < digits.length := List.length_pos_iff.mpr digital.1
      rw [List.append_assoc]
      obtain ⟨run, rest, parts, all, stops, length⟩ :=
        runLength_split isDecimalDigit (digits ++ (exponent ++ more))
      have reach := length_le_runLength digital.2 (exponent ++ more)
      have someRun : run ≠ [] := by
        rintro rfl
        simp only [List.length_nil] at length
        omega
      by_cases point : ∀ next ∈ rest.head?, next ≠ '.'
      · rwa [parts, numberLength_whole all stops point, if_neg someRun, ← parts]
      · -- Behind the run stands a point, so no exponent does.
        obtain ⟨tail, rfl⟩ := exists_eq_point_cons point
        have noExponent : exponent = [] := by
          refine ending.resolve_right fun written => ?_
          have exact := runLength_append digital.2 (exponent ++ more)
          rw [runLength_of_stops written.stops, Nat.add_zero, length] at exact
          have same := (List.append_inj parts exact.symm).2
          cases written <;> simp_all
        subst noExponent
        rw [parts, numberLength_point all, if_neg fun both => someRun both.1, List.append_nil]
        omega
  | @pointBehind digits fraction exponent digital all ending =>
      have fits := length_le_digitsLength all ending more
      have assoc : digits ++ '.' :: (fraction ++ exponent) ++ more =
          digits ++ '.' :: (fraction ++ (exponent ++ more)) := by simp
      rw [assoc, numberLength_point digital.2, if_neg fun both => digital.1 both.1, List.length_append,
        List.length_cons]
      omega
  | @pointBefore fraction exponent digital ending =>
      have fits := length_le_digitsLength digital.2 ending more
      have reach := length_le_runLength digital.2 (exponent ++ more)
      have positive : 0 < fraction.length := List.length_pos_iff.mpr digital.1
      have assoc : '.' :: (fraction ++ exponent) ++ more =
          [] ++ '.' :: (fraction ++ (exponent ++ more)) := by simp
      rw [assoc, numberLength_point (by simp), if_neg (by omega), List.length_cons,
        List.length_nil]
      omega

theorem IsNumber.ne_nil {written : List Char} (number : IsNumber written) : written ≠ [] := by
  cases number with
  | whole digital _ => exact fun empty => digital.1 (List.append_eq_nil_iff.mp empty).1
  | pointBehind | pointBefore => simp

theorem numberLength_fronts {text : List Char} (number : numberLength text ≠ 0) :
    Fronts IsNumber (numberLength text) text := by
  obtain ⟨digits, behind, rfl, all, stops, run⟩ := runLength_split isDecimalDigit text
  by_cases point : ∀ next ∈ behind.head?, next ≠ '.'
  · rw [numberLength_whole all stops point] at number ⊢
    obtain ⟨digits', exponent, rest, parts, all', ending, run', length⟩ :=
      digitsLength_split (digits ++ behind)
    split at number
    · exact absurd rfl number
    · next positive =>
        rw [if_neg positive, length, parts]
        refine ⟨digits' ++ exponent, rest, by rw [List.append_assoc], List.length_append, ?_⟩
        refine .whole ⟨?_, all'⟩ ending
        rintro rfl
        exact positive (List.length_eq_zero_iff.mp (run.symm.trans run'))
  · obtain ⟨tail, rfl⟩ := exists_eq_point_cons point
    rw [numberLength_point all] at number ⊢
    obtain ⟨fraction, exponent, rest, rfl, all', ending, run', length⟩ := digitsLength_split tail
    split at number
    · exact absurd rfl number
    · next positive =>
        rw [if_neg positive, length]
        refine ⟨digits ++ '.' :: (fraction ++ exponent), rest, by simp, ?_, ?_⟩
        · simp only [List.length_append, List.length_cons]
          omega
        · by_cases bare : digits = []
          · subst bare
            refine .pointBefore ⟨?_, all'⟩ ending
            rintro rfl
            exact positive ⟨rfl, run'⟩
          · exact .pointBehind ⟨bare, all⟩ all' ending

/-! ### Quoted texts, paths and operators -/

/-- A quote closes at the first place where a body can end. -/
theorem quotedRest?_eq_some_iff {quote : Char} (noEscape : quote ≠ '\\') {text : List Char}
    {length : Nat} :
    quotedRest? quote text = some length ↔
      ∃ body rest, text = body ++ quote :: rest ∧ QuotedBody quote body ∧
        length = body.length + 1 := by
  constructor
  · intro found
    fun_induction quotedRest? quote text generalizing length with
    | case1 | case2 => cases found
    | case3 character rest ih =>
        obtain ⟨inner, inside, rfl⟩ := Option.map_eq_some_iff.mp found
        obtain ⟨body, rest', rfl, isBody, rfl⟩ := ih inside
        exact ⟨'\\' :: character :: body, rest', rfl, .escape character isBody, rfl⟩
    | case4 character rest noEnd noPair close =>
        cases found
        obtain rfl := beq_iff_eq.mp close
        exact ⟨[], rest, rfl, .nil, rfl⟩
    | case5 character rest noEnd noPair noClose ih =>
        obtain ⟨inner, inside, rfl⟩ := Option.map_eq_some_iff.mp found
        obtain ⟨body, rest', rfl, isBody, rfl⟩ := ih inside
        have plain : character ≠ '\\' := by
          rintro rfl
          cases body with
          | nil => exact noPair _ _ rfl rfl
          | cons next body => exact noPair _ _ rfl rfl
        exact ⟨character :: body, rest', rfl, .plain (by simpa using noClose) plain isBody, rfl⟩
  · rintro ⟨body, rest, rfl, isBody, rfl⟩
    induction isBody with
    | nil =>
        rw [List.nil_append, quotedRest?]
        · simp
        · exact fun escape => absurd escape noEscape
        · exact fun _ _ escape => absurd escape noEscape
    | @plain character later noQuote plain _ ih =>
        rw [List.cons_append, quotedRest?, if_neg (by simpa using noQuote), ih]
        · rfl
        · exact fun escape => absurd escape plain
        · exact fun _ _ escape => absurd escape plain
    | @escape later character _ ih =>
        rw [List.cons_append, List.cons_append, quotedRest?, ih]
        rfl

theorem pathRest_append_of_parts {parts : List Char}
    (all : ∀ part ∈ parts, isNamePart part = true) (rest : List Char) :
    pathRest (parts ++ rest) = parts.length + pathRest rest := by
  induction parts with
  | nil => exact (Nat.zero_add _).symm
  | cons part parts ih =>
      rw [List.cons_append, pathRest_of_part (all part (List.mem_cons_self ..)),
        ih fun later member => all later (List.mem_cons_of_mem _ member), List.length_cons]
      omega

/-- A path at the front of a text is no longer than the one that is cut from it. -/
theorem IsPath.length_le {written : List Char} (path : IsPath written) :
    ∃ first body, written = first :: body ∧ isNameStart first = true ∧
      ∀ more, body.length ≤ pathRest (body ++ more) := by
  induction path with
  | last name =>
      obtain ⟨first, rest, rfl, start, all⟩ := name
      refine ⟨first, rest, rfl, start, fun more => ?_⟩
      rw [pathRest_append_of_parts all]
      omega
  | dot name _ ih =>
      obtain ⟨first, rest, rfl, start, all⟩ := name
      obtain ⟨next, body, rfl, start', fits⟩ := ih
      refine ⟨first, rest ++ '.' :: next :: body, rfl, start, fun more => ?_⟩
      have behind := fits more
      have assoc : rest ++ '.' :: next :: body ++ more =
          rest ++ '.' :: next :: (body ++ more) := by simp
      rw [assoc, pathRest_append_of_parts all, pathRest, if_pos start', List.length_append,
        List.length_cons, List.length_cons]
      omega

/-- What is cut behind a segment goes on as a path. -/
theorem pathRest_split {segment : List Char} (name : IsSegment segment) (text : List Char) :
    ∃ front rest, text = front ++ rest ∧ front.length = pathRest text ∧
      IsPath (segment ++ front) := by
  fun_induction pathRest text generalizing segment with
  | case1 character rest start ih =>
      obtain ⟨front, rest', rfl, length, path⟩ :=
        @ih [character] ⟨character, [], rfl, start, by simp⟩
      exact ⟨'.' :: character :: front, rest', rfl, by simp [length]; omega, .dot name path⟩
  | case2 character rest other =>
      exact ⟨[], '.' :: character :: rest, rfl, rfl, by simpa using .last name⟩
  | case3 character rest noPoint part ih =>
      obtain ⟨first, body, rfl, start, all⟩ := name
      have longer : IsSegment (first :: body ++ [character]) := by
        refine ⟨first, body ++ [character], rfl, start, fun later member => ?_⟩
        rcases List.mem_append.mp member with inside | last
        · exact all later inside
        · obtain rfl := List.mem_singleton.mp last
          exact part
      obtain ⟨front, rest', rfl, length, path⟩ := ih longer
      refine ⟨character :: front, rest', rfl, by simp [length]; omega, ?_⟩
      rwa [List.append_assoc, List.singleton_append] at path
  | case4 character rest noPoint noPart =>
      exact ⟨[], character :: rest, rfl, rfl, by simpa using .last name⟩
  | case5 => exact ⟨[], [], rfl, rfl, by simpa using .last name⟩

theorem leadingOperator?_sound {text : List Char} {sign : Operator} {length : Nat}
    (found : leadingOperator? text = some (sign, length)) :
    ∃ rest, text = sign.sign.toList ++ rest ∧ sign.sign.toList.length = length := by
  unfold leadingOperator? at found
  split at found <;> cases found <;> exact ⟨_, rfl, rfl⟩

/-- No operator that a text starts with is longer than the one that is cut from it. -/
theorem leadingOperator?_complete (sign : Operator) (rest : List Char) :
    ∃ sign' length, leadingOperator? (sign.sign.toList ++ rest) = some (sign', length) ∧
      sign.sign.toList.length ≤ length ∧ (length = sign.sign.toList.length → sign' = sign) := by
  cases sign with
  | or | and | equal | unequal | greaterOrEqual | lessOrEqual | plus | minus | times | divide
  | modulo => exact ⟨_, _, rfl, Nat.le_refl _, fun _ => rfl⟩
  | greater | less | not =>
      cases rest with
      | nil => exact ⟨_, _, rfl, Nat.le_refl _, fun _ => rfl⟩
      | cons next rest =>
          by_cases longer : next = '='
          · subst longer
            exact ⟨_, _, rfl, Nat.le_succ _, fun same => absurd same (by decide)⟩
          · refine ⟨_, 1, ?_, Nat.le_refl _, fun _ => rfl⟩
            simp [Operator.sign, leadingOperator?, longer]

/-! ### The scanner -/

/-- What is cut from a text belongs to its class. -/
theorem scan_fronts {first : Char} {rest : List Char} {kind : LexemeClass} {length : Nat}
    (scanned : LexemeClass.scan first rest = some (kind, length)) :
    Fronts kind.Matches length (first :: rest) := by
  simp only [LexemeClass.scan] at scanned
  split at scanned
  · next blank =>
      cases scanned
      obtain ⟨front, rest', parts, all, stops, run⟩ := runLength_split isBlank (first :: rest)
      refine ⟨front, rest', parts, run.symm, ?_, all⟩
      rintro rfl
      obtain rfl : first :: rest = rest' := parts
      rw [stops first rfl] at blank
      cases blank
  split at scanned
  · next number =>
      cases scanned
      exact numberLength_fronts number
  split at scanned
  · next isQuote =>
      have marks : first = '\'' ∨ first = '"' := by simpa using isQuote
      have noEscape : first ≠ '\\' := by rcases marks with rfl | rfl <;> decide
      obtain ⟨inner, found, same⟩ := Option.map_eq_some_iff.mp scanned
      cases same
      obtain ⟨body, rest', rfl, isBody, rfl⟩ := (quotedRest?_eq_some_iff noEscape).mp found
      exact ⟨first :: (body ++ [first]), rest', by simp, by simp, first, body, marks, rfl, isBody⟩
  split at scanned
  · next isMark =>
      obtain rfl := beq_iff_eq.mp isMark
      obtain ⟨digits, rest', rfl, all, -, run⟩ := runLength_split isDecimalDigit rest
      rw [run] at scanned
      split at scanned
      · cases scanned
      · next nonempty =>
          cases scanned
          exact ⟨'?' :: digits, rest', rfl, rfl, digits, rfl, by simpa using nonempty, all⟩
  split at scanned
  · next start =>
      cases scanned
      obtain ⟨front, rest', rfl, length, path⟩ :=
        @pathRest_split [first] ⟨first, [], rfl, start, by simp⟩ rest
      exact ⟨first :: front, rest', rfl, by simp [length], path⟩
  split at scanned
  · next isMark =>
      cases scanned
      obtain rfl := beq_iff_eq.mp isMark
      exact ⟨['('], rest, rfl, rfl, rfl⟩
  split at scanned
  · next isMark =>
      cases scanned
      obtain rfl := beq_iff_eq.mp isMark
      exact ⟨[')'], rest, rfl, rfl, rfl⟩
  obtain ⟨⟨sign, inner⟩, found, same⟩ := Option.map_eq_some_iff.mp scanned
  cases same
  obtain ⟨rest', parts, same⟩ := leadingOperator?_sound found
  exact ⟨sign.sign.toList, rest', parts, same, rfl⟩

/-- No name starts with a blank. -/
theorem isBlank_of_isNameStart {first : Char} (start : isNameStart first = true) :
    isBlank first = false := by
  refine Bool.eq_false_iff.mpr fun blank => ?_
  obtain ⟨noWord, -⟩ := isBlank_other blank
  rw [isNameStart, noWord, Bool.false_and, Bool.or_false, beq_iff_eq] at start
  subst start
  revert blank
  decide

/-- The start of a name is the start of a path and of nothing else. -/
theorem scan_of_isNameStart {first : Char} (start : isNameStart first = true) (rest : List Char) :
    LexemeClass.scan first rest = some (.path, pathRest rest + 1) := by
  have solid := isBlank_of_isNameStart start
  have other : ∀ mark ∈ ['.', '\'', '"', '?'], first ≠ mark := by
    have apart : ['.', '\'', '"', '?'].all (fun mark => !isNameStart mark) = true := by decide
    rintro mark member rfl
    have noStart := List.all_eq_true.mp apart first member
    rw [start] at noStart
    cases noStart
  have noNumber := numberLength_eq_zero (isDecimalDigit_of_isNameStart start)
    (other '.' (by simp)) rest
  have noQuote : (first == '\'' || first == '"') = false := by
    rw [beq_false_of_ne (other '\'' (by simp)), beq_false_of_ne (other '"' (by simp))]
    rfl
  have noParameter : (first == '?') = false := beq_false_of_ne (other '?' (by simp))
  unfold LexemeClass.scan
  simp only [solid, noNumber, noQuote, noParameter, start, Bool.false_eq_true, if_false, if_true,
    ne_eq, not_true]

/-- No number starts with a blank. -/
theorem isBlank_of_numberLength {first : Char} {rest : List Char}
    (number : numberLength (first :: rest) ≠ 0) : isBlank first = false := by
  refine Bool.eq_false_iff.mpr fun blank => ?_
  rcases numberLength_ne_zero number with digit | rfl
  · rw [(isBlank_other blank).2] at digit
    cases digit
  · revert blank
    decide

theorem scan_of_numberLength {first : Char} {rest : List Char}
    (number : numberLength (first :: rest) ≠ 0) :
    LexemeClass.scan first rest = some (.number, numberLength (first :: rest)) := by
  have solid := isBlank_of_numberLength number
  unfold LexemeClass.scan
  simp only [solid, number, Bool.false_eq_true, if_false, ne_eq, not_false_eq_true, if_true]

/-- Where a class of lexemes fits the front of a text, the scanner cuts at least as much, and as
much only for this class. -/
theorem scan_reaches {kind : LexemeClass} {front : List Char} (fits : kind.Matches front)
    {first : Char} {rest more : List Char} (parts : first :: rest = front ++ more) :
    ∃ kind' length, LexemeClass.scan first rest = some (kind', length) ∧
      front.length ≤ length ∧ (length = front.length → kind' = kind) := by
  cases kind with
  | blank =>
      obtain ⟨nonempty, all⟩ := fits
      obtain ⟨next, tail, rfl⟩ := List.exists_cons_of_ne_nil nonempty
      cases parts
      refine ⟨.blank, runLength isBlank (first :: (tail ++ more)), ?_, ?_, fun _ => rfl⟩
      · rw [LexemeClass.scan, if_pos (all first (List.mem_cons_self ..))]
        rfl
      · exact @length_le_runLength isBlank (first :: tail) all more
  | number =>
      have reach := IsNumber.length_le fits more
      rw [← parts] at reach
      have positive := List.length_pos_iff.mpr (IsNumber.ne_nil fits)
      exact ⟨_, _, scan_of_numberLength (by omega), reach, fun _ => rfl⟩
  | quoted =>
      obtain ⟨quote, body, marks, rfl, isBody⟩ := fits
      cases parts
      have noEscape : first ≠ '\\' := by rcases marks with rfl | rfl <;> decide
      have scanned : LexemeClass.scan first (body ++ [first] ++ more) =
          (quotedRest? first (body ++ [first] ++ more)).map
            fun length => (.quoted, length + 1) := by
        rcases marks with rfl | rfl <;> rfl
      have found : quotedRest? first (body ++ [first] ++ more) = some (body.length + 1) :=
        (quotedRest?_eq_some_iff noEscape).mpr ⟨body, more, by simp, isBody, rfl⟩
      rw [found] at scanned
      exact ⟨_, _, scanned, by simp, fun _ => rfl⟩
  | parameter =>
      obtain ⟨digits, rfl, nonempty, all⟩ := fits
      cases parts
      have reach := length_le_runLength all more
      have positive := List.length_pos_iff.mpr nonempty
      have scanned : LexemeClass.scan '?' (digits ++ more) =
          if runLength isDecimalDigit (digits ++ more) = 0 then none
          else some (.parameter, runLength isDecimalDigit (digits ++ more) + 1) := rfl
      rw [if_neg (by omega)] at scanned
      exact ⟨_, _, scanned, Nat.succ_le_succ reach, fun _ => rfl⟩
  | path =>
      obtain ⟨next, body, rfl, start, reach⟩ := IsPath.length_le fits
      cases parts
      exact ⟨_, _, scan_of_isNameStart start _, Nat.succ_le_succ (reach more), fun _ => rfl⟩
  | operator sign =>
      obtain rfl : front = sign.sign.toList := fits
      obtain ⟨sign', length, found, reach, exact⟩ := leadingOperator?_complete sign more
      rw [← parts] at found
      have scanned : LexemeClass.scan first rest =
          (leadingOperator? (first :: rest)).map fun found => (.operator found.1, found.2) := by
        cases sign <;> cases parts <;> rfl
      rw [found] at scanned
      exact ⟨_, _, scanned, reach, fun same => congrArg _ (exact same)⟩
  | openParenthesis | closeParenthesis =>
      obtain rfl : front = _ := fits
      cases parts
      exact ⟨_, _, rfl, Nat.le_refl _, fun _ => rfl⟩

/-- No lexeme is empty. -/
theorem LexemeClass.Matches.ne_nil {kind : LexemeClass} {written : List Char}
    (fits : kind.Matches written) : written ≠ [] := by
  cases kind with
  | blank => exact fits.1
  | number => exact IsNumber.ne_nil fits
  | quoted =>
      obtain ⟨quote, body, -, rfl, -⟩ := fits
      exact List.cons_ne_nil _ _
  | parameter =>
      obtain ⟨digits, rfl, -⟩ := fits
      exact List.cons_ne_nil _ _
  | path =>
      obtain ⟨first, body, rfl, -⟩ := IsPath.length_le fits
      exact List.cons_ne_nil _ _
  | operator sign =>
      obtain rfl : written = sign.sign.toList := fits
      cases sign <;> decide
  | openParenthesis | closeParenthesis =>
      obtain rfl : written = _ := fits
      exact List.cons_ne_nil _ _

/-- The scanner cuts the longest lexeme that a text starts with. -/
theorem scan_eq_some_iff {first : Char} {rest : List Char} {kind : LexemeClass} {length : Nat} :
    LexemeClass.scan first rest = some (kind, length) ↔
      ∃ written behind, first :: rest = written ++ behind ∧ written.length = length ∧
        IsLexeme kind written behind := by
  constructor
  · intro scanned
    obtain ⟨written, behind, parts, same, fits⟩ := scan_fronts scanned
    refine ⟨written, behind, parts, same, fits, fun other front fits' starts => ?_⟩
    obtain ⟨more, parts'⟩ := starts
    obtain ⟨kind', length', scanned', reach, -⟩ := scan_reaches fits' (parts.trans parts'.symm)
    rw [scanned] at scanned'
    cases scanned'
    omega
  · rintro ⟨written, behind, parts, rfl, fits, longest⟩
    obtain ⟨kind', length, scanned, reach, exact⟩ := scan_reaches fits parts
    obtain ⟨front, more, parts', same, fits'⟩ := scan_fronts scanned
    have short := longest kind' front fits' ⟨more, parts'.symm.trans parts⟩
    obtain rfl : length = written.length := by omega
    rw [scanned, exact rfl]

/-- The scanner cuts nothing exactly where no lexeme starts. -/
theorem scan_eq_none_iff {first : Char} {rest : List Char} :
    LexemeClass.scan first rest = none ↔
      ∀ (kind : LexemeClass) (front : List Char), kind.Matches front →
        ¬ front <+: first :: rest := by
  constructor
  · rintro unread kind front fits ⟨more, parts⟩
    obtain ⟨kind', length, scanned, -, -⟩ := scan_reaches fits parts.symm
    rw [unread] at scanned
    cases scanned
  · intro nothing
    cases scanned : LexemeClass.scan first rest with
    | none => rfl
    | some found =>
        obtain ⟨front, more, parts, -, fits⟩ := scan_fronts scanned
        exact absurd ⟨more, parts.symm⟩ (nothing _ front fits)

end Stencil.Expr
