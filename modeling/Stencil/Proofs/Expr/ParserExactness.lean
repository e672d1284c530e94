/-
Module: Stencil.Proofs.Expr.ParserExactness
Purpose: The parser reads exactly the phrases of the grammar, each as its tree.
Main exports: disjunction_sound, disjunction_complete, parseLexemes_eq_ok_iff, parse_exact
-/
import Mathlib
import Stencil.Proofs.Expr.DigitFaults
import Stencil.Proofs.Expr.Levels
import Stencil.Proofs.Expr.Lexing

namespace Stencil.Expr

open Parse

/-! ### The parser of a level reads linked operands -/

/-- Looking at the lexemes that are left changes nothing. -/
theorem get_bind_const {α : Type} (next : Parse α) :
    ((get : Parse (List Lexeme)) >>= fun _ => next) = next := rfl

/-- Reading at most one link: what there is behind the first operand. -/
theorem linked_one_eq {α β σ : Type} (sign? : Token → Option σ) (operand : Parse α)
    (shape : α × List (σ × α) → β) :
    shape <$> Parse.linked sign? operand (some 1) = (do
      let left ← operand
      let found ← accept? sign?
      found.elim (pure (shape (left, []))) fun sign => do
          let right ← operand
          pure (shape (left, [(sign, right)]))) := by
  simp only [Parse.linked, map_eq_pure_bind, bind_assoc, pure_bind, pairs, Option.getD_some]
  refine bind_congr fun left => ?_
  rw [get_bind_const]
  refine bind_congr fun found => ?_
  cases found with
  | none => rfl
  | some sign => simp only [bind_assoc, pure_bind]; rfl

theorem product_eq (inner : Parse Disjunction) :
    product inner = Product.ofParts <$> Parse.linked productSign? (unary inner) (some 1) := by
  rw [linked_one_eq]
  refine bind_congr fun left => bind_congr fun found => ?_
  cases found <;> rfl

theorem comparison_eq (inner : Parse Disjunction) :
    comparison inner = Comparison.ofParts <$> Parse.linked comparisonSign? (sum inner) (some 1) := by
  rw [linked_one_eq]
  refine bind_congr fun left => bind_congr fun found => ?_
  cases found <;> rfl

theorem equality_eq (inner : Parse Disjunction) :
    equality inner =
      Equality.ofParts <$> Parse.linked equalitySign? (comparison inner) (some 1) := by
  rw [linked_one_eq]
  refine bind_congr fun left => bind_congr fun found => ?_
  cases found <;> rfl

theorem sum_eq (inner : Parse Disjunction) :
    sum inner = Sum.ofParts <$> Parse.linked sumSign? (product inner) none := by
  rw [map_eq_pure_bind]
  rfl

theorem conjunction_eq (inner : Parse Disjunction) :
    conjunction inner = Conjunction.ofParts <$> Parse.linked andSign? (equality inner) none := by
  rw [map_eq_pure_bind]
  rfl

theorem disjunction_eq (depth : Nat) :
    disjunction (depth + 1) =
      Disjunction.ofParts <$> Parse.linked orSign? (conjunction (disjunction depth)) none := by
  rw [map_eq_pure_bind]
  rfl

/-! ### Signs as tokens -/

theorem productSign?_eq_some (token : Token) (sign : ProductOperator) :
    productSign? token = some sign ↔ token = sign.token := by
  unfold productSign?
  split <;> cases sign <;> simp_all [ProductOperator.token]

theorem sumSign?_eq_some (token : Token) (sign : SumOperator) :
    sumSign? token = some sign ↔ token = sign.token := by
  unfold sumSign?
  split <;> cases sign <;> simp_all [SumOperator.token]

theorem comparisonSign?_eq_some (token : Token) (sign : ComparisonOperator) :
    comparisonSign? token = some sign ↔ token = sign.token := by
  unfold comparisonSign?
  split <;> cases sign <;> simp_all [ComparisonOperator.token]

theorem equalitySign?_eq_some (token : Token) (sign : EqualityOperator) :
    equalitySign? token = some sign ↔ token = sign.token := by
  unfold equalitySign?
  split <;> cases sign <;> simp_all [EqualityOperator.token]

theorem andSign?_eq_some (token : Token) (sign : Unit) :
    andSign? token = some sign ↔ token = andToken sign := by
  unfold andSign?
  split <;> simp_all [andToken]

theorem orSign?_eq_some (token : Token) (sign : Unit) :
    orSign? token = some sign ↔ token = orToken sign := by
  unfold orSign?
  split <;> simp_all [orToken]

theorem unarySign?_eq_some (token : Token) (sign : UnaryOperator) :
    unarySign? token = some sign ↔ token = sign.token := by
  unfold unarySign?
  split <;> cases sign <;> simp_all [UnaryOperator.token]

/-! ### Values -/

/-- A number is read as the literal that it denotes if it is in range. -/
theorem numberLiteral_eq_ok_iff (written : String) (literal : Primary) :
    numberLiteral written = .ok literal ↔
      (PrimaryPhrase.number written).InRange ∧ numberTree written = literal := by
  unfold numberLiteral PrimaryPhrase.InRange numberTree integerValue?
  by_cases double : isDoubleLiteral written.toList
  · simp [double]
  · by_cases readable : IsReadable written.toList
    · by_cases large : Word64.greatest < Text.naturalOfDigits written.toList
      · simp [double, readable, large, Int.not_le.mpr large]
      · simp [double, readable, large, Int.not_lt.mp large]
    · simp [double, readable]

/-- The index of a parameter is the number behind its question mark if that can be read. -/
theorem parameterIndex_eq_ok_iff (written : String) (index : Nat) :
    parameterIndex written = .ok index ↔
      (PrimaryPhrase.parameter written).InRange ∧ parameterNumber written = index := by
  unfold parameterIndex PrimaryPhrase.InRange
  by_cases readable : IsReadable (written.toList.drop 1)
  · rw [if_pos readable]
    exact ⟨fun same => ⟨readable, Except.ok.inj same⟩, fun ⟨_, same⟩ => congrArg Except.ok same⟩
  · rw [if_neg readable]
    exact ⟨nofun, fun ⟨fits, _⟩ => absurd fits readable⟩

theorem isLeastMagnitude_number (written : String) :
    isLeastMagnitude (.number written) = true ↔
      (PrimaryPhrase.number written).integer? = some leastMagnitude := by
  unfold isLeastMagnitude PrimaryPhrase.integer? integerValue?
  by_cases double : isDoubleLiteral written.toList
  · simp [double]
  · by_cases readable : IsReadable written.toList
    · simp [double, readable, Word64.least, leastMagnitude]
      omega
    · simp [readable]

theorem isLeastMagnitude_frontToken (phrase : PrimaryPhrase) (after : List Token) :
    isLeastMagnitude (frontToken (phrase.tokens ++ after)) = true ↔
      phrase.integer? = some leastMagnitude := by
  cases phrase with
  | number written => exact isLeastMagnitude_number written
  | _ => simp [PrimaryPhrase.tokens, PrimaryPhrase.integer?, isLeastMagnitude]

theorem unarySign?_frontToken (phrase : PrimaryPhrase) (after : List Token) :
    unarySign? (frontToken (phrase.tokens ++ after)) = none := by
  cases phrase with
  | boolean flag => cases flag <;> rfl
  | _ => rfl

/-- Reading a value starts with a look at the front lexeme. -/
theorem run_primary_group (inner : Parse Disjunction) (position : Nat) (rest : List Lexeme) :
    (primary inner).run (⟨.openParenthesis, position⟩ :: rest) = (do
      let nested ← inner
      if (← current).token == .closeParenthesis then advance else failHere .closingExpected
      pure (Primary.nested nested) : Parse Primary).run rest := rfl

theorem primary_sound {inner : Parse Disjunction} (sound : Sound inner DisjunctionPhrase.phrases) :
    Sound (primary inner) PrimaryPhrase.phrases := by
  intro lexemes result rest read
  cases lexemes with
  | nil => cases read
  | cons lexeme later =>
      obtain ⟨token, position⟩ := lexeme
      cases token with
      | number written =>
          unfold primary at read
          rw [run_bind_of_ok (run_current _)] at read
          simp only [List.headD_cons] at read
          cases literal : numberLiteral written with
          | error fault =>
              rw [literal] at read
              cases read
          | ok value =>
              rw [literal] at read
              cases read
              obtain ⟨fits, tree⟩ := (numberLiteral_eq_ok_iff _ _).mp literal
              exact ⟨.number written, [⟨.number written, position⟩], rfl, rfl, fits, tree⟩
      | text content =>
          cases read
          exact ⟨.text content, [⟨.text content, position⟩], rfl, rfl, trivial, rfl⟩
      | parameter written =>
          unfold primary at read
          rw [run_bind_of_ok (run_current _)] at read
          simp only [List.headD_cons] at read
          cases number : parameterIndex written with
          | error fault =>
              rw [number] at read
              cases read
          | ok index =>
              rw [number] at read
              cases read
              obtain ⟨fits, same⟩ := (parameterIndex_eq_ok_iff _ _).mp number
              exact ⟨.parameter written, [⟨.parameter written, position⟩], rfl, rfl, fits,
                congrArg Primary.parameter same⟩
      | path written =>
          cases read
          exact ⟨.path written, [⟨.path written, position⟩], rfl, rfl, trivial, rfl⟩
      | keyword word =>
          cases word with
          | isTrue =>
              cases read
              exact ⟨.boolean true, [⟨.keyword .isTrue, position⟩], rfl, rfl, trivial, rfl⟩
          | isFalse =>
              cases read
              exact ⟨.boolean false, [⟨.keyword .isFalse, position⟩], rfl, rfl, trivial, rfl⟩
          | null =>
              cases read
              exact ⟨.null, [⟨.keyword .null, position⟩], rfl, rfl, trivial, rfl⟩
          | empty => cases read
      | operator sign => cases read
      | closeParenthesis => cases read
      | endOfText => cases read
      | openParenthesis =>
          rw [run_primary_group] at read
          obtain ⟨nested, between, readInner, readClosing⟩ := run_bind_eq_ok read
          obtain ⟨phrase, front, rfl, tokens, fits, rfl⟩ := sound _ _ _ readInner
          rw [run_bind_of_ok (run_current _)] at readClosing
          cases between with
          | nil => cases readClosing
          | cons closing behind =>
              obtain ⟨token, position'⟩ := closing
              cases token with
              | closeParenthesis =>
                  cases readClosing
                  refine ⟨.group phrase, ⟨.openParenthesis, position⟩ ::
                    (front ++ [⟨.closeParenthesis, position'⟩]), by simp, ?_, fits, rfl⟩
                  simp only [tokensOf_cons, tokensOf_append, tokensOf_nil, tokens]
                  rfl
              | _ => cases readClosing

theorem primary_complete {inner : Parse Disjunction} {bound : Nat}
    (complete : Complete inner DisjunctionPhrase.phrases 1 bound) :
    Complete (primary inner) PrimaryPhrase.phrases 7 (bound + 1) := by
  intro phrase front rest fits short tokens _
  obtain ⟨⟨token, position⟩, later, rfl, here, behind⟩ :
      ∃ lexeme later, front = lexeme :: later ∧
        lexeme.token = frontToken phrase.tokens ∧ tokensOf later = phrase.tokens.tail := by
    cases phrase <;> exact tokensOf_eq_cons_iff.mp tokens
  simp only at here
  subst here
  cases phrase with
  | group content =>
      obtain ⟨within, closing, rfl, content', tail⟩ := tokensOf_eq_append_iff.mp behind
      obtain ⟨⟨token, position'⟩, last, rfl, here, ended⟩ := tokensOf_eq_cons_iff.mp tail
      simp only at here
      subst here
      obtain rfl := List.map_eq_nil_iff.mp ended
      simp only [PrimaryPhrase.phrases, PrimaryPhrase.tokens, List.length_cons,
        List.length_append] at short
      have readInner := complete content within (⟨.closeParenthesis, position'⟩ :: rest) fits
        (by simp only [DisjunctionPhrase.phrases]; omega) content' (by simp [Token.binding])
      rw [List.cons_append, List.append_assoc]
      exact (run_primary_group inner position _).trans (run_bind_of_ok readInner)
  | number written =>
      obtain rfl := List.map_eq_nil_iff.mp behind
      have literal := (numberLiteral_eq_ok_iff written _).mpr ⟨fits, rfl⟩
      unfold primary
      rw [run_bind_of_ok (run_current _)]
      simp only [PrimaryPhrase.tokens, List.cons_append, List.headD_cons, frontToken_cons, literal]
      rfl
  | parameter written =>
      obtain rfl := List.map_eq_nil_iff.mp behind
      have index := (parameterIndex_eq_ok_iff written _).mpr ⟨fits, rfl⟩
      unfold primary
      rw [run_bind_of_ok (run_current _)]
      simp only [PrimaryPhrase.tokens, List.cons_append, List.headD_cons, frontToken_cons, index]
      rfl
  | boolean flag =>
      obtain rfl := List.map_eq_nil_iff.mp behind
      cases flag <;> rfl
  | _ =>
      obtain rfl := List.map_eq_nil_iff.mp behind
      rfl

/-! ### Values with an operator in front -/

theorem unary_sound {inner : Parse Disjunction} (sound : Sound inner DisjunctionPhrase.phrases) :
    Sound (unary inner) UnaryPhrase.phrases := by
  intro lexemes result rest read
  obtain ⟨found, behind, accepted, readOperand⟩ := run_bind_eq_ok read
  rcases accept?_cases rfl accepted with ⟨rfl, rfl, -⟩ | ⟨sign, lexeme, rfl, rfl, here⟩
  · obtain ⟨operand, between, readPrimary, last⟩ := run_bind_eq_ok readOperand
    cases last
    obtain ⟨phrase, front, rfl, tokens, fits, rfl⟩ := primary_sound sound _ _ _ readPrimary
    exact ⟨.plain phrase, front, rfl, tokens, fits, rfl⟩
  · have signToken := (unarySign?_eq_some _ _).mp here
    simp only at readOperand
    rw [run_bind_of_ok (run_current _), token_headD] at readOperand
    by_cases least : sign = .minus ∧ isLeastMagnitude (frontToken (tokensOf behind)) = true
    · obtain ⟨rfl, least⟩ := least
      simp only [least, beq_self_eq_true, Bool.and_self, if_true] at readOperand
      cases readOperand
      -- Only a number can be the least magnitude, so that there is a lexeme to pass.
      cases behind with
      | nil => cases least
      | cons number rest =>
          obtain ⟨token, position⟩ := number
          cases token with
          | number written =>
              have value := (isLeastMagnitude_number written).mp least
              refine ⟨.applied .minus (.number written), [lexeme, ⟨.number written, position⟩], rfl,
                ?_, .inr ⟨rfl, value⟩, if_pos ⟨rfl, value⟩⟩
              rw [tokensOf_cons, signToken]
              rfl
          | _ => cases least
    · have other : (sign == .minus && isLeastMagnitude (frontToken (tokensOf behind))) = false := by
        simpa using least
      simp only [other, Bool.false_eq_true, if_false] at readOperand
      obtain ⟨operand, between, readPrimary, last⟩ := run_bind_eq_ok readOperand
      cases last
      obtain ⟨phrase, front, rfl, tokens, fits, rfl⟩ := primary_sound sound _ _ _ readPrimary
      refine ⟨.applied sign phrase, lexeme :: front, rfl, ?_, .inl fits, if_neg ?_⟩
      · rw [tokensOf_cons, signToken, tokens]
        rfl
      · rintro ⟨rfl, value⟩
        refine least ⟨rfl, ?_⟩
        rw [tokensOf_append, tokens]
        exact (isLeastMagnitude_frontToken phrase _).mpr value

theorem unary_complete {inner : Parse Disjunction} {bound : Nat}
    (complete : Complete inner DisjunctionPhrase.phrases 1 bound) :
    Complete (unary inner) UnaryPhrase.phrases 7 (bound + 1) := by
  intro phrase front rest fits short tokens stops
  cases phrase with
  | plain operand =>
      have absent : unarySign? (frontToken (tokensOf (front ++ rest))) = none := by
        rw [tokensOf_append, tokens]
        exact unarySign?_frontToken operand _
      have readPrimary := primary_complete complete operand front rest fits short tokens stops
      unfold unary
      rw [run_bind_of_ok (run_accept?_of_none absent)]
      simp only
      rw [run_bind_of_ok readPrimary]
      rfl
  | applied sign operand =>
      obtain ⟨lexeme, behind, rfl, here, operandTokens⟩ := tokensOf_eq_cons_iff.mp tokens
      have present := (unarySign?_eq_some _ _).mpr here
      have least : isLeastMagnitude (frontToken (tokensOf (behind ++ rest))) = true ↔
          operand.integer? = some leastMagnitude := by
        rw [tokensOf_append, operandTokens]
        exact isLeastMagnitude_frontToken operand _
      unfold unary
      rw [List.cons_append, run_bind_of_ok (run_accept?_of_some present)]
      simp only
      rw [run_bind_of_ok (run_current _), token_headD]
      by_cases special : sign = .minus ∧ operand.integer? = some leastMagnitude
      · obtain ⟨rfl, value⟩ := special
        simp only [least.mpr value, beq_self_eq_true, Bool.and_self, if_true]
        -- The operand is a number and nothing else.
        cases operand with
        | number written =>
            obtain ⟨number, rest, rfl, -, empty⟩ := tokensOf_eq_cons_iff.mp operandTokens
            obtain rfl := List.map_eq_nil_iff.mp empty
            have tree : UnaryPhrase.phrases.tree (.applied .minus (.number written)) =
                .plain (.integer Word64.least) := if_pos ⟨rfl, value⟩
            rw [tree]
            rfl
        | _ => cases value
      · have other :
            (sign == .minus && isLeastMagnitude (frontToken (tokensOf (behind ++ rest)))) =
              false := by
          rw [Bool.eq_false_iff, Ne, Bool.and_eq_true, beq_iff_eq, least]
          exact special
        have operandFits : operand.InRange := fits.resolve_right special
        have operandShort : operand.tokens.length < bound + 1 := by
          simp only [UnaryPhrase.phrases, UnaryPhrase.tokens, List.length_cons] at short
          omega
        have readPrimary :=
          primary_complete complete operand behind rest operandFits operandShort operandTokens stops
        simp only [other, Bool.false_eq_true, if_false]
        rw [run_bind_of_ok readPrimary]
        have tree : UnaryPhrase.phrases.tree (.applied sign operand) = .applied sign operand.tree :=
          if_neg special
        rw [tree]
        rfl

/-! ### All levels -/

/-- Whatever is read as an expression is a phrase in range. -/
theorem disjunction_sound (depth : Nat) :
    Sound (disjunction depth) DisjunctionPhrase.phrases := by
  induction depth with
  | zero =>
      intro lexemes result rest read
      cases read
  | succ depth ih =>
      have product : Sound (product (disjunction depth)) ProductPhrase.phrases := by
        rw [product_eq]
        exact ProductPhrase.presents.sound
          (linked_sound productSign?_eq_some rfl (unary_sound ih))
      have sum : Sound (sum (disjunction depth)) SumPhrase.phrases := by
        rw [sum_eq]
        exact SumPhrase.presents.sound (linked_sound sumSign?_eq_some rfl product)
      have comparison : Sound (comparison (disjunction depth)) ComparisonPhrase.phrases := by
        rw [comparison_eq]
        exact ComparisonPhrase.presents.sound (linked_sound comparisonSign?_eq_some rfl sum)
      have equality : Sound (equality (disjunction depth)) EqualityPhrase.phrases := by
        rw [equality_eq]
        exact EqualityPhrase.presents.sound (linked_sound equalitySign?_eq_some rfl comparison)
      have conjunction : Sound (conjunction (disjunction depth)) ConjunctionPhrase.phrases := by
        rw [conjunction_eq]
        exact ConjunctionPhrase.presents.sound (linked_sound andSign?_eq_some rfl equality)
      rw [disjunction_eq]
      exact DisjunctionPhrase.presents.sound (linked_sound orSign?_eq_some rfl conjunction)

/-- Every phrase in range is read as its tree, if there are fewer tokens than the nesting may be
deep. -/
theorem disjunction_complete (depth : Nat) :
    Complete (disjunction depth) DisjunctionPhrase.phrases 1 depth := by
  induction depth with
  | zero => exact fun _ _ _ _ short => absurd short (Nat.not_lt_zero _)
  | succ depth ih =>
      have product : Complete (product (disjunction depth)) ProductPhrase.phrases 6 (depth + 1) := by
        rw [product_eq]
        exact ProductPhrase.presents.complete (linked_complete productSign?_eq_some
          ProductOperator.token_binding (unary_complete ih))
      have sum : Complete (sum (disjunction depth)) SumPhrase.phrases 5 (depth + 1) := by
        rw [sum_eq]
        exact SumPhrase.presents.complete (linked_complete sumSign?_eq_some
          SumOperator.token_binding product)
      have comparison :
          Complete (comparison (disjunction depth)) ComparisonPhrase.phrases 4 (depth + 1) := by
        rw [comparison_eq]
        exact ComparisonPhrase.presents.complete (linked_complete comparisonSign?_eq_some
          ComparisonOperator.token_binding sum)
      have equality :
          Complete (equality (disjunction depth)) EqualityPhrase.phrases 3 (depth + 1) := by
        rw [equality_eq]
        exact EqualityPhrase.presents.complete (linked_complete equalitySign?_eq_some
          EqualityOperator.token_binding comparison)
      have conjunction :
          Complete (conjunction (disjunction depth)) ConjunctionPhrase.phrases 2 (depth + 1) := by
        rw [conjunction_eq]
        exact ConjunctionPhrase.presents.complete (linked_complete andSign?_eq_some
          andToken_binding equality)
      rw [disjunction_eq]
      exact DisjunctionPhrase.presents.complete (linked_complete orSign?_eq_some
        orToken_binding conjunction)

/-! ### Whole expressions -/

mutual

theorem PrimaryPhrase.endOfText_notMem : ∀ phrase : PrimaryPhrase, .endOfText ∉ phrase.tokens
  | .group inner => by simp [PrimaryPhrase.tokens, inner.endOfText_notMem]
  | .boolean _ => by simp [PrimaryPhrase.tokens]
  | .number _ => by simp [PrimaryPhrase.tokens]
  | .text _ => by simp [PrimaryPhrase.tokens]
  | .null => by simp [PrimaryPhrase.tokens]
  | .parameter _ => by simp [PrimaryPhrase.tokens]
  | .path _ => by simp [PrimaryPhrase.tokens]

theorem UnaryPhrase.endOfText_notMem : ∀ phrase : UnaryPhrase, .endOfText ∉ phrase.tokens
  | .plain operand => operand.endOfText_notMem
  | .applied sign operand => by
      cases sign <;> simp [UnaryPhrase.tokens, UnaryOperator.token, operand.endOfText_notMem]

theorem ProductPhrase.endOfText_notMem : ∀ phrase : ProductPhrase, .endOfText ∉ phrase.tokens
  | .single factor => factor.endOfText_notMem
  | .pair left sign right => by
      cases sign <;> simp [ProductPhrase.tokens, ProductOperator.token, left.endOfText_notMem,
        right.endOfText_notMem]

theorem SumPhrase.endOfText_notMem : ∀ phrase : SumPhrase, .endOfText ∉ phrase.tokens
  | .mk first rest => by
      simp [SumPhrase.tokens, first.endOfText_notMem, SumPhrase.endOfText_notMem_rest rest]

theorem SumPhrase.endOfText_notMem_rest :
    ∀ rest : List (SumOperator × ProductPhrase), .endOfText ∉ SumPhrase.restTokens rest
  | [] => by simp [SumPhrase.restTokens]
  | (sign, term) :: rest => by
      cases sign <;> simp [SumPhrase.restTokens, SumOperator.token, term.endOfText_notMem,
        SumPhrase.endOfText_notMem_rest rest]

theorem ComparisonPhrase.endOfText_notMem :
    ∀ phrase : ComparisonPhrase, .endOfText ∉ phrase.tokens
  | .single operand => operand.endOfText_notMem
  | .pair left sign right => by
      cases sign <;> simp [ComparisonPhrase.tokens, ComparisonOperator.token,
        left.endOfText_notMem, right.endOfText_notMem]

theorem EqualityPhrase.endOfText_notMem : ∀ phrase : EqualityPhrase, .endOfText ∉ phrase.tokens
  | .single operand => operand.endOfText_notMem
  | .pair left sign right => by
      cases sign <;> simp [EqualityPhrase.tokens, EqualityOperator.token, left.endOfText_notMem,
        right.endOfText_notMem]

theorem ConjunctionPhrase.endOfText_notMem :
    ∀ phrase : ConjunctionPhrase, .endOfText ∉ phrase.tokens
  | .mk first rest => by
      simp [ConjunctionPhrase.tokens, first.endOfText_notMem,
        ConjunctionPhrase.endOfText_notMem_rest rest]

theorem ConjunctionPhrase.endOfText_notMem_rest :
    ∀ rest : List EqualityPhrase, .endOfText ∉ ConjunctionPhrase.restTokens rest
  | [] => by simp [ConjunctionPhrase.restTokens]
  | term :: rest => by
      simp [ConjunctionPhrase.restTokens, term.endOfText_notMem,
        ConjunctionPhrase.endOfText_notMem_rest rest]

/-- The end of the text is no part of a phrase. -/
theorem DisjunctionPhrase.endOfText_notMem :
    ∀ phrase : DisjunctionPhrase, .endOfText ∉ phrase.tokens
  | .mk first rest => by
      simp [DisjunctionPhrase.tokens, first.endOfText_notMem,
        DisjunctionPhrase.endOfText_notMem_rest rest]

theorem DisjunctionPhrase.endOfText_notMem_rest :
    ∀ rest : List ConjunctionPhrase, .endOfText ∉ DisjunctionPhrase.restTokens rest
  | [] => by simp [DisjunctionPhrase.restTokens]
  | term :: rest => by
      simp [DisjunctionPhrase.restTokens, term.endOfText_notMem,
        DisjunctionPhrase.endOfText_notMem_rest rest]

end

theorem PrimaryPhrase.tokens_ne_nil (phrase : PrimaryPhrase) : phrase.tokens ≠ [] := by
  cases phrase <;> simp [PrimaryPhrase.tokens]

theorem UnaryPhrase.tokens_ne_nil (phrase : UnaryPhrase) : phrase.tokens ≠ [] := by
  cases phrase with
  | plain operand => exact operand.tokens_ne_nil
  | applied sign operand => simp [UnaryPhrase.tokens]

theorem linkedTokens_ne_nil {P σ : Type} {sign : σ → Token} {tokens : P → List Token}
    (solid : ∀ phrase, tokens phrase ≠ []) (parts : P × List (σ × P)) :
    linkedTokens sign tokens parts ≠ [] :=
  List.append_ne_nil_of_left_ne_nil (solid parts.1) _

theorem DisjunctionPhrase.tokens_ne_nil (phrase : DisjunctionPhrase) : phrase.tokens ≠ [] := by
  have product : ∀ inner : ProductPhrase, inner.tokens ≠ [] := fun inner => by
    rw [ProductPhrase.tokens_eq]
    exact linkedTokens_ne_nil UnaryPhrase.tokens_ne_nil _
  have sum : ∀ inner : SumPhrase, inner.tokens ≠ [] := fun inner => by
    rw [SumPhrase.tokens_eq]
    exact linkedTokens_ne_nil product _
  have comparison : ∀ inner : ComparisonPhrase, inner.tokens ≠ [] := fun inner => by
    rw [ComparisonPhrase.tokens_eq]
    exact linkedTokens_ne_nil sum _
  have equality : ∀ inner : EqualityPhrase, inner.tokens ≠ [] := fun inner => by
    rw [EqualityPhrase.tokens_eq]
    exact linkedTokens_ne_nil comparison _
  have conjunction : ∀ inner : ConjunctionPhrase, inner.tokens ≠ [] := fun inner => by
    rw [ConjunctionPhrase.tokens_eq]
    exact linkedTokens_ne_nil equality _
  rw [DisjunctionPhrase.tokens_eq]
  exact linkedTokens_ne_nil conjunction _

/-- An expression is read if it is not empty and nothing but the end is left. -/
theorem parseLexemes_eq (lexemes : List Lexeme) :
    parseLexemes lexemes =
      if frontToken (tokensOf lexemes) = .endOfText then .error ⟨.emptyExpression, 0⟩
      else
        ((disjunction lexemes.length).run lexemes).bind fun (root, rest) =>
          if frontToken (tokensOf rest) = .endOfText then .ok root
          else .error ⟨.unexpectedToken (frontToken (tokensOf rest)).content,
            (rest.headD ⟨.endOfText, 0⟩).position⟩ := by
  unfold parseLexemes
  simp only [token_headD]
  by_cases ended : frontToken (tokensOf lexemes) = .endOfText
  · simp only [ended, if_true]
    rfl
  · simp only [ended, if_false]
    rfl

/-- Lexemes without an end stop where the first end stands, however they are divided. -/
theorem front_unique {front front' rest : List Lexeme} {last : Nat}
    (parts : front ++ [⟨.endOfText, last⟩] = front' ++ rest) (inner : .endOfText ∉ tokensOf front)
    (inner' : .endOfText ∉ tokensOf front') (atEnd : frontToken (tokensOf rest) = .endOfText) :
    front' = front := by
  rcases List.append_eq_append_iff.mp parts with ⟨behind, rfl, tail⟩ | ⟨behind, rfl, tail⟩
  · cases behind with
    | nil => simp
    | cons lexeme behind =>
        obtain ⟨rfl, -⟩ := List.cons.inj tail
        simp at inner'
  · cases behind with
    | nil => simp
    | cons lexeme behind =>
        rw [tail] at atEnd
        simp only [List.cons_append, tokensOf_cons, frontToken_cons] at atEnd
        simp [atEnd] at inner

/-- Lexemes that end with their only end are read if they are a phrase in range, and what they are
read as is its tree. -/
theorem parseLexemes_eq_ok_iff {front : List Lexeme} {last : Nat} {root : Disjunction}
    (inner : .endOfText ∉ tokensOf front) :
    parseLexemes (front ++ [⟨.endOfText, last⟩]) = .ok root ↔
      ∃ phrase : DisjunctionPhrase, phrase.tokens = tokensOf front ∧ phrase.InRange ∧
        phrase.tree = root := by
  rw [parseLexemes_eq]
  constructor
  · intro read
    split at read
    · cases read
    · cases state : (disjunction (front ++ [Lexeme.mk .endOfText last]).length).run
          (front ++ [⟨.endOfText, last⟩]) with
      | error fault =>
          rw [state] at read
          cases read
      | ok found =>
          obtain ⟨result, rest⟩ := found
          rw [state] at read
          simp only [Except.bind] at read
          split at read
          · rename_i atEnd
            cases read
            obtain ⟨phrase, front', parts, tokens, fits, rfl⟩ := disjunction_sound _ _ _ _ state
            -- The phrase holds no end, and what follows it starts with one.
            have inner' : .endOfText ∉ tokensOf front' := by
              rw [tokens]
              exact phrase.endOfText_notMem
            have same := front_unique parts inner inner' atEnd
            subst same
            exact ⟨phrase, tokens.symm, fits, rfl⟩
          · cases read
  · rintro ⟨phrase, tokens, fits, rfl⟩
    have unended : frontToken (tokensOf (front ++ [⟨.endOfText, last⟩])) ≠ .endOfText := by
      cases front with
      | nil => exact absurd tokens phrase.tokens_ne_nil
      | cons lexeme rest =>
          intro atEnd
          simp only [List.cons_append, tokensOf_cons, frontToken_cons] at atEnd
          simp [atEnd] at inner
    have short : phrase.tokens.length < (front ++ [Lexeme.mk .endOfText last]).length := by
      rw [tokens, tokensOf, List.length_map, List.length_append, List.length_singleton]
      exact Nat.lt_succ_self _
    have read := disjunction_complete _ phrase front [⟨.endOfText, last⟩] fits short tokens.symm
      (by simp [Token.binding])
    rw [if_neg unended, read]
    rfl

/-- A text that has been cut into lexemes is read as they are. -/
theorem parse_of_tokenize {text : String} {lexemes : List Lexeme}
    (cut : tokenize text = .ok lexemes) :
    Expression.parse text = (parseLexemes lexemes).map fun root => ⟨root, text⟩ := by
  unfold Expression.parse
  rw [cut]
  rfl

/-- The tokens in front of the end of a text are no ends. -/
theorem endOfText_not_mem {front : List Lexeme} (lexical : ∀ lexeme ∈ front, lexeme.token.Lexical) :
    .endOfText ∉ tokensOf front := by
  intro member
  obtain ⟨lexeme, here, same⟩ := List.mem_map.mp member
  have form := lexical lexeme here
  rw [same] at form
  exact form

/-- A text that has been read has been cut into lexemes. -/
theorem exists_tokenize_of_parse {text : String} {expression : Expression}
    (read : Expression.parse text = .ok expression) : ∃ lexemes, tokenize text = .ok lexemes := by
  cases cut : tokenize text with
  | ok lexemes => exact ⟨lexemes, rfl⟩
  | error fault =>
      unfold Expression.parse at read
      rw [cut] at read
      cases read

/-- A text that has been cut into lexemes is read as the tree of a phrase in range with its tokens. -/
theorem parse_eq_ok_iff {text : String} {lexemes : List Lexeme} (cut : tokenize text = .ok lexemes)
    (expression : Expression) :
    Expression.parse text = .ok expression ↔
      ∃ phrase : DisjunctionPhrase, phrase.tokens = (tokensOf lexemes).dropLast ∧
        phrase.InRange ∧ expression = ⟨phrase.tree, text⟩ := by
  obtain ⟨front, last, rfl, lexical⟩ := tokenize_lexical cut
  have inner := endOfText_not_mem lexical
  have tokens : (tokensOf (front ++ [⟨.endOfText, last⟩])).dropLast = tokensOf front := by simp
  rw [tokens, parse_of_tokenize cut]
  constructor
  · intro read
    cases root : parseLexemes (front ++ [⟨.endOfText, last⟩]) with
    | error fault =>
        rw [root] at read
        cases read
    | ok found =>
        rw [root] at read
        cases read
        obtain ⟨phrase, same, fits, rfl⟩ := (parseLexemes_eq_ok_iff inner).mp root
        exact ⟨phrase, same, fits, rfl⟩
  · rintro ⟨phrase, same, fits, rfl⟩
    rw [(parseLexemes_eq_ok_iff inner).mpr ⟨phrase, same, fits, rfl⟩]
    rfl

/-- Once a text is cut into lexemes, it is an expression exactly if their tokens in front of the end
are a phrase of the grammar in which every integer is in range.  Then this phrase is the only one, and
the expression is its tree.  Every other text is refused, with an error of the syntax or because an
integer in it has more digits than can be read. -/
theorem parse_exact {text : String} {lexemes : List Lexeme} (cut : tokenize text = .ok lexemes) :
    (∀ expression : Expression, Expression.parse text = .ok expression ↔
      ∃ phrase : DisjunctionPhrase, phrase.tokens = (tokensOf lexemes).dropLast ∧
        phrase.InRange ∧ expression = ⟨phrase.tree, text⟩) ∧
    (∀ one two : DisjunctionPhrase, one.tokens = (tokensOf lexemes).dropLast →
      two.tokens = (tokensOf lexemes).dropLast → one = two) ∧
    ((¬∃ phrase : DisjunctionPhrase, phrase.tokens = (tokensOf lexemes).dropLast ∧
        phrase.InRange) →
      ∃ error : SyntaxError, Expression.parse text = .error error ∧ error.Founded lexemes) := by
  refine ⟨parse_eq_ok_iff cut, fun one two same same' => ?_, fun noPhrase => ?_⟩
  · exact DisjunctionPhrase.tokens_injective (same.trans same'.symm)
  · have founded := parseLexemes_founded lexemes
    cases root : parseLexemes lexemes with
    | error error =>
        refine ⟨error, ?_, founded.error root⟩
        rw [parse_of_tokenize cut, root]
        rfl
    | ok tree =>
        have read : Expression.parse text = .ok ⟨tree, text⟩ := by
          rw [parse_of_tokenize cut, root]
          rfl
        obtain ⟨phrase, same, fits, -⟩ := (parse_eq_ok_iff cut _).mp read
        exact absurd ⟨phrase, same, fits⟩ noPhrase

/-- The least integer is read as one literal, although it is a phrase of two tokens. -/
theorem parse_exact_least :
    tokenize "-9223372036854775808" =
        .ok [⟨.operator .minus, 0⟩, ⟨.number "9223372036854775808", 1⟩, ⟨.endOfText, 20⟩] ∧
      Expression.parse "-9223372036854775808" =
        .ok ⟨.mk (.mk (.single (.single (.mk (.single (.plain (.integer Word64.least))) []))) []) [],
          "-9223372036854775808"⟩ := by
  have cut : tokenize "-9223372036854775808" =
      .ok [⟨.operator .minus, 0⟩, ⟨.number "9223372036854775808", 1⟩, ⟨.endOfText, 20⟩] := by
    cbv
  have value : (PrimaryPhrase.number "9223372036854775808").integer? = some leastMagnitude :=
    (isLeastMagnitude_number _).mp (by cbv)
  refine ⟨cut, ((parse_exact cut).1 _).mpr ⟨.mk (.mk (.single (.single (.mk (.single
    (.applied .minus (.number "9223372036854775808"))) []))) []) [], rfl, ?_, ?_⟩⟩
  · simp [DisjunctionPhrase.InRange, ConjunctionPhrase.InRange, EqualityPhrase.InRange,
      ComparisonPhrase.InRange, SumPhrase.InRange, ProductPhrase.InRange, UnaryPhrase.InRange,
      value, DisjunctionPhrase.RestInRange, ConjunctionPhrase.RestInRange,
      SumPhrase.RestInRange]
  · simp [DisjunctionPhrase.tree, ConjunctionPhrase.tree, EqualityPhrase.tree, ComparisonPhrase.tree,
      SumPhrase.tree, ProductPhrase.tree, UnaryPhrase.tree, value,
      DisjunctionPhrase.restTrees, ConjunctionPhrase.restTrees, SumPhrase.restTrees]

end Stencil.Expr
