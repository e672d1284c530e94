/-
Module: Stencil.Proofs.Expr.Neutral
Purpose: Levels of precedence without an operator pass on what is below them, and a text with the
  tokens of a known phrase is read as the tree of that phrase.
Main exports: Unary.disjunction, UnaryPhrase.disjunction, Disjunction.evaluate_alone,
  Lexes.parse_eq_ok_iff
-/
import Stencil.Expr.Evaluator
import Stencil.Proofs.Expr.ParserExactness
import Stencil.Proofs.Expr.Relexing

namespace Stencil.Expr

/-! ### Levels without operators are neutral -/

section Tokens

@[simp] theorem UnaryPhrase.tokens_plain (operand : PrimaryPhrase) :
    (UnaryPhrase.plain operand).tokens = operand.tokens := rfl

@[simp] theorem ProductPhrase.tokens_single (factor : UnaryPhrase) :
    (ProductPhrase.single factor).tokens = factor.tokens := rfl

@[simp] theorem SumPhrase.tokens_alone (term : ProductPhrase) :
    (SumPhrase.mk term []).tokens = term.tokens :=
  List.append_nil _

@[simp] theorem ComparisonPhrase.tokens_single (operand : SumPhrase) :
    (ComparisonPhrase.single operand).tokens = operand.tokens := rfl

@[simp] theorem EqualityPhrase.tokens_single (operand : ComparisonPhrase) :
    (EqualityPhrase.single operand).tokens = operand.tokens := rfl

@[simp] theorem ConjunctionPhrase.tokens_alone (term : EqualityPhrase) :
    (ConjunctionPhrase.mk term []).tokens = term.tokens :=
  List.append_nil _

@[simp] theorem DisjunctionPhrase.tokens_alone (term : ConjunctionPhrase) :
    (DisjunctionPhrase.mk term []).tokens = term.tokens :=
  List.append_nil _

end Tokens

section ParameterCounts

@[simp] theorem Product.parameterCount_single (factor : Unary) :
    (Product.single factor).parameterCount = factor.parameterCount := rfl

@[simp] theorem Sum.parameterCount_alone (term : Product) :
    (Sum.mk term []).parameterCount = term.parameterCount :=
  Nat.max_zero _

@[simp] theorem Comparison.parameterCount_single (operand : Sum) :
    (Comparison.single operand).parameterCount = operand.parameterCount := rfl

@[simp] theorem Equality.parameterCount_single (operand : Comparison) :
    (Equality.single operand).parameterCount = operand.parameterCount := rfl

@[simp] theorem Conjunction.parameterCount_alone (term : Equality) :
    (Conjunction.mk term []).parameterCount = term.parameterCount :=
  Nat.max_zero _

@[simp] theorem Disjunction.parameterCount_alone (term : Conjunction) :
    (Disjunction.mk term []).parameterCount = term.parameterCount :=
  Nat.max_zero _

end ParameterCounts

section Evaluations

variable (setting : Setting)

@[simp] theorem Unary.evaluate_plain (operand : Primary) :
    (Unary.plain operand).evaluate setting = operand.evaluate setting := rfl

@[simp] theorem Product.evaluate_single (factor : Unary) :
    (Product.single factor).evaluate setting = factor.evaluate setting := rfl

@[simp] theorem Sum.evaluate_alone (term : Product) :
    (Sum.mk term []).evaluate setting = term.evaluate setting :=
  bind_pure _

@[simp] theorem Comparison.evaluate_single (operand : Sum) :
    (Comparison.single operand).evaluate setting = operand.evaluate setting := rfl

@[simp] theorem Equality.evaluate_single (operand : Comparison) :
    (Equality.single operand).evaluate setting = operand.evaluate setting := rfl

@[simp] theorem Conjunction.evaluate_alone (term : Equality) :
    (Conjunction.mk term []).evaluate setting = term.evaluate setting :=
  bind_pure _

@[simp] theorem Disjunction.evaluate_alone (term : Conjunction) :
    (Disjunction.mk term []).evaluate setting = term.evaluate setting :=
  bind_pure _

end Evaluations

/-! ### An operand alone on all levels -/

namespace Unary

/-- An operand as a product without an operator. -/
@[simp] def product (operand : Unary) : Product := .single operand

@[simp] def sum (operand : Unary) : Sum := .mk operand.product []

@[simp] def comparison (operand : Unary) : Comparison := .single operand.sum

@[simp] def equality (operand : Unary) : Equality := .single operand.comparison

@[simp] def conjunction (operand : Unary) : Conjunction := .mk operand.equality []

/-- An operand as a whole expression, through all levels of precedence. -/
@[simp] def disjunction (operand : Unary) : Disjunction := .mk operand.conjunction []

theorem parameterCount_disjunction (operand : Unary) :
    operand.disjunction.parameterCount = operand.parameterCount := by
  simp

theorem evaluate_disjunction (operand : Unary) (setting : Setting) :
    operand.disjunction.evaluate setting = operand.evaluate setting := by
  simp

end Unary

namespace UnaryPhrase

/-- An operand as a phrase of a product without an operator. -/
@[simp] def product (operand : UnaryPhrase) : ProductPhrase := .single operand

@[simp] def sum (operand : UnaryPhrase) : SumPhrase := .mk operand.product []

@[simp] def comparison (operand : UnaryPhrase) : ComparisonPhrase := .single operand.sum

@[simp] def equality (operand : UnaryPhrase) : EqualityPhrase := .single operand.comparison

@[simp] def conjunction (operand : UnaryPhrase) : ConjunctionPhrase := .mk operand.equality []

/-- An operand as a whole phrase, through all levels of precedence. -/
@[simp] def disjunction (operand : UnaryPhrase) : DisjunctionPhrase := .mk operand.conjunction []

theorem tokens_disjunction (operand : UnaryPhrase) :
    operand.disjunction.tokens = operand.tokens := by
  simp

theorem tree_disjunction (operand : UnaryPhrase) :
    operand.disjunction.tree = operand.tree.disjunction := rfl

theorem inRange_sum {operand : UnaryPhrase} : operand.sum.InRange ↔ operand.InRange :=
  and_iff_left trivial

theorem inRange_disjunction {operand : UnaryPhrase} :
    operand.disjunction.InRange ↔ operand.InRange :=
  (and_iff_left trivial).trans ((and_iff_left trivial).trans inRange_sum)

end UnaryPhrase

/-! ### Reading a known phrase -/

/-- A text with the tokens of a phrase is an expression just if the phrase is in range, and then it
is the tree of the phrase. -/
theorem Lexes.parse_eq_ok_iff {text : String} {phrase : DisjunctionPhrase}
    (lexes : Lexes text.toList phrase.tokens) {expression : Expression} :
    Expression.parse text = .ok expression ↔
      phrase.InRange ∧ expression = ⟨phrase.tree, text⟩ := by
  obtain ⟨lexemes, cut, same⟩ := lexes.tokenize
  rw [Expr.parse_eq_ok_iff cut]
  constructor
  · rintro ⟨other, tokens, fits, rfl⟩
    obtain rfl : other = phrase := DisjunctionPhrase.tokens_injective (tokens.trans same)
    exact ⟨fits, rfl⟩
  · rintro ⟨fits, rfl⟩
    exact ⟨phrase, same.symm, fits, rfl⟩

end Stencil.Expr
