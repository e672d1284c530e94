/-
Module: Stencil.Proofs.Expr.Readable
Purpose: What the values of an expression look like that has been read from a text.
Main exports: Primary.Readable, Unary.Readable, Disjunction.Every.mono, parse_readable
-/
import Stencil.Proofs.Expr.Operands
import Stencil.Proofs.Expr.ParserExactness
import Stencil.Proofs.Number.DigitLimit
import Stencil.Proofs.Number.Magnitude

namespace Stencil.Expr

open Text

/-! ### Properties of all operands -/

mutual

theorem Primary.Every.mono {P Q : Unary → Prop} (implies : ∀ unary, P unary → Q unary) :
    ∀ primary : Primary, primary.Every P → primary.Every Q
  | .nested inner, every => Disjunction.Every.mono implies inner every
  | .boolean _, _ | .integer _, _ | .double _, _ | .text _, _ | .parameter _, _ | .path _, _
  | .null, _ => trivial

theorem Unary.Every.mono {P Q : Unary → Prop} (implies : ∀ unary, P unary → Q unary) :
    ∀ unary : Unary, unary.Every P → unary.Every Q
  | .plain operand, every => ⟨implies _ every.1, Primary.Every.mono implies operand every.2⟩
  | .applied _ operand, every => ⟨implies _ every.1, Primary.Every.mono implies operand every.2⟩

theorem Product.Every.mono {P Q : Unary → Prop} (implies : ∀ unary, P unary → Q unary) :
    ∀ product : Product, product.Every P → product.Every Q
  | .single factor, every => Unary.Every.mono implies factor every
  | .pair left _ right, every =>
      ⟨Unary.Every.mono implies left every.1, Unary.Every.mono implies right every.2⟩

theorem Sum.Every.mono {P Q : Unary → Prop} (implies : ∀ unary, P unary → Q unary) :
    ∀ sum : Sum, sum.Every P → sum.Every Q
  | .mk first rest, every =>
      ⟨Product.Every.mono implies first every.1, Sum.RestEvery.mono implies rest every.2⟩

theorem Sum.RestEvery.mono {P Q : Unary → Prop} (implies : ∀ unary, P unary → Q unary) :
    ∀ rest : List (SumOperator × Product), Sum.RestEvery P rest → Sum.RestEvery Q rest
  | [], _ => trivial
  | (_, term) :: rest, every =>
      ⟨Product.Every.mono implies term every.1, Sum.RestEvery.mono implies rest every.2⟩

theorem Comparison.Every.mono {P Q : Unary → Prop} (implies : ∀ unary, P unary → Q unary) :
    ∀ comparison : Comparison, comparison.Every P → comparison.Every Q
  | .single operand, every => Sum.Every.mono implies operand every
  | .pair left _ right, every =>
      ⟨Sum.Every.mono implies left every.1, Sum.Every.mono implies right every.2⟩

theorem Equality.Every.mono {P Q : Unary → Prop} (implies : ∀ unary, P unary → Q unary) :
    ∀ equality : Equality, equality.Every P → equality.Every Q
  | .single operand, every => Comparison.Every.mono implies operand every
  | .pair left _ right, every =>
      ⟨Comparison.Every.mono implies left every.1, Comparison.Every.mono implies right every.2⟩

theorem Conjunction.Every.mono {P Q : Unary → Prop} (implies : ∀ unary, P unary → Q unary) :
    ∀ conjunction : Conjunction, conjunction.Every P → conjunction.Every Q
  | .mk first rest, every =>
      ⟨Equality.Every.mono implies first every.1, Conjunction.RestEvery.mono implies rest every.2⟩

theorem Conjunction.RestEvery.mono {P Q : Unary → Prop} (implies : ∀ unary, P unary → Q unary) :
    ∀ rest : List Equality, Conjunction.RestEvery P rest → Conjunction.RestEvery Q rest
  | [], _ => trivial
  | term :: rest, every =>
      ⟨Equality.Every.mono implies term every.1, Conjunction.RestEvery.mono implies rest every.2⟩

/-- What all operands have by the form of each one is implied at each one. -/
theorem Disjunction.Every.mono {P Q : Unary → Prop} (implies : ∀ unary, P unary → Q unary) :
    ∀ disjunction : Disjunction, disjunction.Every P → disjunction.Every Q
  | .mk first rest, every =>
      ⟨Conjunction.Every.mono implies first every.1, Disjunction.RestEvery.mono implies rest every.2⟩

theorem Disjunction.RestEvery.mono {P Q : Unary → Prop} (implies : ∀ unary, P unary → Q unary) :
    ∀ rest : List Conjunction, Disjunction.RestEvery P rest → Disjunction.RestEvery Q rest
  | [], _ => trivial
  | term :: rest, every =>
      ⟨Conjunction.Every.mono implies term every.1, Disjunction.RestEvery.mono implies rest every.2⟩

end

/-! ### Values that have been read -/

/-- The literals and paths that a token can stand for.  No literal is negative. -/
def Primary.Readable : Primary → Prop
  | .integer value => 0 ≤ value ∧ value ≤ Word64.greatest
  | .double value => value.IsMagnitude
  | .path written => (Token.path written).Lexical
  | .parameter index => IsWritable index
  | _ => True

/-- The operands that can be read.  Only the least integer is negative, and it has no operator. -/
def Unary.Readable (unary : Unary) : Prop :=
  unary.operand.Readable ∨ unary = .plain (.integer Word64.least)

theorem numberTree_readable {written : String} (lexical : (Token.number written).Lexical)
    (fits : (PrimaryPhrase.number written).InRange) : (numberTree written).Readable := by
  unfold numberTree
  cases whole : integerValue? written with
  | some value => exact ⟨Int.natCast_nonneg value, (fits value whole).2⟩
  | none =>
      obtain ⟨first, rest, parts, solid, start⟩ := lexical
      rw [parts]
      cases read : readDouble? (first :: rest) with
      | none => exact Nat.zero_le _
      | some x => exact readDouble?_isMagnitude solid start read

/-- A value other than a group is readable if its token is lexical. -/
theorem PrimaryPhrase.tree_readable {operand : PrimaryPhrase} (fits : operand.InRange)
    (lexical : ∀ token ∈ operand.tokens, token.Lexical) : operand.tree.Readable := by
  cases operand with
  | number written => exact numberTree_readable (lexical _ List.mem_cons_self) fits
  | path written => exact lexical (.path written) List.mem_cons_self
  | parameter written => exact IsReadable.isWritable fits
  | boolean | text | null | group => trivial

mutual

theorem PrimaryPhrase.readable : ∀ phrase : PrimaryPhrase, phrase.InRange →
    (∀ token ∈ phrase.tokens, token.Lexical) → phrase.tree.Every Unary.Readable
  | .group inner, fits, lexical => by
      refine inner.readable fits ?_
      intro token member
      exact lexical token (List.mem_cons_of_mem _ (List.mem_append_left _ member))
  | .number written, _, _ => by
      simp only [PrimaryPhrase.tree, numberTree]
      split <;> trivial
  | .boolean _, _, _ | .text _, _, _ | .null, _, _ | .parameter _, _, _ | .path _, _, _ => trivial

theorem UnaryPhrase.readable : ∀ phrase : UnaryPhrase, phrase.InRange →
    (∀ token ∈ phrase.tokens, token.Lexical) → phrase.tree.Every Unary.Readable
  | .plain operand, fits, lexical =>
      ⟨.inl (PrimaryPhrase.tree_readable fits lexical), operand.readable fits lexical⟩
  | .applied sign operand, fits, lexical => by
      have inner : ∀ token ∈ operand.tokens, token.Lexical := by
        intro token member
        exact lexical token (List.mem_cons_of_mem _ member)
      unfold UnaryPhrase.tree
      split
      · exact ⟨.inr rfl, trivial⟩
      · rename_i notLeast
        have fits' : operand.InRange := fits.resolve_right notLeast
        exact ⟨.inl (PrimaryPhrase.tree_readable fits' inner), operand.readable fits' inner⟩

theorem ProductPhrase.readable : ∀ phrase : ProductPhrase, phrase.InRange →
    (∀ token ∈ phrase.tokens, token.Lexical) → phrase.tree.Every Unary.Readable
  | .single factor, fits, lexical => factor.readable fits lexical
  | .pair left _ right, fits, lexical => by
      rcases fits with ⟨leftFits, rightFits⟩
      constructor
      · refine left.readable leftFits ?_
        intro token member
        exact lexical token (List.mem_append_left _ member)
      · refine right.readable rightFits ?_
        intro token member
        exact lexical token (List.mem_append_right _ (List.mem_cons_of_mem _ member))

theorem SumPhrase.readable : ∀ phrase : SumPhrase, phrase.InRange →
    (∀ token ∈ phrase.tokens, token.Lexical) → phrase.tree.Every Unary.Readable
  | .mk first rest, fits, lexical => by
      rcases fits with ⟨firstFits, restFit⟩
      constructor
      · refine first.readable firstFits ?_
        intro token member
        exact lexical token (List.mem_append_left _ member)
      · refine SumPhrase.rest_readable rest restFit ?_
        intro token member
        exact lexical token (List.mem_append_right _ member)

theorem SumPhrase.rest_readable : ∀ rest : List (SumOperator × ProductPhrase),
    SumPhrase.RestInRange rest → (∀ token ∈ SumPhrase.restTokens rest, token.Lexical) →
      Sum.RestEvery Unary.Readable (SumPhrase.restTrees rest)
  | [], _, _ => trivial
  | (_, term) :: rest, fits, lexical => by
      rcases fits with ⟨termFits, restFit⟩
      constructor
      · refine term.readable termFits ?_
        intro token member
        exact lexical token (List.mem_cons_of_mem _ (List.mem_append_left _ member))
      · refine SumPhrase.rest_readable rest restFit ?_
        intro token member
        exact lexical token (List.mem_cons_of_mem _ (List.mem_append_right _ member))

theorem ComparisonPhrase.readable : ∀ phrase : ComparisonPhrase, phrase.InRange →
    (∀ token ∈ phrase.tokens, token.Lexical) → phrase.tree.Every Unary.Readable
  | .single operand, fits, lexical => operand.readable fits lexical
  | .pair left _ right, fits, lexical => by
      rcases fits with ⟨leftFits, rightFits⟩
      constructor
      · refine left.readable leftFits ?_
        intro token member
        exact lexical token (List.mem_append_left _ member)
      · refine right.readable rightFits ?_
        intro token member
        exact lexical token (List.mem_append_right _ (List.mem_cons_of_mem _ member))

theorem EqualityPhrase.readable : ∀ phrase : EqualityPhrase, phrase.InRange →
    (∀ token ∈ phrase.tokens, token.Lexical) → phrase.tree.Every Unary.Readable
  | .single operand, fits, lexical => operand.readable fits lexical
  | .pair left _ right, fits, lexical => by
      rcases fits with ⟨leftFits, rightFits⟩
      constructor
      · refine left.readable leftFits ?_
        intro token member
        exact lexical token (List.mem_append_left _ member)
      · refine right.readable rightFits ?_
        intro token member
        exact lexical token (List.mem_append_right _ (List.mem_cons_of_mem _ member))

theorem ConjunctionPhrase.readable : ∀ phrase : ConjunctionPhrase, phrase.InRange →
    (∀ token ∈ phrase.tokens, token.Lexical) → phrase.tree.Every Unary.Readable
  | .mk first rest, fits, lexical => by
      rcases fits with ⟨firstFits, restFit⟩
      constructor
      · refine first.readable firstFits ?_
        intro token member
        exact lexical token (List.mem_append_left _ member)
      · refine ConjunctionPhrase.rest_readable rest restFit ?_
        intro token member
        exact lexical token (List.mem_append_right _ member)

theorem ConjunctionPhrase.rest_readable : ∀ rest : List EqualityPhrase,
    ConjunctionPhrase.RestInRange rest →
      (∀ token ∈ ConjunctionPhrase.restTokens rest, token.Lexical) →
        Conjunction.RestEvery Unary.Readable (ConjunctionPhrase.restTrees rest)
  | [], _, _ => trivial
  | term :: rest, fits, lexical => by
      rcases fits with ⟨termFits, restFit⟩
      constructor
      · refine term.readable termFits ?_
        intro token member
        exact lexical token (List.mem_cons_of_mem _ (List.mem_append_left _ member))
      · refine ConjunctionPhrase.rest_readable rest restFit ?_
        intro token member
        exact lexical token (List.mem_cons_of_mem _ (List.mem_append_right _ member))

/-- The operands of a phrase in range are readable if its tokens are those of a text. -/
theorem DisjunctionPhrase.readable : ∀ phrase : DisjunctionPhrase, phrase.InRange →
    (∀ token ∈ phrase.tokens, token.Lexical) → phrase.tree.Every Unary.Readable
  | .mk first rest, fits, lexical => by
      rcases fits with ⟨firstFits, restFit⟩
      constructor
      · refine first.readable firstFits ?_
        intro token member
        exact lexical token (List.mem_append_left _ member)
      · refine DisjunctionPhrase.rest_readable rest restFit ?_
        intro token member
        exact lexical token (List.mem_append_right _ member)

theorem DisjunctionPhrase.rest_readable : ∀ rest : List ConjunctionPhrase,
    DisjunctionPhrase.RestInRange rest →
      (∀ token ∈ DisjunctionPhrase.restTokens rest, token.Lexical) →
        Disjunction.RestEvery Unary.Readable (DisjunctionPhrase.restTrees rest)
  | [], _, _ => trivial
  | term :: rest, fits, lexical => by
      rcases fits with ⟨termFits, restFit⟩
      constructor
      · refine term.readable termFits ?_
        intro token member
        exact lexical token (List.mem_cons_of_mem _ (List.mem_append_left _ member))
      · refine DisjunctionPhrase.rest_readable rest restFit ?_
        intro token member
        exact lexical token (List.mem_cons_of_mem _ (List.mem_append_right _ member))

end

/-! ### Reading a text -/

/-- What has been read is the tree of a phrase in range whose tokens have the form of tokens. -/
theorem exists_phrase_of_parse {text : String} {expression : Expression}
    (read : Expression.parse text = .ok expression) :
    ∃ phrase : DisjunctionPhrase, phrase.InRange ∧ (∀ token ∈ phrase.tokens, token.Lexical) ∧
      expression = ⟨phrase.tree, text⟩ := by
  obtain ⟨lexemes, cut⟩ := exists_tokenize_of_parse read
  obtain ⟨phrase, tokens, fits, same⟩ := (parse_eq_ok_iff cut expression).mp read
  obtain ⟨front, last, rfl, lexical⟩ := tokenize_lexical cut
  refine ⟨phrase, fits, fun token member => ?_, same⟩
  rw [tokens, tokensOf_append, tokensOf_cons, tokensOf_nil, List.dropLast_concat] at member
  obtain ⟨lexeme, here, rfl⟩ := List.mem_map.mp member
  exact lexical lexeme here

/-- Every operand of an expression that has been read is readable. -/
theorem parse_readable {text : String} {expression : Expression}
    (read : Expression.parse text = .ok expression) : expression.root.Every Unary.Readable := by
  obtain ⟨phrase, fits, lexical, rfl⟩ := exists_phrase_of_parse read
  exact phrase.readable fits lexical

end Stencil.Expr
