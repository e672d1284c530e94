/-
Module: Stencil.Proofs.Expr.Parentheses
Purpose: Expressions in parentheses are read and evaluated as they are alone, and an operator
  between two of them joins what they are read as, and what they are evaluated to.
Main exports: BinaryOperator, BinaryOperator.join, BinaryOperator.apply, parse_group, parse_joined,
  parentheses_compositional
-/
import Stencil.Proofs.Expr.Neutral
import Stencil.Proofs.Expr.Separation

namespace Stencil.Expr

/-! ### Binary operators -/

/-- The operators that stand between two operands. -/
inductive BinaryOperator where
  | or
  | and
  | equality (sign : EqualityOperator)
  | comparison (sign : ComparisonOperator)
  | sum (sign : SumOperator)
  | product (sign : ProductOperator)
deriving Repr, Inhabited, DecidableEq

namespace BinaryOperator

/-- The operator of the tokens that stands for a binary one. -/
def operator : BinaryOperator → Operator
  | or => .or
  | and => .and
  | equality .equal => .equal
  | equality .unequal => .unequal
  | comparison .greater => .greater
  | comparison .greaterOrEqual => .greaterOrEqual
  | comparison .less => .less
  | comparison .lessOrEqual => .lessOrEqual
  | sum .plus => .plus
  | sum .minus => .minus
  | product .times => .times
  | product .divide => .divide
  | product .modulo => .modulo

/-- A spelling of the operator: its sign, or a word for it. -/
def Spells (spelling : String) (sign : BinaryOperator) : Prop :=
  spelling = sign.operator.sign ∨ (spelling, sign.operator) ∈ operatorWords

/-- The expression that consists of two operands with the operator between them. -/
def join (left right : Unary) : BinaryOperator → Disjunction
  | or => .mk left.conjunction [right.conjunction]
  | and => .mk (.mk left.equality [right.equality]) []
  | equality sign => .mk (.mk (.pair left.comparison sign right.comparison) []) []
  | comparison sign => .mk (.mk (.single (.pair left.sum sign right.sum)) []) []
  | sum sign => .mk (.mk (.single (.single (.mk left.product [(sign, right.product)]))) []) []
  | product sign => .mk (.mk (.single (.single (.mk (.pair left sign right) []))) []) []

/-- The phrase of two operands with the operator between them. -/
def phrase (left right : UnaryPhrase) : BinaryOperator → DisjunctionPhrase
  | or => .mk left.conjunction [right.conjunction]
  | and => .mk (.mk left.equality [right.equality]) []
  | equality sign => .mk (.mk (.pair left.comparison sign right.comparison) []) []
  | comparison sign => .mk (.mk (.single (.pair left.sum sign right.sum)) []) []
  | sum sign => .mk (.mk (.single (.single (.mk left.product [(sign, right.product)]))) []) []
  | product sign => .mk (.mk (.single (.single (.mk (.pair left sign right) []))) []) []

/-- The operation on two values. -/
def apply (left right : Value) : BinaryOperator → Except EvaluationError Value
  | or => (joinOr left right).map .boolean
  | and => (joinAnd left right).map .boolean
  | equality sign => .ok (applyEquality sign left right)
  | comparison sign => applyComparison sign left right
  | sum sign => applySum sign left right
  | product sign => applyProduct sign left right

end BinaryOperator

/-! ### Two operands with an operator between them -/

/-- A chain of two terms ends with what they are joined to. -/
theorem ofOperation_flag (result : Except EvaluationError Bool) :
    (do
      let holds ← Evaluation.ofOperation result
      if holds then pure (.boolean true) else pure (.boolean false) : Evaluation Value) =
      Evaluation.ofOperation (result.map .boolean) := by
  cases result with
  | error error => rfl
  | ok holds => cases holds <;> rfl

namespace BinaryOperator

variable (sign : BinaryOperator)

theorem phrase_tokens (left right : UnaryPhrase) :
    (sign.phrase left right).tokens = left.tokens ++ .operator sign.operator :: right.tokens := by
  cases sign with
  | or => simp [phrase, operator, DisjunctionPhrase.tokens, DisjunctionPhrase.restTokens]
  | and => simp [phrase, operator, ConjunctionPhrase.tokens, ConjunctionPhrase.restTokens]
  | equality sign =>
      cases sign <;> simp [phrase, operator, EqualityPhrase.tokens, EqualityOperator.token]
  | comparison sign =>
      cases sign <;> simp [phrase, operator, ComparisonPhrase.tokens, ComparisonOperator.token]
  | sum sign =>
      cases sign <;>
        simp [phrase, operator, SumPhrase.tokens, SumPhrase.restTokens, SumOperator.token]
  | product sign =>
      cases sign <;> simp [phrase, operator, ProductPhrase.tokens, ProductOperator.token]

theorem phrase_tree (left right : UnaryPhrase) :
    (sign.phrase left right).tree = sign.join left.tree right.tree := by
  cases sign <;> rfl

theorem phrase_inRange {left right : UnaryPhrase} (fits : left.InRange) (fits' : right.InRange) :
    (sign.phrase left right).InRange := by
  have sums : left.sum.InRange ∧ right.sum.InRange :=
    ⟨UnaryPhrase.inRange_sum.mpr fits, UnaryPhrase.inRange_sum.mpr fits'⟩
  cases sign with
  | or => exact ⟨⟨sums.1, trivial⟩, ⟨sums.2, trivial⟩, trivial⟩
  | and => exact ⟨⟨sums.1, sums.2, trivial⟩, trivial⟩
  | equality sign | comparison sign => exact ⟨⟨sums, trivial⟩, trivial⟩
  | sum sign => exact ⟨⟨⟨fits, fits', trivial⟩, trivial⟩, trivial⟩
  | product sign => exact ⟨⟨⟨⟨fits, fits'⟩, trivial⟩, trivial⟩, trivial⟩

/-- Two operands joined expect as many parameters as the one that expects more. -/
theorem join_parameterCount (left right : Unary) :
    (sign.join left right).parameterCount = max left.parameterCount right.parameterCount := by
  cases sign with
  | or => simp [join, Disjunction.parameterCount, Disjunction.restParameterCount]
  | and => simp [join, Conjunction.parameterCount, Conjunction.restParameterCount]
  | equality sign => simp [join, Equality.parameterCount]
  | comparison sign => simp [join, Comparison.parameterCount]
  | sum sign => simp [join, Sum.parameterCount, Sum.restParameterCount]
  | product sign => simp [join, Product.parameterCount]

/-- Two operands joined are evaluated from left to right, and then the operation is applied. -/
theorem join_evaluate (left right : Unary) (setting : Setting) :
    (sign.join left right).evaluate setting = (do
      let one ← left.evaluate setting
      let two ← right.evaluate setting
      Evaluation.ofOperation (sign.apply one two)) := by
  cases sign with
  | or => simp [join, apply, Disjunction.evaluate, Disjunction.evaluateRest, ofOperation_flag]
  | and => simp [join, apply, Conjunction.evaluate, Conjunction.evaluateRest, ofOperation_flag]
  | equality sign => simp [join, apply, Equality.evaluate, Evaluation.ofOperation]
  | comparison sign => simp [join, apply, Comparison.evaluate]
  | sum sign => simp [join, apply, Sum.evaluate, Sum.evaluateRest]
  | product sign => simp [join, apply, Product.evaluate]

end BinaryOperator

/-! ### Reading -/

/-- A word for an operator is read as the operator. -/
theorem Lexes.operatorWord {word : String} {sign : Operator}
    (listed : (word, sign) ∈ operatorWords) : Lexes word.toList [.operator sign] := by
  have names : ∀ entry ∈ operatorWords, ∃ first body, entry.1.toList = first :: body ∧
      isNameStart first = true ∧ pathRest body = body.length := by
    intro entry member
    simp only [Expr.operatorWords, List.mem_cons, List.not_mem_nil, or_false] at member
    rcases member with rfl | rfl | rfl | rfl | rfl | rfl | rfl | rfl | rfl | rfl | rfl
    all_goals exact ⟨_, _, rfl, by decide, by decide⟩
  have made : wordToken word = .operator sign := by
    have token := (Denotes.operatorWord listed).token? 0
    simpa [LexemeClass.token?] using token
  obtain ⟨first, body, parts, start, whole⟩ := names _ listed
  have lexes := Lexes.word start whole
  rw [← parts, String.ofList_toList, made] at lexes
  exact lexes

theorem BinaryOperator.Spells.lexes {sign : BinaryOperator} {spelling : String}
    (spells : sign.Spells spelling) : Lexes spelling.toList [.operator sign.operator] := by
  rcases spells with rfl | listed
  · exact Lexes.sign _
  · exact Lexes.operatorWord listed

/-- What has been read in parentheses is the group of a phrase for the text inside. -/
theorem exists_group {text : String} {expression : Expression}
    (read : Expression.parse text = .ok expression) :
    ∃ inner : DisjunctionPhrase, inner.InRange ∧ inner.tree = expression.root ∧
      Lexes ('(' :: (text.toList ++ [')'])) (PrimaryPhrase.group inner).tokens := by
  obtain ⟨lexemes, cut⟩ := exists_tokenize_of_parse read
  obtain ⟨inner, same, fits, rfl⟩ := (parse_eq_ok_iff cut expression).mp read
  have lexes := Lexes.enclosed cut
  rw [← same] at lexes
  exact ⟨inner, fits, rfl, lexes⟩

/-- An expression as one operand, in parentheses. -/
def Expression.group (expression : Expression) : Unary :=
  .plain (.nested expression.root)

/-- A text in parentheses is read as the group of what it is read as alone. -/
theorem parse_group {text : String} {expression : Expression}
    (read : Expression.parse text = .ok expression) :
    Expression.parse ("(" ++ text ++ ")") =
      .ok ⟨expression.group.disjunction, "(" ++ text ++ ")"⟩ := by
  obtain ⟨inner, fits, tree, lexes⟩ := exists_group read
  have written : ("(" ++ text ++ ")").toList = '(' :: (text.toList ++ [')']) := by simp
  have tokens := UnaryPhrase.tokens_disjunction (.plain (.group inner))
  rw [UnaryPhrase.tokens_plain] at tokens
  rw [← written, ← tokens] at lexes
  unfold Expression.group
  rw [← tree]
  exact lexes.parse_eq_ok_iff.mpr ⟨UnaryPhrase.inRange_disjunction.mpr fits, rfl⟩

/-- Two texts in parentheses with an operator between them are read as the groups of what they are
read as alone, joined by the operator. -/
theorem parse_joined {text text' : String} {left right : Expression}
    (read : Expression.parse text = .ok left) (read' : Expression.parse text' = .ok right)
    {sign : BinaryOperator} {spelling : String} (spells : sign.Spells spelling) :
    Expression.parse ("(" ++ text ++ ") " ++ spelling ++ " (" ++ text' ++ ")") =
      .ok ⟨sign.join left.group right.group,
        "(" ++ text ++ ") " ++ spelling ++ " (" ++ text' ++ ")"⟩ := by
  obtain ⟨inner, fits, tree, lexes⟩ := exists_group read
  obtain ⟨inner', fits', tree', lexes'⟩ := exists_group read'
  have whole := lexes.spaced (spells.lexes.spaced lexes')
  have written : ("(" ++ text ++ ") " ++ spelling ++ " (" ++ text' ++ ")").toList =
      '(' :: (text.toList ++ [')']) ++
        ' ' :: (spelling.toList ++ ' ' :: '(' :: (text'.toList ++ [')'])) := by simp
  have tokens := sign.phrase_tokens (.plain (.group inner)) (.plain (.group inner'))
  rw [UnaryPhrase.tokens_plain, UnaryPhrase.tokens_plain] at tokens
  rw [List.singleton_append, ← tokens, ← written] at whole
  unfold Expression.group
  rw [← tree, ← tree']
  refine whole.parse_eq_ok_iff.mpr ⟨sign.phrase_inRange fits fits', ?_⟩
  rw [sign.phrase_tree]
  rfl

/-- Reading is compositional under parentheses, and so is evaluation.  An operator, in any spelling,
between two texts in parentheses joins what these are read as; it expects as many parameters as the
one that expects more, and evaluates the left one, then the right one, and then the operation.
Parentheses alone change nothing about an evaluation. -/
theorem parentheses_compositional {text text' : String} {left right : Expression}
    (read : Expression.parse text = .ok left) (read' : Expression.parse text' = .ok right)
    {sign : BinaryOperator} {spelling : String} (spells : sign.Spells spelling) :
    (∃ whole : Expression,
      Expression.parse ("(" ++ text ++ ") " ++ spelling ++ " (" ++ text' ++ ")") = .ok whole ∧
      whole.root = sign.join (.plain (.nested left.root)) (.plain (.nested right.root)) ∧
      whole.parameterCount = max left.parameterCount right.parameterCount ∧
      ∀ setting, whole.evaluate setting = (do
        let one ← left.evaluate setting
        let two ← right.evaluate setting
        Evaluation.ofOperation (sign.apply one two))) ∧
    ∃ group : Expression, Expression.parse ("(" ++ text ++ ")") = .ok group ∧
      group.root = (Unary.plain (.nested left.root)).disjunction ∧
      group.parameterCount = left.parameterCount ∧
      ∀ setting, group.evaluate setting = left.evaluate setting := by
  constructor
  · refine ⟨_, parse_joined read read' spells, rfl, ?_, ?_⟩
    · exact sign.join_parameterCount left.group right.group
    · exact sign.join_evaluate left.group right.group
  · refine ⟨_, parse_group read, rfl, ?_, ?_⟩
    · exact left.group.parameterCount_disjunction
    · exact left.group.evaluate_disjunction

/-- A parenthesis in a quoted text closes no group, and the word may stand for the operator. -/
theorem parentheses_compositional_quoted :
    ∃ left right whole : Expression, Expression.parse " 'a)' == x " = .ok left ∧
      Expression.parse "?1 > 3" = .ok right ∧ BinaryOperator.or.Spells "or" ∧
      Expression.parse "( 'a)' == x ) or (?1 > 3)" = .ok whole ∧ whole.parameterCount = 2 := by
  have read : Expression.parse " 'a)' == x " = .ok ⟨.mk (.mk (.pair
      (.single (.mk (.single (.plain (.text "a)"))) [])) .equal
      (.single (.mk (.single (.plain (.path "x"))) []))) []) [], " 'a)' == x "⟩ := by
    cbv
  have read' : Expression.parse "?1 > 3" = .ok ⟨.mk (.mk (.single (.pair
      (.mk (.single (.plain (.parameter 1))) []) .greater
      (.mk (.single (.plain (.integer 3))) []))) []) [], "?1 > 3"⟩ := by
    clear read
    cbv
  have spells : BinaryOperator.or.Spells "or" := .inr (by decide)
  obtain ⟨⟨whole, joined, -, count, -⟩, -⟩ := parentheses_compositional read read' spells
  exact ⟨_, _, whole, read, read', spells, joined, count⟩

end Stencil.Expr
