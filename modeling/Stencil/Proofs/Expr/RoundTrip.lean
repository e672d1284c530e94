/-
Module: Stencil.Proofs.Expr.RoundTrip
Purpose: Reading the canonical text of an expression that has been read.
Main exports: Disjunction.print_lexes, parse_print
-/
import Mathlib
import Stencil.Proofs.Expr.Canonical
import Stencil.Proofs.Expr.Neutral

namespace Stencil.Expr

open Text

/-! ### Printed operators -/

/-- A reserved word is read as its keyword. -/
theorem Lexes.keyword (word : Keyword) : Lexes word.word.toList [.keyword word] := by
  have made : wordToken word.word = .keyword word := by
    cases word <;> rfl
  cases parts : word.word.toList with
  | nil => cases word <;> cases parts
  | cons first body =>
      have lexes : Lexes (first :: body) [wordToken (String.ofList (first :: body))] := by
        cases word <;> cases parts <;> exact Lexes.word (by decide) (by decide)
      rw [← parts, String.ofList_toList, made, parts] at lexes
      exact lexes

theorem EqualityOperator.sign_lexes (sign : EqualityOperator) :
    Lexes sign.sign.toList [sign.token] := by
  cases sign with
  | equal => exact Lexes.sign .equal
  | unequal => exact Lexes.sign .unequal

theorem ComparisonOperator.sign_lexes (sign : ComparisonOperator) :
    Lexes sign.sign.toList [sign.token] := by
  cases sign with
  | greater => exact Lexes.sign .greater
  | greaterOrEqual => exact Lexes.sign .greaterOrEqual
  | less => exact Lexes.sign .less
  | lessOrEqual => exact Lexes.sign .lessOrEqual

theorem SumOperator.sign_lexes (sign : SumOperator) : Lexes sign.sign.toList [sign.token] := by
  cases sign with
  | plus => exact Lexes.sign .plus
  | minus => exact Lexes.sign .minus

theorem ProductOperator.sign_lexes (sign : ProductOperator) :
    Lexes sign.sign.toList [sign.token] := by
  cases sign with
  | times => exact Lexes.sign .times
  | divide => exact Lexes.sign .divide
  | modulo => exact Lexes.sign .modulo

/-- Two operands with an operator between them. -/
theorem Lexes.pair {left sign right : String} {tokens tokens' : List Token} {token : Token}
    (before : Lexes left.toList tokens) (mark : Lexes sign.toList [token])
    (behind : Lexes right.toList tokens') :
    Lexes (left ++ " " ++ sign ++ " " ++ right).toList (tokens ++ token :: tokens') := by
  have space : " ".toList = [' '] := rfl
  have parts : (left ++ " " ++ sign ++ " " ++ right).toList =
      left.toList ++ ' ' :: (sign.toList ++ ' ' :: right.toList) := by
    simp only [String.toList_append, space, List.append_assoc, List.cons_append, List.nil_append]
  rw [parts]
  exact before.spaced (mark.spaced behind)

theorem leadingOperator?_not {next : Char} (other : next ≠ '=') (rest : List Char) :
    leadingOperator? ('!' :: next :: rest) = some (.not, 1) := by
  simp [leadingOperator?, other]

/-- An operator in front of a text that does not complete it to another operator. -/
theorem UnaryOperator.lead_lexes (sign : UnaryOperator) {text : String} {tokens : List Token}
    (inner : Lexes text.toList tokens) (other : '=' ∉ text.toList.head?) :
    Lexes (sign.lead ++ text).toList (sign.token :: tokens) := by
  rw [String.toList_append]
  cases sign with
  | not =>
      have scanned : ∀ rest, LexemeClass.scan '!' (text.toList ++ rest) =
          some (.operator .not, 1) := by
        intro rest
        obtain ⟨first, body, parts, -⟩ := inner.solid
        rw [parts] at other ⊢
        have apart : first ≠ '=' := fun same => other (congrArg some same)
        change (leadingOperator? ('!' :: first :: (body ++ rest))).map _ = _
        rw [leadingOperator?_not apart]
        rfl
      exact Lexes.marked (by decide) inner scanned fun _ => rfl
  | minus =>
      have scanned : ∀ rest, LexemeClass.scan '-' (text.toList ++ rest) =
          some (.operator .minus, 1) := fun _ => rfl
      exact Lexes.marked (by decide) inner scanned fun _ => rfl
  | empty => exact (Lexes.keyword .empty).spaced inner

/-! ### Printed values -/

theorem integerText_lexes (value : Nat) :
    Lexes (integerText value).toList [.number (integerText value)] := by
  have lexes := Lexes.number (.numeral (.ofDigits (naturalDigits value)
    (naturalDigits_ne_nil value) (naturalDigits_isDigit value)))
  rw [Numeral.text_ofDigits, ← integerText_toList, String.ofList_toList] at lexes
  exact lexes

/-- The word for infinity is a path. -/
theorem infinity_lexes : Lexes "inf".toList [.path "inf"] :=
  @Lexes.word 'i' ['n', 'f'] (by decide) (by decide)

theorem Primary.double_lexes {x : Double} (magnitude : x.IsMagnitude) :
    Lexes (Primary.double x).print.toList (Primary.double x).phrase.tokens := by
  unfold Primary.print Primary.phrase
  split
  · rename_i infinite
    rw [Double.text_of_isInfinite magnitude infinite]
    exact infinity_lexes
  · rename_i noInfinity
    have finite : x.isFinite := by
      rw [isInfinite_iff magnitude, Classical.not_not] at noInfinity
      exact noInfinity
    obtain ⟨numeral, text, -⟩ := Double.exists_numeral magnitude finite
    have lexes := Lexes.number (.numeral numeral)
    rw [text, String.ofList_toList] at lexes
    exact lexes

theorem not_mem_head?_of_isDigit {first : Char} {rest : List Char} (digit : first.isDigit) :
    '=' ∉ (first :: rest).head? := by
  intro same
  cases same
  revert digit
  decide

/-- No value starts with an equals sign, which would make another operator of a negation. -/
theorem Primary.head?_print {primary : Primary} (readable : primary.Readable) :
    '=' ∉ primary.print.toList.head? := by
  cases primary with
  | boolean flag => cases flag <;> decide
  | null => decide
  | integer value =>
      obtain ⟨natural, rfl, -⟩ := Primary.Readable.integer readable
      change '=' ∉ (integerText natural).toList.head?
      rw [integerText_toList]
      cases parts : naturalDigits natural with
      | nil => exact absurd parts (naturalDigits_ne_nil natural)
      | cons first rest =>
          have member : first ∈ naturalDigits natural := parts ▸ List.mem_cons_self
          exact not_mem_head?_of_isDigit (naturalDigits_isDigit natural first member)
  | double x =>
      change '=' ∉ x.text.toList.head?
      by_cases finite : x.isFinite
      · obtain ⟨numeral, text, -⟩ := Double.exists_numeral readable finite
        obtain ⟨first, rest, parts, digit⟩ := numeral.text_eq_cons
        rw [← text, parts]
        exact not_mem_head?_of_isDigit digit
      · rw [Double.text_of_isInfinite readable ((isInfinite_iff readable).mpr finite)]
        decide
  | text content =>
      change '=' ∉ (quoteLiteral content).toList.head?
      unfold quoteLiteral
      rw [String.toList_ofList]
      intro same
      cases same
  | parameter index =>
      change '=' ∉ ("?" ++ integerText index).toList.head?
      rw [parameter_toList]
      intro same
      cases same
  | path written =>
      obtain ⟨first, rest, parts, -, start, -⟩ := readable
      change '=' ∉ written.toList.head?
      rw [parts]
      intro same
      cases same
      revert start
      decide
  | nested inner =>
      unfold Primary.print
      rw [String.toList_append, String.toList_append]
      intro same
      cases same

/-! ### Printed expressions -/

mutual

theorem Primary.print_lexes : ∀ primary : Primary, primary.Readable →
    primary.Every Unary.Readable → Lexes primary.print.toList primary.phrase.tokens
  | .boolean true, _, _ => Lexes.keyword .isTrue
  | .boolean false, _, _ => Lexes.keyword .isFalse
  | .null, _, _ => Lexes.keyword .null
  | .text content, _, _ => Lexes.quoted content
  | .parameter index, _, _ => Lexes.parameter index
  | .path _, lexical, _ => Lexes.path lexical
  | .double _, magnitude, _ => Primary.double_lexes magnitude
  | .integer _, readable, _ => by
      obtain ⟨natural, rfl, -⟩ := Primary.Readable.integer readable
      exact integerText_lexes natural
  | .nested inner, _, every => by
      have opens : "(".toList = ['('] := rfl
      have closes : ")".toList = [')'] := rfl
      have inside := (Disjunction.print_lexes inner every).group
      unfold Primary.print
      rw [String.toList_append, String.toList_append, opens, closes]
      exact inside

theorem Unary.print_lexes : ∀ unary : Unary, unary.Every Unary.Readable →
    Lexes unary.print.toList unary.phrase.tokens
  | .plain operand, ⟨.inl readable, every⟩ => by
      have here : operand.Readable := readable
      unfold Unary.phrase
      rw [Primary.negative?_of_readable here]
      exact Primary.print_lexes operand here every
  | .plain operand, ⟨.inr least, _⟩ => by
      cases least
      exact UnaryOperator.minus.lead_lexes (integerText_lexes leastMagnitude) (by decide)
  | .applied sign operand, ⟨.inl readable, every⟩ =>
      sign.lead_lexes (Primary.print_lexes operand readable every) (Primary.head?_print readable)

theorem Product.print_lexes : ∀ product : Product, product.Every Unary.Readable →
    Lexes product.print.toList product.phrase.tokens
  | .single factor, every => Unary.print_lexes factor every
  | .pair left sign right, every =>
      (Unary.print_lexes left every.1).pair sign.sign_lexes (Unary.print_lexes right every.2)

theorem Sum.print_lexes : ∀ sum : Sum, sum.Every Unary.Readable →
    Lexes sum.print.toList sum.phrase.tokens
  | .mk first rest, every =>
      Sum.printRest_lexes rest every.2 (Product.print_lexes first every.1)

theorem Sum.printRest_lexes : ∀ rest : List (SumOperator × Product),
    Sum.RestEvery Unary.Readable rest → ∀ {front : String} {tokens : List Token},
      Lexes front.toList tokens →
        Lexes (front ++ Sum.printRest rest).toList
          (tokens ++ SumPhrase.restTokens (Sum.restPhrases rest))
  | [], _, front, tokens, before => by
      unfold Sum.printRest Sum.restPhrases SumPhrase.restTokens
      rw [String.append_empty, List.append_nil]
      exact before
  | (sign, term) :: rest, every, front, tokens, before => by
      have longer := before.pair sign.sign_lexes (Product.print_lexes term every.1)
      have whole := Sum.printRest_lexes rest every.2 longer
      simpa only [Sum.printRest, Sum.restPhrases, SumPhrase.restTokens, String.append_assoc,
        List.append_assoc, List.cons_append] using whole

theorem Comparison.print_lexes : ∀ comparison : Comparison,
    comparison.Every Unary.Readable →
      Lexes comparison.print.toList comparison.phrase.tokens
  | .single operand, every => Sum.print_lexes operand every
  | .pair left sign right, every =>
      (Sum.print_lexes left every.1).pair sign.sign_lexes (Sum.print_lexes right every.2)

theorem Equality.print_lexes : ∀ equality : Equality, equality.Every Unary.Readable →
    Lexes equality.print.toList equality.phrase.tokens
  | .single operand, every => Comparison.print_lexes operand every
  | .pair left sign right, every =>
      (Comparison.print_lexes left every.1).pair sign.sign_lexes
        (Comparison.print_lexes right every.2)

theorem Conjunction.print_lexes : ∀ conjunction : Conjunction,
    conjunction.Every Unary.Readable →
      Lexes conjunction.print.toList conjunction.phrase.tokens
  | .mk first rest, every =>
      Conjunction.printRest_lexes rest every.2 (Equality.print_lexes first every.1)

theorem Conjunction.printRest_lexes : ∀ rest : List Equality,
    Conjunction.RestEvery Unary.Readable rest → ∀ {front : String} {tokens : List Token},
      Lexes front.toList tokens →
        Lexes (front ++ Conjunction.printRest rest).toList
          (tokens ++ ConjunctionPhrase.restTokens (Conjunction.restPhrases rest))
  | [], _, front, tokens, before => by
      unfold Conjunction.printRest Conjunction.restPhrases ConjunctionPhrase.restTokens
      rw [String.append_empty, List.append_nil]
      exact before
  | term :: rest, every, front, tokens, before => by
      have sign : " && " = " " ++ Operator.and.sign ++ " " := rfl
      have longer := before.pair (Lexes.sign .and) (Equality.print_lexes term every.1)
      have whole := Conjunction.printRest_lexes rest every.2 longer
      simpa only [Conjunction.printRest, Conjunction.restPhrases, ConjunctionPhrase.restTokens,
        sign, String.append_assoc, List.append_assoc, List.cons_append] using whole

/-- The canonical text of an expression is cut into the tokens of its phrase. -/
theorem Disjunction.print_lexes : ∀ disjunction : Disjunction,
    disjunction.Every Unary.Readable →
      Lexes disjunction.print.toList disjunction.phrase.tokens
  | .mk first rest, every =>
      Disjunction.printRest_lexes rest every.2 (Conjunction.print_lexes first every.1)

theorem Disjunction.printRest_lexes : ∀ rest : List Conjunction,
    Disjunction.RestEvery Unary.Readable rest → ∀ {front : String} {tokens : List Token},
      Lexes front.toList tokens →
        Lexes (front ++ Disjunction.printRest rest).toList
          (tokens ++ DisjunctionPhrase.restTokens (Disjunction.restPhrases rest))
  | [], _, front, tokens, before => by
      unfold Disjunction.printRest Disjunction.restPhrases DisjunctionPhrase.restTokens
      rw [String.append_empty, List.append_nil]
      exact before
  | term :: rest, every, front, tokens, before => by
      have sign : " || " = " " ++ Operator.or.sign ++ " " := rfl
      have longer := before.pair (Lexes.sign .or) (Conjunction.print_lexes term every.1)
      have whole := Disjunction.printRest_lexes rest every.2 longer
      simpa only [Disjunction.printRest, Disjunction.restPhrases, DisjunctionPhrase.restTokens,
        sign, String.append_assoc, List.append_assoc, List.cons_append] using whole

end

/-! ### Reading what has been printed -/

/-- The canonical text of an expression is read as the tree of its phrase. -/
theorem parse_print_phrase {root : Disjunction} (readable : root.Every Unary.Readable) :
    Expression.parse root.print = .ok ⟨root.phrase.tree, root.print⟩ := by
  have fits := root.phrase_inRange readable
  exact (root.print_lexes readable).parse_eq_ok_iff.mpr ⟨fits, rfl⟩

/-- The canonical text of an expression that has been read can be read.  What it is read as equals the
expression just if every double-precision literal in it is finite. -/
theorem parse_print {text : String} {expression : Expression}
    (read : Expression.parse text = .ok expression) :
    ∃ again, Expression.parse expression.print = .ok again ∧
      (again.root = expression.root ∧ again.parameterCount = expression.parameterCount ↔
        expression.root.Every Unary.Finite) := by
  have readable := parse_readable read
  refine ⟨_, parse_print_phrase readable, ?_⟩
  rw [← expression.root.tree_phrase_iff readable]
  constructor
  · intro same
    exact same.1
  · intro same
    exact ⟨same, congrArg Disjunction.parameterCount same⟩

/-- A literal that overflows is printed as the word for infinity, which is read as a path. -/
theorem parse_print_overflow :
    ∃ expression again, Expression.parse "1e999 eq ?1" = .ok expression ∧
      expression.print = "inf == ?1" ∧ Expression.parse "inf == ?1" = .ok again ∧
        again.root ≠ expression.root := by
  have read : Expression.parse "1e999 eq ?1" = .ok ⟨.mk (.mk (.pair
      (.single (.mk (.single (.plain (.double Double.infinity))) [])) .equal
      (.single (.mk (.single (.plain (.parameter 1))) []))) []) [], "1e999 eq ?1"⟩ := by
    cbv
  obtain ⟨again, reread, same⟩ := parse_print read
  refine ⟨_, again, read, rfl, reread, fun equal => ?_⟩
  have finite := same.mp ⟨equal, congrArg Disjunction.parameterCount equal⟩
  have infinite : Double.infinity.isFinite = false := by decide
  have impossible : Double.infinity.isFinite = true := finite.1.1.1.1.1
  rw [infinite] at impossible
  cases impossible

example : (Expression.parse "empty \"it's\" ne 07").map Expression.print =
    .ok "empty 'it\\'s' != 7" := by
  cbv

end Stencil.Expr
