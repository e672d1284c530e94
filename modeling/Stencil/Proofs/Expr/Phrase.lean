/-
Module: Stencil.Proofs.Expr.Phrase
Purpose: The grammar of the expression language: phrases are its derivations, one type for each level.
Main exports: DisjunctionPhrase, DisjunctionPhrase.tokens, DisjunctionPhrase.tree,
  DisjunctionPhrase.InRange
-/
import Stencil.Expr.Parser

namespace Stencil.Expr

/-!
A phrase is a derivation in this grammar, whose terminals are tokens:

    disjunction → conjunction ("||" conjunction)*
    conjunction → equality ("&&" equality)*
    equality    → comparison (("==" | "!=") comparison)?
    comparison  → sum ((">" | ">=" | "<" | "<=") sum)?
    sum         → product (("+" | "-") product)*
    product     → unary (("*" | "/" | "%") unary)?
    unary       → ("!" | "-" | "empty")? primary
    primary     → BOOLEAN | NUMBER | TEXT | "null" | PARAMETER | PATH | "(" disjunction ")"

A phrase keeps numbers and parameters as they are written, so that it determines its tokens. What it
is read as is a tree, in which only the values are left.
-/

mutual

/-- A value: a token that stands for itself, or a disjunction in parentheses. -/
inductive PrimaryPhrase where
  | boolean (flag : Bool)
  | number (written : String)
  | text (content : String)
  | null
  | parameter (written : String)
  | path (written : String)
  | group (inner : DisjunctionPhrase)

/-- A value with at most one operator in front. -/
inductive UnaryPhrase where
  | plain (operand : PrimaryPhrase)
  | applied (sign : UnaryOperator) (operand : PrimaryPhrase)

inductive ProductPhrase where
  | single (factor : UnaryPhrase)
  | pair (left : UnaryPhrase) (sign : ProductOperator) (right : UnaryPhrase)

inductive SumPhrase where
  | mk (first : ProductPhrase) (rest : List (SumOperator × ProductPhrase))

inductive ComparisonPhrase where
  | single (operand : SumPhrase)
  | pair (left : SumPhrase) (sign : ComparisonOperator) (right : SumPhrase)

inductive EqualityPhrase where
  | single (operand : ComparisonPhrase)
  | pair (left : ComparisonPhrase) (sign : EqualityOperator) (right : ComparisonPhrase)

inductive ConjunctionPhrase where
  | mk (first : EqualityPhrase) (rest : List EqualityPhrase)

inductive DisjunctionPhrase where
  | mk (first : ConjunctionPhrase) (rest : List ConjunctionPhrase)

end

/-! ### The tokens of a phrase -/

def EqualityOperator.token : EqualityOperator → Token
  | equal => .operator .equal
  | unequal => .operator .unequal

def ComparisonOperator.token : ComparisonOperator → Token
  | greater => .operator .greater
  | greaterOrEqual => .operator .greaterOrEqual
  | less => .operator .less
  | lessOrEqual => .operator .lessOrEqual

def SumOperator.token : SumOperator → Token
  | plus => .operator .plus
  | minus => .operator .minus

def ProductOperator.token : ProductOperator → Token
  | times => .operator .times
  | divide => .operator .divide
  | modulo => .operator .modulo

def UnaryOperator.token : UnaryOperator → Token
  | not => .operator .not
  | minus => .operator .minus
  | empty => .keyword .empty

mutual

def PrimaryPhrase.tokens : PrimaryPhrase → List Token
  | .boolean flag => [.keyword (if flag then .isTrue else .isFalse)]
  | .number written => [.number written]
  | .text content => [.text content]
  | .null => [.keyword .null]
  | .parameter written => [.parameter written]
  | .path written => [.path written]
  | .group inner => .openParenthesis :: (inner.tokens ++ [.closeParenthesis])

def UnaryPhrase.tokens : UnaryPhrase → List Token
  | .plain operand => operand.tokens
  | .applied sign operand => sign.token :: operand.tokens

def ProductPhrase.tokens : ProductPhrase → List Token
  | .single factor => factor.tokens
  | .pair left sign right => left.tokens ++ sign.token :: right.tokens

def SumPhrase.tokens : SumPhrase → List Token
  | .mk first rest => first.tokens ++ SumPhrase.restTokens rest

def SumPhrase.restTokens : List (SumOperator × ProductPhrase) → List Token
  | [] => []
  | (sign, term) :: rest => sign.token :: (term.tokens ++ SumPhrase.restTokens rest)

def ComparisonPhrase.tokens : ComparisonPhrase → List Token
  | .single operand => operand.tokens
  | .pair left sign right => left.tokens ++ sign.token :: right.tokens

def EqualityPhrase.tokens : EqualityPhrase → List Token
  | .single operand => operand.tokens
  | .pair left sign right => left.tokens ++ sign.token :: right.tokens

def ConjunctionPhrase.tokens : ConjunctionPhrase → List Token
  | .mk first rest => first.tokens ++ ConjunctionPhrase.restTokens rest

def ConjunctionPhrase.restTokens : List EqualityPhrase → List Token
  | [] => []
  | term :: rest => .operator .and :: (term.tokens ++ ConjunctionPhrase.restTokens rest)

/-- The tokens that a phrase derives, from left to right. -/
def DisjunctionPhrase.tokens : DisjunctionPhrase → List Token
  | .mk first rest => first.tokens ++ DisjunctionPhrase.restTokens rest

def DisjunctionPhrase.restTokens : List ConjunctionPhrase → List Token
  | [] => []
  | term :: rest => .operator .or :: (term.tokens ++ DisjunctionPhrase.restTokens rest)

end

/-! ### Numbers -/

/-- The value of a number that is written without a point and without an exponent. -/
def integerValue? (written : String) : Option Nat :=
  if isDoubleLiteral written.toList then none else some (Text.naturalOfDigits written.toList)

/-- The literal that a number denotes, whatever its size. -/
def numberTree (written : String) : Primary :=
  match integerValue? written with
  | some value => .integer value
  | none => .double ((readDouble? written.toList).getD Double.zero)

/-- The magnitude of the least integer, 2^63. -/
def leastMagnitude : Nat := 0x8000000000000000

/-- The integer that a value is written as, if it is one and has few enough digits. -/
def PrimaryPhrase.integer? : PrimaryPhrase → Option Nat
  | .number written => if IsReadable written.toList then integerValue? written else none
  | _ => none

theorem PrimaryPhrase.integer?_number {written : String} {value : Nat} :
    (PrimaryPhrase.number written).integer? = some value ↔
      IsReadable written.toList ∧ integerValue? written = some value := by
  simp only [PrimaryPhrase.integer?, Option.ite_none_right_eq_some]

/-! ### The tree of a phrase -/

mutual

def PrimaryPhrase.tree : PrimaryPhrase → Primary
  | .boolean flag => .boolean flag
  | .number written => numberTree written
  | .text content => .text content
  | .null => .null
  | .parameter written => .parameter (parameterNumber written)
  | .path written => .path written
  | .group inner => .nested inner.tree

/-- A minus sign and 2^63 are one literal, without an operator. -/
def UnaryPhrase.tree : UnaryPhrase → Unary
  | .plain operand => .plain operand.tree
  | .applied sign operand =>
      if sign = .minus ∧ operand.integer? = some leastMagnitude then
        .plain (.integer Word64.least)
      else .applied sign operand.tree

def ProductPhrase.tree : ProductPhrase → Product
  | .single factor => .single factor.tree
  | .pair left sign right => .pair left.tree sign right.tree

def SumPhrase.tree : SumPhrase → Sum
  | .mk first rest => .mk first.tree (SumPhrase.restTrees rest)

def SumPhrase.restTrees : List (SumOperator × ProductPhrase) → List (SumOperator × Product)
  | [] => []
  | (sign, term) :: rest => (sign, term.tree) :: SumPhrase.restTrees rest

def ComparisonPhrase.tree : ComparisonPhrase → Comparison
  | .single operand => .single operand.tree
  | .pair left sign right => .pair left.tree sign right.tree

def EqualityPhrase.tree : EqualityPhrase → Equality
  | .single operand => .single operand.tree
  | .pair left sign right => .pair left.tree sign right.tree

def ConjunctionPhrase.tree : ConjunctionPhrase → Conjunction
  | .mk first rest => .mk first.tree (ConjunctionPhrase.restTrees rest)

def ConjunctionPhrase.restTrees : List EqualityPhrase → List Equality
  | [] => []
  | term :: rest => term.tree :: ConjunctionPhrase.restTrees rest

/-- The tree that a phrase is read as. -/
def DisjunctionPhrase.tree : DisjunctionPhrase → Disjunction
  | .mk first rest => .mk first.tree (DisjunctionPhrase.restTrees rest)

def DisjunctionPhrase.restTrees : List ConjunctionPhrase → List Conjunction
  | [] => []
  | term :: rest => term.tree :: DisjunctionPhrase.restTrees rest

end

/-! ### The range of integers in a phrase -/

mutual

def PrimaryPhrase.InRange : PrimaryPhrase → Prop
  | .group inner => inner.InRange
  | .number written =>
      ∀ value : Nat, integerValue? written = some value →
        IsReadable written.toList ∧ value ≤ Word64.greatest
  | .parameter written => IsReadable (written.toList.drop 1)
  | _ => True

def UnaryPhrase.InRange : UnaryPhrase → Prop
  | .plain operand => operand.InRange
  | .applied sign operand =>
      operand.InRange ∨ sign = .minus ∧ operand.integer? = some leastMagnitude

def ProductPhrase.InRange : ProductPhrase → Prop
  | .single factor => factor.InRange
  | .pair left _ right => left.InRange ∧ right.InRange

def SumPhrase.InRange : SumPhrase → Prop
  | .mk first rest => first.InRange ∧ SumPhrase.RestInRange rest

def SumPhrase.RestInRange : List (SumOperator × ProductPhrase) → Prop
  | [] => True
  | (_, term) :: rest => term.InRange ∧ SumPhrase.RestInRange rest

def ComparisonPhrase.InRange : ComparisonPhrase → Prop
  | .single operand => operand.InRange
  | .pair left _ right => left.InRange ∧ right.InRange

def EqualityPhrase.InRange : EqualityPhrase → Prop
  | .single operand => operand.InRange
  | .pair left _ right => left.InRange ∧ right.InRange

def ConjunctionPhrase.InRange : ConjunctionPhrase → Prop
  | .mk first rest => first.InRange ∧ ConjunctionPhrase.RestInRange rest

def ConjunctionPhrase.RestInRange : List EqualityPhrase → Prop
  | [] => True
  | term :: rest => term.InRange ∧ ConjunctionPhrase.RestInRange rest

/-- Every integer of a phrase is at most 2^63 - 1, or it is 2^63 and a minus sign stands in front; and
no integer and no index of a parameter has more digits than can be read. -/
def DisjunctionPhrase.InRange : DisjunctionPhrase → Prop
  | .mk first rest => first.InRange ∧ DisjunctionPhrase.RestInRange rest

def DisjunctionPhrase.RestInRange : List ConjunctionPhrase → Prop
  | [] => True
  | term :: rest => term.InRange ∧ DisjunctionPhrase.RestInRange rest

end

end Stencil.Expr
