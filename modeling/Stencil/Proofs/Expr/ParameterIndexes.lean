/-
Module: Stencil.Proofs.Expr.ParameterIndexes
Purpose: The parameters that occur in an expression, at any depth, and how many it therefore expects.
Main exports: Disjunction.parameterIndexes, expectedCount, expectedCount_eq_max?,
  Disjunction.parameterCount_eq
-/
import Stencil.Expr.Tree

namespace Stencil.Expr

/-! ### The parameters of a tree -/

mutual

/-- The indexes of the parameters in a value, in the order of the text. -/
def Primary.parameterIndexes : Primary → List Nat
  | .parameter index => [index]
  | .nested inner => inner.parameterIndexes
  | _ => []

def Unary.parameterIndexes : Unary → List Nat
  | .plain operand => operand.parameterIndexes
  | .applied _ operand => operand.parameterIndexes

def Product.parameterIndexes : Product → List Nat
  | .single factor => factor.parameterIndexes
  | .pair left _ right => left.parameterIndexes ++ right.parameterIndexes

def Sum.parameterIndexes : Sum → List Nat
  | .mk first rest => first.parameterIndexes ++ Sum.restIndexes rest

def Sum.restIndexes : List (SumOperator × Product) → List Nat
  | [] => []
  | (_, term) :: rest => term.parameterIndexes ++ Sum.restIndexes rest

def Comparison.parameterIndexes : Comparison → List Nat
  | .single operand => operand.parameterIndexes
  | .pair left _ right => left.parameterIndexes ++ right.parameterIndexes

def Equality.parameterIndexes : Equality → List Nat
  | .single operand => operand.parameterIndexes
  | .pair left _ right => left.parameterIndexes ++ right.parameterIndexes

def Conjunction.parameterIndexes : Conjunction → List Nat
  | .mk first rest => first.parameterIndexes ++ Conjunction.restIndexes rest

def Conjunction.restIndexes : List Equality → List Nat
  | [] => []
  | term :: rest => term.parameterIndexes ++ Conjunction.restIndexes rest

/-- The indexes of the parameters in an expression, at any depth. -/
def Disjunction.parameterIndexes : Disjunction → List Nat
  | .mk first rest => first.parameterIndexes ++ Disjunction.restIndexes rest

def Disjunction.restIndexes : List Conjunction → List Nat
  | [] => []
  | term :: rest => term.parameterIndexes ++ Disjunction.restIndexes rest

end

theorem Sum.restIndexes_eq (rest : List (SumOperator × Product)) :
    Sum.restIndexes rest = rest.flatMap fun link => link.2.parameterIndexes := by
  induction rest with
  | nil => rfl
  | cons link rest ih => rw [Sum.restIndexes, List.flatMap_cons, ih]

theorem Conjunction.restIndexes_eq (rest : List Equality) :
    Conjunction.restIndexes rest = rest.flatMap Equality.parameterIndexes := by
  induction rest with
  | nil => rfl
  | cons term rest ih => rw [Conjunction.restIndexes, List.flatMap_cons, ih]

theorem Disjunction.restIndexes_eq (rest : List Conjunction) :
    Disjunction.restIndexes rest = rest.flatMap Conjunction.parameterIndexes := by
  induction rest with
  | nil => rfl
  | cons term rest ih => rw [Disjunction.restIndexes, List.flatMap_cons, ih]

/-! ### How many are expected -/

/-- How many parameters there have to be for all these indexes. -/
def expectedCount (indexes : List Nat) : Nat :=
  indexes.foldr (fun index count => max (index + 1) count) 0

theorem expectedCount_append (front rest : List Nat) :
    expectedCount (front ++ rest) = max (expectedCount front) (expectedCount rest) := by
  induction front with
  | nil => exact (Nat.zero_max _).symm
  | cons index front ih =>
      change max (index + 1) (expectedCount (front ++ rest)) =
        max (max (index + 1) (expectedCount front)) (expectedCount rest)
      rw [ih, Nat.max_assoc]

/-- None if there is no index, and otherwise one more than the greatest. -/
theorem expectedCount_eq_max? (indexes : List Nat) :
    expectedCount indexes = indexes.max?.elim 0 (· + 1) := by
  induction indexes with
  | nil => rfl
  | cons index rest ih =>
      change max (index + 1) (expectedCount rest) = _
      rw [ih, List.max?_cons]
      cases rest.max? with
      | none => rfl
      | some greatest => exact Nat.succ_max_succ index greatest

mutual

theorem Primary.parameterCount_eq :
    ∀ tree : Primary, tree.parameterCount = expectedCount tree.parameterIndexes
  | .nested inner => inner.parameterCount_eq
  | .parameter _ | .boolean _ | .integer _ | .double _ | .text _ | .path _ | .null => rfl

theorem Unary.parameterCount_eq :
    ∀ tree : Unary, tree.parameterCount = expectedCount tree.parameterIndexes
  | .plain operand | .applied _ operand => operand.parameterCount_eq

theorem Product.parameterCount_eq :
    ∀ tree : Product, tree.parameterCount = expectedCount tree.parameterIndexes
  | .single factor => factor.parameterCount_eq
  | .pair left _ right => by
      rw [Product.parameterCount, Product.parameterIndexes, expectedCount_append,
        left.parameterCount_eq, right.parameterCount_eq]

theorem Sum.parameterCount_eq :
    ∀ tree : Sum, tree.parameterCount = expectedCount tree.parameterIndexes
  | .mk first rest => by
      rw [Sum.parameterCount, Sum.parameterIndexes, expectedCount_append, first.parameterCount_eq,
        Sum.restCount_eq rest]

theorem Sum.restCount_eq : ∀ rest : List (SumOperator × Product),
    Sum.restParameterCount rest = expectedCount (Sum.restIndexes rest)
  | [] => rfl
  | (_, term) :: rest => by
      rw [Sum.restParameterCount, Sum.restIndexes, expectedCount_append, term.parameterCount_eq,
        Sum.restCount_eq rest]

theorem Comparison.parameterCount_eq :
    ∀ tree : Comparison, tree.parameterCount = expectedCount tree.parameterIndexes
  | .single operand => operand.parameterCount_eq
  | .pair left _ right => by
      rw [Comparison.parameterCount, Comparison.parameterIndexes, expectedCount_append,
        left.parameterCount_eq, right.parameterCount_eq]

theorem Equality.parameterCount_eq :
    ∀ tree : Equality, tree.parameterCount = expectedCount tree.parameterIndexes
  | .single operand => operand.parameterCount_eq
  | .pair left _ right => by
      rw [Equality.parameterCount, Equality.parameterIndexes, expectedCount_append,
        left.parameterCount_eq, right.parameterCount_eq]

theorem Conjunction.parameterCount_eq :
    ∀ tree : Conjunction, tree.parameterCount = expectedCount tree.parameterIndexes
  | .mk first rest => by
      rw [Conjunction.parameterCount, Conjunction.parameterIndexes, expectedCount_append,
        first.parameterCount_eq, Conjunction.restCount_eq rest]

theorem Conjunction.restCount_eq : ∀ rest : List Equality,
    Conjunction.restParameterCount rest = expectedCount (Conjunction.restIndexes rest)
  | [] => rfl
  | term :: rest => by
      rw [Conjunction.restParameterCount, Conjunction.restIndexes, expectedCount_append,
        term.parameterCount_eq, Conjunction.restCount_eq rest]

/-- An expression expects as many parameters as the indexes that occur in it ask for. -/
theorem Disjunction.parameterCount_eq :
    ∀ tree : Disjunction, tree.parameterCount = expectedCount tree.parameterIndexes
  | .mk first rest => by
      rw [Disjunction.parameterCount, Disjunction.parameterIndexes, expectedCount_append,
        first.parameterCount_eq, Disjunction.restCount_eq rest]

theorem Disjunction.restCount_eq : ∀ rest : List Conjunction,
    Disjunction.restParameterCount rest = expectedCount (Disjunction.restIndexes rest)
  | [] => rfl
  | term :: rest => by
      rw [Disjunction.restParameterCount, Disjunction.restIndexes, expectedCount_append,
        term.parameterCount_eq, Disjunction.restCount_eq rest]

end

end Stencil.Expr
