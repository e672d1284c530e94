/-
Module: Stencil.Expr.Tree
Purpose: Expression trees, with one type for each level of precedence.
Main exports: Primary, Unary, Product, Sum, Comparison, Equality, Conjunction, Disjunction, Expression
-/
import Stencil.Number.Double

namespace Stencil.Expr

inductive EqualityOperator where
  | equal
  | unequal
deriving Repr, Inhabited, DecidableEq

inductive ComparisonOperator where
  | greater
  | greaterOrEqual
  | less
  | lessOrEqual
deriving Repr, Inhabited, DecidableEq

inductive SumOperator where
  | plus
  | minus
deriving Repr, Inhabited, DecidableEq

inductive ProductOperator where
  | times
  | divide
  | modulo
deriving Repr, Inhabited, DecidableEq

inductive UnaryOperator where
  | not
  | minus
  | empty
deriving Repr, Inhabited, DecidableEq

mutual

/-- The operands of all operators: literals, parameters, paths and expressions in parentheses. -/
inductive Primary where
  | boolean (flag : Bool)
  | integer (value : Int)
  | double (value : Double)
  | text (content : String)
  | parameter (index : Nat)
  | path (written : String)
  | null
  | nested (inner : Disjunction)

/-- A value with at most one operator in front. -/
inductive Unary where
  | plain (operand : Primary)
  | applied (sign : UnaryOperator) (operand : Primary)

/-- At most one multiplication or division. -/
inductive Product where
  | single (factor : Unary)
  | pair (left : Unary) (sign : ProductOperator) (right : Unary)

/-- A chain of additions and subtractions. -/
inductive Sum where
  | mk (first : Product) (rest : List (SumOperator × Product))

/-- At most one comparison of order. -/
inductive Comparison where
  | single (operand : Sum)
  | pair (left : Sum) (sign : ComparisonOperator) (right : Sum)

/-- At most one comparison for equality. -/
inductive Equality where
  | single (operand : Comparison)
  | pair (left : Comparison) (sign : EqualityOperator) (right : Comparison)

/-- A chain of terms that all have to hold. -/
inductive Conjunction where
  | mk (first : Equality) (rest : List Equality)

/-- A chain of terms of which one has to hold. -/
inductive Disjunction where
  | mk (first : Conjunction) (rest : List Conjunction)

end

deriving instance BEq, Repr, Inhabited for
  Primary, Unary, Product, Sum, Comparison, Equality, Conjunction, Disjunction

mutual

/-- One more than the largest parameter index in a primary value; zero if there is none. -/
def Primary.parameterCount : Primary → Nat
  | .parameter index => index + 1
  | .nested inner => inner.parameterCount
  | _ => 0

def Unary.parameterCount : Unary → Nat
  | .plain operand => operand.parameterCount
  | .applied _ operand => operand.parameterCount

def Product.parameterCount : Product → Nat
  | .single factor => factor.parameterCount
  | .pair left _ right => max left.parameterCount right.parameterCount

def Sum.parameterCount : Sum → Nat
  | .mk first rest => max first.parameterCount (Sum.restParameterCount rest)

def Sum.restParameterCount : List (SumOperator × Product) → Nat
  | [] => 0
  | (_, term) :: rest => max term.parameterCount (Sum.restParameterCount rest)

def Comparison.parameterCount : Comparison → Nat
  | .single operand => operand.parameterCount
  | .pair left _ right => max left.parameterCount right.parameterCount

def Equality.parameterCount : Equality → Nat
  | .single operand => operand.parameterCount
  | .pair left _ right => max left.parameterCount right.parameterCount

def Conjunction.parameterCount : Conjunction → Nat
  | .mk first rest => max first.parameterCount (Conjunction.restParameterCount rest)

def Conjunction.restParameterCount : List Equality → Nat
  | [] => 0
  | term :: rest => max term.parameterCount (Conjunction.restParameterCount rest)

/-- One more than the largest parameter index in an expression, at any depth; zero if there is
none. -/
def Disjunction.parameterCount : Disjunction → Nat
  | .mk first rest => max first.parameterCount (Disjunction.restParameterCount rest)

def Disjunction.restParameterCount : List Conjunction → Nat
  | [] => 0
  | term :: rest => max term.parameterCount (Disjunction.restParameterCount rest)

end

/-- An expression with the text that it was read from. -/
structure Expression where
  root : Disjunction
  source : String
deriving Repr, Inhabited

/-- How many parameters an expression expects: one more than the largest index in it. -/
def Expression.parameterCount (expression : Expression) : Nat :=
  expression.root.parameterCount

end Stencil.Expr
