/-
Module: Stencil.Proofs.Expr.Operands
Purpose: Properties that all operands of an expression have, at any depth.
Main exports: Unary.operand, Disjunction.Every
-/
import Stencil.Expr.Tree

namespace Stencil.Expr

/-- The value that an operator may stand in front of. -/
def Unary.operand : Unary → Primary
  | .plain operand => operand
  | .applied _ operand => operand

mutual

def Primary.Every (P : Unary → Prop) : Primary → Prop
  | .nested inner => inner.Every P
  | _ => True

def Unary.Every (P : Unary → Prop) : Unary → Prop
  | .plain operand => P (.plain operand) ∧ operand.Every P
  | .applied sign operand => P (.applied sign operand) ∧ operand.Every P

def Product.Every (P : Unary → Prop) : Product → Prop
  | .single factor => factor.Every P
  | .pair left _ right => left.Every P ∧ right.Every P

def Sum.Every (P : Unary → Prop) : Sum → Prop
  | .mk first rest => first.Every P ∧ Sum.RestEvery P rest

def Sum.RestEvery (P : Unary → Prop) : List (SumOperator × Product) → Prop
  | [] => True
  | (_, term) :: rest => term.Every P ∧ Sum.RestEvery P rest

def Comparison.Every (P : Unary → Prop) : Comparison → Prop
  | .single operand => operand.Every P
  | .pair left _ right => left.Every P ∧ right.Every P

def Equality.Every (P : Unary → Prop) : Equality → Prop
  | .single operand => operand.Every P
  | .pair left _ right => left.Every P ∧ right.Every P

def Conjunction.Every (P : Unary → Prop) : Conjunction → Prop
  | .mk first rest => first.Every P ∧ Conjunction.RestEvery P rest

def Conjunction.RestEvery (P : Unary → Prop) : List Equality → Prop
  | [] => True
  | term :: rest => term.Every P ∧ Conjunction.RestEvery P rest

/-- Every value of an expression, with the operator in front of it, has a property. -/
def Disjunction.Every (P : Unary → Prop) : Disjunction → Prop
  | .mk first rest => first.Every P ∧ Disjunction.RestEvery P rest

def Disjunction.RestEvery (P : Unary → Prop) : List Conjunction → Prop
  | [] => True
  | term :: rest => term.Every P ∧ Disjunction.RestEvery P rest

end

mutual

theorem Primary.every_true : ∀ tree : Primary, tree.Every fun _ => True
  | .nested inner => inner.every_true
  | .boolean _ | .integer _ | .double _ | .text _ | .parameter _ | .path _ | .null => trivial

theorem Unary.every_true : ∀ tree : Unary, tree.Every fun _ => True
  | .plain operand | .applied _ operand => ⟨trivial, operand.every_true⟩

theorem Product.every_true : ∀ tree : Product, tree.Every fun _ => True
  | .single factor => factor.every_true
  | .pair left _ right => ⟨left.every_true, right.every_true⟩

theorem Sum.every_true : ∀ tree : Sum, tree.Every fun _ => True
  | .mk first rest => ⟨first.every_true, Sum.restEvery_true rest⟩

theorem Sum.restEvery_true : ∀ rest : List (SumOperator × Product), Sum.RestEvery (fun _ => True) rest
  | [] => trivial
  | (_, term) :: rest => ⟨term.every_true, Sum.restEvery_true rest⟩

theorem Comparison.every_true : ∀ tree : Comparison, tree.Every fun _ => True
  | .single operand => operand.every_true
  | .pair left _ right => ⟨left.every_true, right.every_true⟩

theorem Equality.every_true : ∀ tree : Equality, tree.Every fun _ => True
  | .single operand => operand.every_true
  | .pair left _ right => ⟨left.every_true, right.every_true⟩

theorem Conjunction.every_true : ∀ tree : Conjunction, tree.Every fun _ => True
  | .mk first rest => ⟨first.every_true, Conjunction.restEvery_true rest⟩

theorem Conjunction.restEvery_true : ∀ rest : List Equality, Conjunction.RestEvery (fun _ => True) rest
  | [] => trivial
  | term :: rest => ⟨term.every_true, Conjunction.restEvery_true rest⟩

/-- Nothing is asked of the operands. -/
theorem Disjunction.every_true : ∀ tree : Disjunction, tree.Every fun _ => True
  | .mk first rest => ⟨first.every_true, Disjunction.restEvery_true rest⟩

theorem Disjunction.restEvery_true : ∀ rest : List Conjunction,
    Disjunction.RestEvery (fun _ => True) rest
  | [] => trivial
  | term :: rest => ⟨term.every_true, Disjunction.restEvery_true rest⟩

end

end Stencil.Expr
