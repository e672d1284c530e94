/-
Module: Stencil.Expr.Evaluator
Purpose: Evaluating expressions on a model and parameters.
Main exports: Evaluation, Setting, Disjunction.evaluate, Expression.evaluate
-/
import Stencil.Expr.Evaluation
import Stencil.Expr.Parser
import Stencil.Property.Resolver

namespace Stencil.Expr

/-- An evaluation can fail, and what its lookups did to the world stays done. -/
abbrev Evaluation (α : Type) := ExceptT Failure (StateM World) α

/-- What the names and parameters of an expression stand for. -/
structure Setting where
  resolver : Resolver
  model : Model
  parameters : List Value := []
deriving Inhabited

/-- The result of an operation as an evaluation. -/
def Evaluation.ofOperation {α : Type} : Except EvaluationError α → Evaluation α
  | .ok value => pure value
  | .error error => throw (.operation error)

/-- A value that may not be had, as an evaluation. -/
def Evaluation.ofResult {α : Type} : Except Failure α → Evaluation α
  | .ok value => pure value
  | .error failure => throw failure

/-- A lookup as an evaluation. -/
def Evaluation.ofLookup {α : Type} (lookup : Lookup α) : Evaluation α :=
  ExceptT.adapt Failure.lookup lookup

open Evaluation

/-- The value of a path. -/
def evaluatePath (setting : Setting) (written : String) : Evaluation Value := do
  if setting.model.isNull then throw (.operation (.noModel written))
  let (base, conversion?) := splitConversion written
  let found ← ofLookup (setting.resolver.getValue setting.model base)
  ofResult (convert (← get) written conversion? found)

/-- The value of a parameter. -/
def evaluateParameter (setting : Setting) (index : Nat) : Evaluation Value :=
  match setting.parameters[index]? with
  | some value => ofResult value.canonical
  | none =>
      throw (.stating (index + 1 : Nat) (.tooFewParameters (index + 1) setting.parameters.length))

mutual

def Primary.evaluate (setting : Setting) : Primary → Evaluation Value
  | .boolean flag => pure (.boolean flag)
  | .integer value => pure (.integer value)
  | .double value => pure (.double value)
  | .text content => pure (.text content)
  | .parameter index => evaluateParameter setting index
  | .path written => evaluatePath setting written
  | .null => pure .null
  | .nested inner => inner.evaluate setting

def Unary.evaluate (setting : Setting) : Unary → Evaluation Value
  | .plain operand => operand.evaluate setting
  | .applied sign operand => do
      let value ← operand.evaluate setting
      ofOperation (applyUnary sign value)

def Product.evaluate (setting : Setting) : Product → Evaluation Value
  | .single factor => factor.evaluate setting
  | .pair left sign right => do
      let one ← left.evaluate setting
      let two ← right.evaluate setting
      ofOperation (applyProduct sign one two)

def Sum.evaluate (setting : Setting) : Sum → Evaluation Value
  | .mk first rest => do
      let value ← first.evaluate setting
      Sum.evaluateRest setting value rest

/-- Go on with a chain of additions and subtractions from the value so far. -/
def Sum.evaluateRest (setting : Setting) (value : Value) :
    List (SumOperator × Product) → Evaluation Value
  | [] => pure value
  | (sign, term) :: rest => do
      let right ← term.evaluate setting
      let total ← ofOperation (applySum sign value right)
      Sum.evaluateRest setting total rest

def Comparison.evaluate (setting : Setting) : Comparison → Evaluation Value
  | .single operand => operand.evaluate setting
  | .pair left sign right => do
      let one ← left.evaluate setting
      let two ← right.evaluate setting
      ofOperation (applyComparison sign one two)

def Equality.evaluate (setting : Setting) : Equality → Evaluation Value
  | .single operand => operand.evaluate setting
  | .pair left sign right => do
      let one ← left.evaluate setting
      let two ← right.evaluate setting
      pure (applyEquality sign one two)

def Conjunction.evaluate (setting : Setting) : Conjunction → Evaluation Value
  | .mk first rest => do
      let value ← first.evaluate setting
      Conjunction.evaluateRest setting value rest

/-- Go on with a conjunction from the value so far.  The next term is evaluated before the value so
far is looked at; the chain ends with the first term that makes it false. -/
def Conjunction.evaluateRest (setting : Setting) (value : Value) :
    List Equality → Evaluation Value
  | [] => pure value
  | term :: rest => do
      let right ← term.evaluate setting
      let holds ← ofOperation (joinAnd value right)
      if holds then Conjunction.evaluateRest setting (.boolean true) rest
      else pure (.boolean false)

/-- The value of an expression. -/
def Disjunction.evaluate (setting : Setting) : Disjunction → Evaluation Value
  | .mk first rest => do
      let value ← first.evaluate setting
      Disjunction.evaluateRest setting value rest

/-- Go on with a disjunction from the value so far.  The next term is evaluated before the value so
far is looked at; the chain ends with the first term that makes it true. -/
def Disjunction.evaluateRest (setting : Setting) (value : Value) :
    List Conjunction → Evaluation Value
  | [] => pure value
  | term :: rest => do
      let right ← term.evaluate setting
      let holds ← ofOperation (joinOr value right)
      if holds then pure (.boolean true)
      else Disjunction.evaluateRest setting (.boolean false) rest

end

/-- The value of an expression. -/
def Expression.evaluate (setting : Setting) (expression : Expression) : Evaluation Value :=
  expression.root.evaluate setting

end Stencil.Expr
