/-
Module: Stencil.Proofs.Expr.Meaning
Purpose: The value of an expression as a function of what its paths and parameters stand for.
Main exports: Denotation, Disjunction.meaning, Disjunction.evaluate_settles
-/
import Stencil.Expr.Evaluator
import Stencil.Proofs.Expr.Operands
import Stencil.Proofs.Property.Settling

namespace Stencil.Expr

/-- What paths and parameters stand for, and the objects that values are written down with.  Without a
model no path stands for anything. -/
structure Denotation where
  path? : Option (String → Except LookupError Value)
  world : World := {}
  parameters : List Value := []

/-- The result of an operation. -/
def operationResult {α : Type} : Except EvaluationError α → Except Failure α
  | .ok value => .ok value
  | .error error => .error (.operation error)

/-- What a path stands for, converted as its last segment asks. -/
def Denotation.path (names : Denotation) (written : String) : Except Failure Value :=
  match names.path? with
  | none => .error (.operation (.noModel written))
  | some resolve =>
      match resolve (splitConversion written).1 with
      | .error error => .error (.lookup error)
      | .ok found => convert names.world written (splitConversion written).2 found

def Denotation.parameter (names : Denotation) (index : Nat) : Except Failure Value :=
  match names.parameters[index]? with
  | some value => value.canonical
  | none =>
      .error (.stating (index + 1 : Nat) (.tooFewParameters (index + 1) names.parameters.length))

mutual

def Primary.meaning (names : Denotation) : Primary → Except Failure Value
  | .boolean flag => .ok (.boolean flag)
  | .integer value => .ok (.integer value)
  | .double value => .ok (.double value)
  | .text content => .ok (.text content)
  | .parameter index => names.parameter index
  | .path written => names.path written
  | .null => .ok .null
  | .nested inner => inner.meaning names

def Unary.meaning (names : Denotation) : Unary → Except Failure Value
  | .plain operand => operand.meaning names
  | .applied sign operand => do
      let value ← operand.meaning names
      operationResult (applyUnary sign value)

def Product.meaning (names : Denotation) : Product → Except Failure Value
  | .single factor => factor.meaning names
  | .pair left sign right => do
      let one ← left.meaning names
      let two ← right.meaning names
      operationResult (applyProduct sign one two)

def Sum.meaning (names : Denotation) : Sum → Except Failure Value
  | .mk first rest => do
      let value ← first.meaning names
      Sum.restMeaning names value rest

def Sum.restMeaning (names : Denotation) (value : Value) :
    List (SumOperator × Product) → Except Failure Value
  | [] => .ok value
  | (sign, term) :: rest => do
      let right ← term.meaning names
      let total ← operationResult (applySum sign value right)
      Sum.restMeaning names total rest

def Comparison.meaning (names : Denotation) : Comparison → Except Failure Value
  | .single operand => operand.meaning names
  | .pair left sign right => do
      let one ← left.meaning names
      let two ← right.meaning names
      operationResult (applyComparison sign one two)

def Equality.meaning (names : Denotation) : Equality → Except Failure Value
  | .single operand => operand.meaning names
  | .pair left sign right => do
      let one ← left.meaning names
      let two ← right.meaning names
      pure (applyEquality sign one two)

def Conjunction.meaning (names : Denotation) : Conjunction → Except Failure Value
  | .mk first rest => do
      let value ← first.meaning names
      Conjunction.restMeaning names value rest

def Conjunction.restMeaning (names : Denotation) (value : Value) :
    List Equality → Except Failure Value
  | [] => .ok value
  | term :: rest => do
      let right ← term.meaning names
      let holds ← operationResult (joinAnd value right)
      if holds then Conjunction.restMeaning names (.boolean true) rest
      else pure (.boolean false)

/-- The value of an expression, or why it has none. -/
def Disjunction.meaning (names : Denotation) : Disjunction → Except Failure Value
  | .mk first rest => do
      let value ← first.meaning names
      Disjunction.restMeaning names value rest

def Disjunction.restMeaning (names : Denotation) (value : Value) :
    List Conjunction → Except Failure Value
  | [] => .ok value
  | term :: rest => do
      let right ← term.meaning names
      let holds ← operationResult (joinOr value right)
      if holds then pure (.boolean true)
      else Disjunction.restMeaning names (.boolean false) rest

end

/-! ### Evaluation settles -/

variable {cache : Nat} {world : World}

theorem ofOperation_settles {α : Type} (result : Except EvaluationError α) :
    Settles cache world (Evaluation.ofOperation result) (operationResult result) := by
  cases result with
  | ok value => exact Settles.pure value
  | error error => exact Settles.throw _

theorem ofResult_settles {α : Type} (result : Except Failure α) :
    Settles cache world (Evaluation.ofResult result) result := by
  cases result with
  | ok value => exact Settles.pure value
  | error failure => exact Settles.throw failure

theorem evaluateParameter_settles {setting : Setting} {names : Denotation} (index : Nat)
    (same : setting.parameters = names.parameters) :
    Settles cache world (evaluateParameter setting index) (names.parameter index) := by
  unfold evaluateParameter Denotation.parameter
  rw [same]
  cases names.parameters[index]? with
  | some value => exact ofResult_settles value.canonical
  | none => exact Settles.throw _

section Trees

variable {P : Unary → Prop} {setting : Setting} {names : Denotation}

/-- The evaluator has the paths of some operands, and the parameters, from a denotation. -/
structure Agrees (cache : Nat) (world : World) (P : Unary → Prop) (setting : Setting)
    (names : Denotation) : Prop where
  path : ∀ unary written, P unary → unary.operand = .path written →
    Settles cache world (evaluatePath setting written) (names.path written)
  parameters : setting.parameters = names.parameters

mutual

theorem Primary.evaluate_settles (agrees : Agrees cache world P setting names) :
    ∀ (tree : Primary) (unary : Unary), P unary → unary.operand = tree → tree.Every P →
      Settles cache world (tree.evaluate setting) (tree.meaning names)
  | .nested inner, _, _, _, every => inner.evaluate_settles agrees every
  | .path written, unary, holds, same, _ => agrees.path unary written holds same
  | .parameter index, _, _, _, _ => evaluateParameter_settles index agrees.parameters
  | .boolean _, _, _, _, _ | .integer _, _, _, _, _ | .double _, _, _, _, _
  | .text _, _, _, _, _ | .null, _, _, _, _ => Settles.pure _

theorem Unary.evaluate_settles (agrees : Agrees cache world P setting names) :
    ∀ tree : Unary, tree.Every P →
      Settles cache world (tree.evaluate setting) (tree.meaning names)
  | .plain operand, every => operand.evaluate_settles agrees (.plain operand) every.1 rfl every.2
  | .applied sign operand, every => by
      refine Settles.chain ?_ fun value _ => ofOperation_settles _
      exact operand.evaluate_settles agrees (.applied sign operand) every.1 rfl every.2

theorem Product.evaluate_settles (agrees : Agrees cache world P setting names) :
    ∀ tree : Product, tree.Every P →
      Settles cache world (tree.evaluate setting) (tree.meaning names)
  | .single factor, every => factor.evaluate_settles agrees every
  | .pair left sign right, every => by
      refine Settles.chain (left.evaluate_settles agrees every.1) fun one _ => ?_
      exact Settles.chain (right.evaluate_settles agrees every.2) fun two _ =>
        ofOperation_settles _

theorem Sum.evaluate_settles (agrees : Agrees cache world P setting names) :
    ∀ tree : Sum, tree.Every P →
      Settles cache world (tree.evaluate setting) (tree.meaning names)
  | .mk first rest, every => by
      refine Settles.chain (first.evaluate_settles agrees every.1) fun value _ => ?_
      exact Sum.evaluateRest_settles agrees rest value every.2

theorem Sum.evaluateRest_settles (agrees : Agrees cache world P setting names) :
    ∀ (rest : List (SumOperator × Product)) (value : Value), Sum.RestEvery P rest →
      Settles cache world (Sum.evaluateRest setting value rest) (Sum.restMeaning names value rest)
  | [], value, _ => Settles.pure value
  | (sign, term) :: rest, value, every => by
      refine Settles.chain (term.evaluate_settles agrees every.1) fun right _ => ?_
      refine Settles.chain (ofOperation_settles _) fun total _ => ?_
      exact Sum.evaluateRest_settles agrees rest total every.2

theorem Comparison.evaluate_settles (agrees : Agrees cache world P setting names) :
    ∀ tree : Comparison, tree.Every P →
      Settles cache world (tree.evaluate setting) (tree.meaning names)
  | .single operand, every => operand.evaluate_settles agrees every
  | .pair left sign right, every => by
      refine Settles.chain (left.evaluate_settles agrees every.1) fun one _ => ?_
      exact Settles.chain (right.evaluate_settles agrees every.2) fun two _ =>
        ofOperation_settles _

theorem Equality.evaluate_settles (agrees : Agrees cache world P setting names) :
    ∀ tree : Equality, tree.Every P →
      Settles cache world (tree.evaluate setting) (tree.meaning names)
  | .single operand, every => operand.evaluate_settles agrees every
  | .pair left sign right, every => by
      refine Settles.chain (left.evaluate_settles agrees every.1) fun one _ => ?_
      exact Settles.chain (right.evaluate_settles agrees every.2) fun two _ => Settles.pure _

theorem Conjunction.evaluate_settles (agrees : Agrees cache world P setting names) :
    ∀ tree : Conjunction, tree.Every P →
      Settles cache world (tree.evaluate setting) (tree.meaning names)
  | .mk first rest, every => by
      refine Settles.chain (first.evaluate_settles agrees every.1) fun value _ => ?_
      exact Conjunction.evaluateRest_settles agrees rest value every.2

theorem Conjunction.evaluateRest_settles (agrees : Agrees cache world P setting names) :
    ∀ (rest : List Equality) (value : Value), Conjunction.RestEvery P rest →
      Settles cache world (Conjunction.evaluateRest setting value rest)
        (Conjunction.restMeaning names value rest)
  | [], value, _ => Settles.pure value
  | term :: rest, value, every => by
      refine Settles.chain (term.evaluate_settles agrees every.1) fun right _ => ?_
      refine Settles.chain (ofOperation_settles _) fun holds _ => ?_
      cases holds with
      | true => exact Conjunction.evaluateRest_settles agrees rest (.boolean true) every.2
      | false => exact Settles.pure _

/-- An evaluation gives the value of the expression, if its paths are looked up as they are meant. -/
theorem Disjunction.evaluate_settles (agrees : Agrees cache world P setting names) :
    ∀ tree : Disjunction, tree.Every P →
      Settles cache world (tree.evaluate setting) (tree.meaning names)
  | .mk first rest, every => by
      refine Settles.chain (first.evaluate_settles agrees every.1) fun value _ => ?_
      exact Disjunction.evaluateRest_settles agrees rest value every.2

theorem Disjunction.evaluateRest_settles (agrees : Agrees cache world P setting names) :
    ∀ (rest : List Conjunction) (value : Value), Disjunction.RestEvery P rest →
      Settles cache world (Disjunction.evaluateRest setting value rest)
        (Disjunction.restMeaning names value rest)
  | [], value, _ => Settles.pure value
  | term :: rest, value, every => by
      refine Settles.chain (term.evaluate_settles agrees every.1) fun right _ => ?_
      refine Settles.chain (ofOperation_settles _) fun holds _ => ?_
      cases holds with
      | true => exact Settles.pure _
      | false => exact Disjunction.evaluateRest_settles agrees rest (.boolean false) every.2

end

end Trees

/-! ### Failures -/

/-- Whatever a result fails with has a property. -/
def FailsOnly {α : Type} (Q : Failure → Prop) (result : Except Failure α) : Prop :=
  ∀ failure, result = .error failure → Q failure

section Failures

variable {α β : Type} {Q : Failure → Prop} {names : Denotation}

theorem FailsOnly.ok (value : α) : FailsOnly Q (.ok value) :=
  fun _ impossible => nomatch impossible

theorem FailsOnly.bind {first : Except Failure α} {second : α → Except Failure β}
    (here : FailsOnly Q first) (later : ∀ value, FailsOnly Q (second value)) :
    FailsOnly Q (first >>= second) := by
  intro failure failed
  cases first with
  | error error =>
      cases failed
      exact here _ rfl
  | ok value => exact later value failure failed

theorem FailsOnly.operation (operations : ∀ error, Q (.operation error))
    (result : Except EvaluationError α) : FailsOnly Q (operationResult result) := by
  intro failure failed
  cases result with
  | error error =>
      cases failed
      exact operations error
  | ok value => cases failed

mutual

theorem Primary.meaning_fails (operations : ∀ error, Q (.operation error))
    (paths : ∀ written, FailsOnly Q (names.path written))
    (parameters : ∀ index, FailsOnly Q (names.parameter index)) :
    ∀ tree : Primary, FailsOnly Q (tree.meaning names)
  | .nested inner => inner.meaning_fails operations paths parameters
  | .path written => paths written
  | .parameter index => parameters index
  | .boolean _ | .integer _ | .double _ | .text _ | .null => .ok _

theorem Unary.meaning_fails (operations : ∀ error, Q (.operation error))
    (paths : ∀ written, FailsOnly Q (names.path written))
    (parameters : ∀ index, FailsOnly Q (names.parameter index)) :
    ∀ tree : Unary, FailsOnly Q (tree.meaning names)
  | .plain operand => operand.meaning_fails operations paths parameters
  | .applied _ operand =>
      (operand.meaning_fails operations paths parameters).bind fun _ => .operation operations _

theorem Product.meaning_fails (operations : ∀ error, Q (.operation error))
    (paths : ∀ written, FailsOnly Q (names.path written))
    (parameters : ∀ index, FailsOnly Q (names.parameter index)) :
    ∀ tree : Product, FailsOnly Q (tree.meaning names)
  | .single factor => factor.meaning_fails operations paths parameters
  | .pair left _ right =>
      (left.meaning_fails operations paths parameters).bind fun _ =>
        (right.meaning_fails operations paths parameters).bind fun _ => .operation operations _

theorem Sum.meaning_fails (operations : ∀ error, Q (.operation error))
    (paths : ∀ written, FailsOnly Q (names.path written))
    (parameters : ∀ index, FailsOnly Q (names.parameter index)) :
    ∀ tree : Sum, FailsOnly Q (tree.meaning names)
  | .mk first rest =>
      (first.meaning_fails operations paths parameters).bind fun value =>
        Sum.restMeaning_fails operations paths parameters rest value

theorem Sum.restMeaning_fails (operations : ∀ error, Q (.operation error))
    (paths : ∀ written, FailsOnly Q (names.path written))
    (parameters : ∀ index, FailsOnly Q (names.parameter index)) :
    ∀ (rest : List (SumOperator × Product)) (value : Value),
      FailsOnly Q (Sum.restMeaning names value rest)
  | [], value => .ok value
  | (_, term) :: rest, _ =>
      (term.meaning_fails operations paths parameters).bind fun _ =>
        (FailsOnly.operation operations _).bind fun total =>
          Sum.restMeaning_fails operations paths parameters rest total

theorem Comparison.meaning_fails (operations : ∀ error, Q (.operation error))
    (paths : ∀ written, FailsOnly Q (names.path written))
    (parameters : ∀ index, FailsOnly Q (names.parameter index)) :
    ∀ tree : Comparison, FailsOnly Q (tree.meaning names)
  | .single operand => operand.meaning_fails operations paths parameters
  | .pair left _ right =>
      (left.meaning_fails operations paths parameters).bind fun _ =>
        (right.meaning_fails operations paths parameters).bind fun _ => .operation operations _

theorem Equality.meaning_fails (operations : ∀ error, Q (.operation error))
    (paths : ∀ written, FailsOnly Q (names.path written))
    (parameters : ∀ index, FailsOnly Q (names.parameter index)) :
    ∀ tree : Equality, FailsOnly Q (tree.meaning names)
  | .single operand => operand.meaning_fails operations paths parameters
  | .pair left _ right =>
      (left.meaning_fails operations paths parameters).bind fun _ =>
        (right.meaning_fails operations paths parameters).bind fun _ => .ok _

theorem Conjunction.meaning_fails (operations : ∀ error, Q (.operation error))
    (paths : ∀ written, FailsOnly Q (names.path written))
    (parameters : ∀ index, FailsOnly Q (names.parameter index)) :
    ∀ tree : Conjunction, FailsOnly Q (tree.meaning names)
  | .mk first rest =>
      (first.meaning_fails operations paths parameters).bind fun value =>
        Conjunction.restMeaning_fails operations paths parameters rest value

theorem Conjunction.restMeaning_fails (operations : ∀ error, Q (.operation error))
    (paths : ∀ written, FailsOnly Q (names.path written))
    (parameters : ∀ index, FailsOnly Q (names.parameter index)) :
    ∀ (rest : List Equality) (value : Value),
      FailsOnly Q (Conjunction.restMeaning names value rest)
  | [], value => .ok value
  | term :: rest, _ => by
      refine (term.meaning_fails operations paths parameters).bind fun _ => ?_
      refine (FailsOnly.operation operations _).bind fun holds => ?_
      cases holds with
      | true => exact Conjunction.restMeaning_fails operations paths parameters rest _
      | false => exact .ok _

/-- An expression fails as its paths or parameters fail, or in an operation. -/
theorem Disjunction.meaning_fails (operations : ∀ error, Q (.operation error))
    (paths : ∀ written, FailsOnly Q (names.path written))
    (parameters : ∀ index, FailsOnly Q (names.parameter index)) :
    ∀ tree : Disjunction, FailsOnly Q (tree.meaning names)
  | .mk first rest =>
      (first.meaning_fails operations paths parameters).bind fun value =>
        Disjunction.restMeaning_fails operations paths parameters rest value

theorem Disjunction.restMeaning_fails (operations : ∀ error, Q (.operation error))
    (paths : ∀ written, FailsOnly Q (names.path written))
    (parameters : ∀ index, FailsOnly Q (names.parameter index)) :
    ∀ (rest : List Conjunction) (value : Value),
      FailsOnly Q (Disjunction.restMeaning names value rest)
  | [], value => .ok value
  | term :: rest, _ => by
      refine (term.meaning_fails operations paths parameters).bind fun _ => ?_
      refine (FailsOnly.operation operations _).bind fun holds => ?_
      cases holds with
      | true => exact .ok _
      | false => exact Disjunction.restMeaning_fails operations paths parameters rest _

end

end Failures

end Stencil.Expr
