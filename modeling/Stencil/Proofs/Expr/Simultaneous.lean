/-
Module: Stencil.Proofs.Expr.Simultaneous
Purpose: Evaluations of one expression in two settings go in lockstep, and their values stay in a
  set that the operations do not leave.
Main exports: Closed, EvaluationError.OfOperation, Abreast, Simultaneous,
  Disjunction.evaluate_abreast,
  Disjunction.evaluate_lockstep, Expression.evaluate_lockstep
-/
import Stencil.Expr.Evaluator
import Stencil.Proofs.Expr.Operands
import Stencil.Proofs.Property.Lockstep

namespace Stencil.Expr

/-- A set of values that has the constants of the language and that no operation leaves. -/
structure Closed (Q : Value → Prop) : Prop where
  null : Q .null
  boolean : ∀ flag, Q (.boolean flag)
  double : ∀ value, Q (.double value)
  text : ∀ content, Q (.text content)
  unary : ∀ {sign : UnaryOperator} {value result : Value}, Q value →
    applyUnary sign value = .ok result → Q result
  product : ∀ {sign : ProductOperator} {left right result : Value}, Q left → Q right →
    applyProduct sign left right = .ok result → Q result
  sum : ∀ {sign : SumOperator} {left right result : Value}, Q left → Q right →
    applySum sign left right = .ok result → Q result

/-- All values together are left by no operation. -/
theorem Closed.all : Closed fun _ => True :=
  ⟨trivial, fun _ => trivial, fun _ => trivial, fun _ => trivial, fun _ _ => trivial,
    fun _ _ _ => trivial, fun _ _ _ => trivial⟩

/-! ### What the operations fail with -/

/-- An error that is found in the values of operands, not in a missing model or parameter. -/
def EvaluationError.OfOperation : EvaluationError → Prop
  | .noModel _ | .tooFewParameters _ _ => False
  | _ => True

/-- An operation that fails does so with an error about its operands. -/
abbrev OperandFaults {α : Type} (result : Except EvaluationError α) : Prop :=
  Ends (fun _ => True) EvaluationError.OfOperation result

theorem applyUnary_faults (sign : UnaryOperator) (value : Value) :
    OperandFaults (applyUnary sign value) := by
  unfold applyUnary
  split <;> trivial

theorem applyProduct_faults (sign : ProductOperator) (left right : Value) :
    OperandFaults (applyProduct sign left right) := by
  unfold applyProduct
  split
  · unfold multiplyIntegers
    split
    · trivial
    · split <;> trivial
    · split <;> trivial
  · trivial
  · split <;> trivial

theorem applySum_faults (sign : SumOperator) (left right : Value) :
    OperandFaults (applySum sign left right) := by
  unfold applySum
  split
  · trivial
  · trivial
  · split
    · trivial
    · split
      · trivial
      · split <;> trivial

theorem applyComparison_faults (sign : ComparisonOperator) (left right : Value) :
    OperandFaults (applyComparison sign left right) := by
  unfold applyComparison
  split
  · trivial
  · trivial
  · split <;> trivial

theorem joinOr_faults (left right : Value) : OperandFaults (joinOr left right) := by
  unfold joinOr
  split
  · trivial
  · split <;> trivial

theorem joinAnd_faults (left right : Value) : OperandFaults (joinAnd left right) := by
  unfold joinAnd
  split
  · trivial
  · split <;> trivial

/-! ### What values from outside fail with -/

/-- A failure that is found in a value from outside: an error about it, or too many digits. -/
def Failure.OfOperand : Failure → Prop
  | .operation error => error.OfOperation
  | .lookup error => ∃ fault : DigitFault, error = .raised fault.raised

/-- A failure to write a value down. -/
def Failure.OfText (world : World) (value : Value) (failure : Failure) : Prop :=
  ∃ raised, world.text value = .error raised ∧ failure = .ofRaised raised

theorem stating_faults {value : Int} {error : EvaluationError} (about : error.OfOperation) :
    (Failure.stating value error).OfOperand := by
  unfold Failure.stating
  split
  · exact about
  · exact ⟨.writing, rfl⟩

theorem canonicalInteger_faults (value : Int) :
    Ends (fun _ => True) Failure.OfOperand (canonicalInteger value) := by
  unfold canonicalInteger
  split
  · trivial
  · exact stating_faults trivial

theorem canonical_faults (value : Value) :
    Ends (fun _ => True) Failure.OfOperand value.canonical := by
  cases value with
  | integer amount | foreignInteger amount => exact canonicalInteger_faults amount
  | _ => trivial

theorem textToInteger_faults (path written : String) :
    Ends (fun _ => True) Failure.OfOperand (textToInteger path written) := by
  unfold textToInteger
  split
  · simp only
    split
    · exact ⟨.reading _, rfl⟩
    · split <;> trivial
  · trivial

theorem toInteger_faults (path : String) (value : Value) :
    Ends (fun _ => True) Failure.OfOperand (toInteger path value) := by
  cases value with
  | integer amount | foreignInteger amount => exact canonicalInteger_faults amount
  | text written => exact textToInteger_faults path written
  | _ => trivial

theorem integerToDouble_faults (value : Int) :
    Ends (fun _ => True) Failure.OfOperand (integerToDouble value) := by
  have faults := canonicalInteger_faults value
  unfold integerToDouble
  cases ends : canonicalInteger value with
  | ok _ => trivial
  | error failure => exact faults.error ends

theorem toDouble_faults (path : String) (value : Value) :
    Ends (fun _ => True) Failure.OfOperand (toDouble path value) := by
  cases value with
  | integer amount | foreignInteger amount => exact integerToDouble_faults amount
  | text written =>
      unfold toDouble
      simp only
      split <;> trivial
  | _ => trivial

theorem toText_faults (world : World) (value : Value) :
    Ends (fun _ => True) (Failure.OfText world value) (toText world value) := by
  unfold toText
  cases written : world.text value with
  | ok content => trivial
  | error raised => exact ⟨raised, written, rfl⟩

/-- A value that is looked up fails in itself, or because it cannot be written down. -/
theorem convert_faults (world : World) (path : String) (conversion? : Option Conversion)
    (value : Value) :
    Ends (fun _ => True) (fun failure => failure.OfOperand ∨ failure.OfText world value)
      (convert world path conversion? value) := by
  have own {result : Except Failure Value}
      (faults : Ends (fun _ => True) Failure.OfOperand result) :
      Ends (fun _ => True) (fun failure => failure.OfOperand ∨ failure.OfText world value) result :=
    faults.mono (fun _ => id) fun _ => .inl
  cases conversion? with
  | none => exact own (canonical_faults value)
  | some conversion =>
      cases conversion with
      | toInteger => exact own (toInteger_faults path value)
      | toDouble => exact own (toDouble_faults path value)
      | toText => exact (toText_faults world value).mono (fun _ => id) fun _ => .inr

/-- Where a value is written alike, it is converted alike. -/
theorem convert_congr {world other : World} {value : Value}
    (same : other.text value = world.text value) (path : String)
    (conversion? : Option Conversion) :
    convert other path conversion? value = convert world path conversion? value := by
  cases conversion? with
  | none => rfl
  | some conversion =>
      cases conversion with
      | toText =>
          show toText other value = toText world value
          unfold toText
          rw [same]
      | _ => rfl

/-! ### Two settings -/

/-- Two settings give the same meaning to the integers and paths of an expression. -/
structure Matching (R : World → World → Prop) (Q : Value → Prop) (E : Failure → Prop)
    (P : Unary → Prop) (setting setting' : Setting) : Prop where
  closed : Closed Q
  integer : ∀ unary value, P unary → unary.operand = .integer value → Q (.integer value)
  path : ∀ unary written, P unary → unary.operand = .path written →
    Lockstep R Q E (evaluatePath setting written) (evaluatePath setting' written)

/-- Two settings give the same meaning to the operands that an expression has, and allow the
failures of operations on their values. -/
structure Abreast (R : World → World → Prop) (Q : Value → Prop) (E : Failure → Prop)
    (P : Unary → Prop) (setting setting' : Setting) : Prop
    extends Matching R Q E P setting setting' where
  operation : ∀ error, error.OfOperation → E (.operation error)
  parameter : ∀ unary index, P unary → unary.operand = .parameter index →
    Lockstep R Q E (evaluateParameter setting index) (evaluateParameter setting' index)

/-- Two settings give the same meaning to the operands of an expression and to all parameters, and
allow the failures of operations. -/
structure Simultaneous (R : World → World → Prop) (Q : Value → Prop) (E : Failure → Prop)
    (P : Unary → Prop) (setting setting' : Setting) : Prop
    extends Matching R Q E P setting setting' where
  operation : ∀ error, E (.operation error)
  parameter : ∀ index,
    Lockstep R Q E (evaluateParameter setting index) (evaluateParameter setting' index)

variable {R : World → World → Prop} {Q : Value → Prop} {E : Failure → Prop} {P : Unary → Prop}
  {setting setting' : Setting}

theorem Simultaneous.abreast (both : Simultaneous R Q E P setting setting') :
    Abreast R Q E P setting setting' where
  toMatching := both.toMatching
  operation error _ := both.operation error
  parameter _ index _ _ := both.parameter index

/-- Where failures about operands are allowed, so is every end of an operation. -/
theorem OperandFaults.lockstep {α : Type} {A : α → Prop} {result : Except EvaluationError α}
    (faults : OperandFaults result) (operation : ∀ error, error.OfOperation → E (.operation error))
    (allowed : ∀ value, result = .ok value → A value) :
    Lockstep R A E (Evaluation.ofOperation result) (Evaluation.ofOperation result) := by
  cases result with
  | ok value => exact Lockstep.pure (allowed value rfl)
  | error error => exact Lockstep.throw (operation error faults)

theorem ofResult_lockstep {α : Type} {A : α → Prop} {result : Except Failure α}
    (ends : Ends A E result) :
    Lockstep R A E (Evaluation.ofResult result) (Evaluation.ofResult result) := by
  cases result with
  | ok value => exact Lockstep.pure ends
  | error failure => exact Lockstep.throw ends

/-- A path is looked up once, and then what has been found is converted. -/
theorem evaluatePath_run {written : String} (present : setting.model.isNull = false)
    {world after : World} {result : Except LookupError Value}
    (looked : (setting.resolver.getValue setting.model (splitConversion written).1).run.run world =
      (result, after)) :
    (evaluatePath setting written).run.run world =
      ((result.mapError .lookup).bind (convert after written (splitConversion written).2), after) := by
  have adapted (work : Lookup Value) : (Evaluation.ofLookup work).run.run world =
      ((work.run.run world).1.mapError .lookup, (work.run.run world).2) := rfl
  have found := adapted (setting.resolver.getValue setting.model (splitConversion written).1)
  rw [looked] at found
  unfold evaluatePath
  simp only [present, Bool.false_eq_true, if_false]
  cases result with
  | error error => exact run_bind_error found
  | ok value =>
      refine (run_bind_ok found).trans ?_
      have seen : (get : Evaluation World).run.run after = (.ok after, after) := rfl
      refine (run_bind_ok seen).trans ?_
      have ends : (Except.mapError Failure.lookup (.ok value)).bind
          (convert after written (splitConversion written).2) =
        convert after written (splitConversion written).2 value := rfl
      rw [ends]
      cases convert after written (splitConversion written).2 value <;> rfl

/-- A path is evaluated in lockstep if it is looked up so, and values are written alike. -/
theorem evaluatePath_lockstep_of {A : Value → Prop} {written : String}
    (present : setting.model.isNull = false) (present' : setting'.model.isNull = false)
    (texts : ∀ world world', R world world' → ∀ value, A value → world'.text value = world.text value)
    (looked : Lockstep R A E (Evaluation.ofLookup (setting.resolver.getValue setting.model
        (splitConversion written).1))
      (Evaluation.ofLookup (setting'.resolver.getValue setting'.model (splitConversion written).1)))
    (converts : ∀ world world', R world world' → ∀ value, A value →
      Ends Q E (convert world written (splitConversion written).2 value)) :
    Lockstep R Q E (evaluatePath setting written) (evaluatePath setting' written) := by
  unfold evaluatePath
  simp only [present, present', Bool.false_eq_true, if_false]
  refine Lockstep.bind looked fun found allowed => ?_
  refine Lockstep.get fun world world' related => ?_
  rw [convert_congr (texts world world' related found allowed)]
  exact ofResult_lockstep (converts world world' related found allowed)

theorem applyComparison_boolean {sign : ComparisonOperator} {left right result : Value}
    (compared : applyComparison sign left right = .ok result) : ∃ flag, result = .boolean flag := by
  unfold applyComparison at compared
  split at compared
  · cases compared
    exact ⟨_, rfl⟩
  · cases compared
    exact ⟨_, rfl⟩
  · split at compared <;> cases compared

theorem applyEquality_boolean (sign : EqualityOperator) (left right : Value) :
    ∃ flag, applyEquality sign left right = .boolean flag := by
  cases sign with
  | equal => exact ⟨_, rfl⟩
  | unequal => exact ⟨_, rfl⟩

mutual

theorem Primary.evaluate_abreast (both : Abreast R Q E P setting setting') :
    ∀ (tree : Primary) (unary : Unary), P unary → unary.operand = tree → tree.Every P →
      Lockstep R Q E (tree.evaluate setting) (tree.evaluate setting')
  | .nested inner, _, _, _, every => inner.evaluate_abreast both every
  | .path written, unary, holds, same, _ => both.path unary written holds same
  | .parameter index, unary, holds, same, _ => both.parameter unary index holds same
  | .integer value, unary, holds, same, _ => Lockstep.pure (both.integer unary value holds same)
  | .boolean flag, _, _, _, _ => Lockstep.pure (both.closed.boolean flag)
  | .double value, _, _, _, _ => Lockstep.pure (both.closed.double value)
  | .text content, _, _, _, _ => Lockstep.pure (both.closed.text content)
  | .null, _, _, _, _ => Lockstep.pure both.closed.null

theorem Unary.evaluate_abreast (both : Abreast R Q E P setting setting') :
    ∀ tree : Unary, tree.Every P →
      Lockstep R Q E (tree.evaluate setting) (tree.evaluate setting')
  | .plain operand, every => operand.evaluate_abreast both (.plain operand) every.1 rfl every.2
  | .applied sign operand, every => by
      refine Lockstep.bind
        (operand.evaluate_abreast both (.applied sign operand) every.1 rfl every.2) ?_
      intro value allowed
      exact (applyUnary_faults sign value).lockstep both.operation fun _ =>
        both.closed.unary allowed

theorem Product.evaluate_abreast (both : Abreast R Q E P setting setting') :
    ∀ tree : Product, tree.Every P →
      Lockstep R Q E (tree.evaluate setting) (tree.evaluate setting')
  | .single factor, every => factor.evaluate_abreast both every
  | .pair left sign right, every => by
      refine Lockstep.bind (left.evaluate_abreast both every.1) fun one allowed => ?_
      refine Lockstep.bind (right.evaluate_abreast both every.2) fun two allowed' => ?_
      exact (applyProduct_faults sign one two).lockstep both.operation fun _ =>
        both.closed.product allowed allowed'

theorem Sum.evaluate_abreast (both : Abreast R Q E P setting setting') :
    ∀ tree : Sum, tree.Every P →
      Lockstep R Q E (tree.evaluate setting) (tree.evaluate setting')
  | .mk first rest, every => by
      refine Lockstep.bind (first.evaluate_abreast both every.1) fun value allowed => ?_
      exact Sum.evaluateRest_abreast both rest value allowed every.2

theorem Sum.evaluateRest_abreast (both : Abreast R Q E P setting setting') :
    ∀ (rest : List (SumOperator × Product)) (value : Value), Q value → Sum.RestEvery P rest →
      Lockstep R Q E (Sum.evaluateRest setting value rest) (Sum.evaluateRest setting' value rest)
  | [], _, allowed, _ => Lockstep.pure allowed
  | (sign, term) :: rest, value, allowed, every => by
      refine Lockstep.bind (term.evaluate_abreast both every.1) fun right allowed' => ?_
      refine Lockstep.bind ((applySum_faults sign value right).lockstep both.operation fun _ =>
        both.closed.sum allowed allowed') ?_
      intro total totalAllowed
      exact Sum.evaluateRest_abreast both rest total totalAllowed every.2

theorem Comparison.evaluate_abreast (both : Abreast R Q E P setting setting') :
    ∀ tree : Comparison, tree.Every P →
      Lockstep R Q E (tree.evaluate setting) (tree.evaluate setting')
  | .single operand, every => operand.evaluate_abreast both every
  | .pair left sign right, every => by
      refine Lockstep.bind (left.evaluate_abreast both every.1) fun one _ => ?_
      refine Lockstep.bind (right.evaluate_abreast both every.2) fun two _ => ?_
      refine (applyComparison_faults sign one two).lockstep both.operation fun result compared => ?_
      obtain ⟨flag, rfl⟩ := applyComparison_boolean compared
      exact both.closed.boolean flag

theorem Equality.evaluate_abreast (both : Abreast R Q E P setting setting') :
    ∀ tree : Equality, tree.Every P →
      Lockstep R Q E (tree.evaluate setting) (tree.evaluate setting')
  | .single operand, every => operand.evaluate_abreast both every
  | .pair left sign right, every => by
      refine Lockstep.bind (left.evaluate_abreast both every.1) fun one _ => ?_
      refine Lockstep.bind (right.evaluate_abreast both every.2) fun two _ => ?_
      obtain ⟨flag, same⟩ := applyEquality_boolean sign one two
      rw [same]
      exact Lockstep.pure (both.closed.boolean flag)

theorem Conjunction.evaluate_abreast (both : Abreast R Q E P setting setting') :
    ∀ tree : Conjunction, tree.Every P →
      Lockstep R Q E (tree.evaluate setting) (tree.evaluate setting')
  | .mk first rest, every => by
      refine Lockstep.bind (first.evaluate_abreast both every.1) fun value allowed => ?_
      exact Conjunction.evaluateRest_abreast both rest value allowed every.2

theorem Conjunction.evaluateRest_abreast (both : Abreast R Q E P setting setting') :
    ∀ (rest : List Equality) (value : Value), Q value → Conjunction.RestEvery P rest →
      Lockstep R Q E (Conjunction.evaluateRest setting value rest)
        (Conjunction.evaluateRest setting' value rest)
  | [], _, allowed, _ => Lockstep.pure allowed
  | term :: rest, value, _, every => by
      refine Lockstep.bind (term.evaluate_abreast both every.1) fun right _ => ?_
      refine Lockstep.bind
        ((joinAnd_faults value right).lockstep both.operation fun _ _ => trivial) ?_
      intro holds _
      cases holds with
      | true => exact Conjunction.evaluateRest_abreast both rest _ (both.closed.boolean _) every.2
      | false => exact Lockstep.pure (both.closed.boolean false)

/-- An expression is evaluated in lockstep in settings that agree on the operands that it has. -/
theorem Disjunction.evaluate_abreast (both : Abreast R Q E P setting setting') :
    ∀ tree : Disjunction, tree.Every P →
      Lockstep R Q E (tree.evaluate setting) (tree.evaluate setting')
  | .mk first rest, every => by
      refine Lockstep.bind (first.evaluate_abreast both every.1) fun value allowed => ?_
      exact Disjunction.evaluateRest_abreast both rest value allowed every.2

theorem Disjunction.evaluateRest_abreast (both : Abreast R Q E P setting setting') :
    ∀ (rest : List Conjunction) (value : Value), Q value → Disjunction.RestEvery P rest →
      Lockstep R Q E (Disjunction.evaluateRest setting value rest)
        (Disjunction.evaluateRest setting' value rest)
  | [], _, allowed, _ => Lockstep.pure allowed
  | term :: rest, value, _, every => by
      refine Lockstep.bind (term.evaluate_abreast both every.1) fun right _ => ?_
      refine Lockstep.bind
        ((joinOr_faults value right).lockstep both.operation fun _ _ => trivial) ?_
      intro holds _
      cases holds with
      | true => exact Lockstep.pure (both.closed.boolean true)
      | false => exact Disjunction.evaluateRest_abreast both rest _ (both.closed.boolean _) every.2

end

/-- An expression is evaluated in lockstep in settings that agree on its operands. -/
theorem Disjunction.evaluate_lockstep (both : Simultaneous R Q E P setting setting')
    (tree : Disjunction) (every : tree.Every P) :
    Lockstep R Q E (tree.evaluate setting) (tree.evaluate setting') :=
  tree.evaluate_abreast both.abreast every

/-! ### Lookups with errors of a kind -/

/-- An evaluation fails in an operation, or in a lookup with an error that `L` allows. -/
def Failure.Within (L : LookupError → Prop) : Failure → Prop
  | .operation _ => True
  | .lookup error => L error

theorem Failure.OfOperand.within {L : LookupError → Prop}
    (digits : ∀ fault : DigitFault, L (.raised fault.raised)) {failure : Failure}
    (about : failure.OfOperand) : failure.Within L := by
  cases failure with
  | operation error => trivial
  | lookup error =>
      obtain ⟨fault, rfl⟩ := about
      exact digits fault

/-- In settings with the same parameters an expression is evaluated in lockstep if paths are looked
up so and values are written alike, and then it fails only as operations, the lookups and the writing
of values do. -/
theorem Expression.evaluate_lockstep (expression : Expression) {L : LookupError → Prop}
    {A : Value → Prop}
    (parameters : setting'.parameters = setting.parameters)
    (isNull : setting'.model.isNull = setting.model.isNull)
    (lookup : ∀ path, setting.model.isNull = false →
      Lockstep R A L (setting.resolver.getValue setting.model path)
        (setting'.resolver.getValue setting'.model path))
    (texts : ∀ world world', R world world' → ∀ value, A value →
      world'.text value = world.text value ∧
        Ends (fun _ => True) (fun raised => L (.raised raised)) (world.text value))
    (digits : ∀ fault : DigitFault, L (.raised fault.raised)) :
    Lockstep R (fun _ => True) (Failure.Within L) (expression.evaluate setting)
      (expression.evaluate setting') := by
  refine expression.root.evaluate_lockstep ?_ (Disjunction.every_true _)
  refine ⟨⟨Closed.all, fun _ _ _ _ => trivial, ?_⟩, fun _ => trivial, ?_⟩
  · intro unary written _ _
    cases null : setting.model.isNull with
    | true =>
        unfold evaluatePath
        simp only [isNull, null]
        exact Lockstep.bind_throw trivial
    | false =>
        refine evaluatePath_lockstep_of null (isNull.trans null)
          (fun world world' related value allowed => (texts world world' related value allowed).1)
          (Lockstep.adapt Failure.lookup (fun _ => id) (lookup (splitConversion written).1 null)) ?_
        intro world world' related value allowed
        refine (convert_faults world written _ value).mono (fun _ => id) fun failure fails => ?_
        rcases fails with about | ⟨raised, failed, rfl⟩
        · exact about.within digits
        · exact (texts world world' related value allowed).2.error failed
  · intro index
    unfold evaluateParameter
    rw [parameters]
    cases setting.parameters[index]? with
    | some value =>
        apply ofResult_lockstep
        exact (canonical_faults value).mono (fun _ => id) fun _ about => about.within digits
    | none =>
        apply Lockstep.throw
        unfold Failure.stating
        split
        · trivial
        · exact digits .writing

end Stencil.Expr
