/-
Module: Stencil.Proofs.Expr.Dependence
Purpose: What the evaluation of an expression depends on: the parameters that it expects, and what
  comes of looking up the names that it refers to.
Main exports: Setting.outcome, Setting.Steady, Unary.Within, Disjunction.every_within, Agree,
  evaluate_dependence
-/
import Mathlib
import Stencil.Proofs.Expr.EvaluationOrder
import Stencil.Proofs.Expr.Simultaneous

namespace Stencil.Expr

/-! ### Lookups without visible effects -/

namespace Setting

/-- What looking a name up ends with: a value, with what comes of writing it down then, or a
failure. -/
def outcome (setting : Setting) (world : World) (name : String) :
    Except LookupError (Value × Except Raised String) :=
  let (result, after) := (setting.resolver.getValue setting.model name).run.run world
  result.map fun value => (value, after.text value)

/-- The state of the objects after names have been looked up, one behind the other. -/
def worldAfter (setting : Setting) (world : World) (names : List String) : World :=
  names.foldl
    (fun before name => ((setting.resolver.getValue setting.model name).run.run before).2) world

theorem worldAfter_concat (setting : Setting) (world : World) (names : List String)
    (name : String) :
    setting.worldAfter world (names ++ [name]) =
      ((setting.resolver.getValue setting.model name).run.run
        (setting.worldAfter world names)).2 := by
  unfold worldAfter
  rw [List.foldl_append]
  rfl

/-- No lookups of some names, however many and in whatever order, change what a lookup of one of
them ends with. -/
def Steady (setting : Setting) (world : World) (names : List String) : Prop :=
  ∀ earlier : List String, (∀ name ∈ earlier, name ∈ names) → ∀ name ∈ names,
    setting.outcome (setting.worldAfter world earlier) name = setting.outcome world name

section Steady

variable {setting : Setting} {world : World} {names : List String}

/-- What every lookup keeps holds after all of them. -/
theorem worldAfter_induction (Reached : World → Prop)
    (kept : ∀ before, Reached before → ∀ name ∈ names,
      Reached ((setting.resolver.getValue setting.model name).run.run before).2)
    (earlier : List String) (known : ∀ name ∈ earlier, name ∈ names) (start : Reached world) :
    Reached (setting.worldAfter world earlier) := by
  induction earlier generalizing world with
  | nil => exact start
  | cons name rest ih =>
      obtain ⟨here, later⟩ := List.forall_mem_cons.mp known
      apply ih later
      exact kept world start name here

/-- Lookups are steady that end as from the start in all the states that they lead to. -/
theorem steady_of_invariant (Reached : World → Prop) (start : Reached world)
    (kept : ∀ before, Reached before → ∀ name ∈ names,
      setting.outcome before name = setting.outcome world name ∧
        Reached ((setting.resolver.getValue setting.model name).run.run before).2) :
    setting.Steady world names := by
  intro earlier known name member
  have reached : Reached (setting.worldAfter world earlier) := by
    apply worldAfter_induction Reached _ earlier known start
    intro before holds other present
    exact (kept before holds other present).2
  exact (kept _ reached name member).1

end Steady

end Setting

/-! ### The operands of an expression -/

/-- A value other than a group is a parameter before a count, or a path with a name in a list, or a
constant. -/
def Primary.Within (count : Nat) (names : List String) : Primary → Prop
  | .parameter index => index < count
  | .path written => pathBase written ∈ names
  | _ => True

/-- The operand refers to the first parameters and to the names in a list only. -/
def Unary.Within (count : Nat) (names : List String) (unary : Unary) : Prop :=
  unary.operand.Within count names

section Within

variable {count : Nat} {names : List String}

theorem Primary.within {tree : Primary} (expected : tree.parameterCount ≤ count)
    (named : ∀ name ∈ tree.outline.references, name ∈ names) : tree.Within count names := by
  cases tree with
  | parameter index => exact expected
  | path written =>
      apply named
      exact List.mem_singleton_self _
  | boolean | integer | double | text | null | nested => trivial

mutual

theorem Primary.every_within : ∀ tree : Primary, tree.parameterCount ≤ count →
    (∀ name ∈ tree.outline.references, name ∈ names) → tree.Every (Unary.Within count names)
  | .nested inner, expected, named => inner.every_within expected named
  | .boolean _, _, _ | .integer _, _, _ | .double _, _, _ | .text _, _, _ | .parameter _, _, _
  | .path _, _, _ | .null, _, _ => trivial

theorem Unary.every_within : ∀ tree : Unary, tree.parameterCount ≤ count →
    (∀ name ∈ tree.outline.references, name ∈ names) → tree.Every (Unary.Within count names)
  | .plain operand, expected, named | .applied _ operand, expected, named =>
      ⟨Primary.within expected named, operand.every_within expected named⟩

theorem Product.every_within : ∀ tree : Product, tree.parameterCount ≤ count →
    (∀ name ∈ tree.outline.references, name ∈ names) → tree.Every (Unary.Within count names)
  | .single factor, expected, named => factor.every_within expected named
  | .pair left _ right, expected, named => by
      obtain ⟨expected, expected'⟩ := Nat.max_le.mp expected
      obtain ⟨named, named'⟩ := List.forall_mem_append.mp named
      exact ⟨left.every_within expected named, right.every_within expected' named'⟩

theorem Sum.every_within : ∀ tree : Sum, tree.parameterCount ≤ count →
    (∀ name ∈ tree.outline.references, name ∈ names) → tree.Every (Unary.Within count names)
  | .mk first rest, expected, named => by
      obtain ⟨expected, expected'⟩ := Nat.max_le.mp expected
      obtain ⟨named, every⟩ := Sum.restEvery_within rest first.outline expected' named
      exact ⟨first.every_within expected named, every⟩

theorem Sum.restEvery_within : ∀ (rest : List (SumOperator × Product)) (left : Outline),
    Sum.restParameterCount rest ≤ count →
    (∀ name ∈ (Sum.restOutline left rest).references, name ∈ names) →
      (∀ name ∈ left.references, name ∈ names) ∧ Sum.RestEvery (Unary.Within count names) rest
  | [], _, _, named => ⟨named, trivial⟩
  | (sign, term) :: rest, left, expected, named => by
      obtain ⟨expected, expected'⟩ := Nat.max_le.mp expected
      -- The outline of the terms so far is the left operand of the next one.
      obtain ⟨named, every⟩ := Sum.restEvery_within rest (.binary (applySum sign) left term.outline)
        expected' named
      obtain ⟨named, named'⟩ := List.forall_mem_append.mp named
      exact ⟨named, term.every_within expected named', every⟩

theorem Comparison.every_within : ∀ tree : Comparison, tree.parameterCount ≤ count →
    (∀ name ∈ tree.outline.references, name ∈ names) → tree.Every (Unary.Within count names)
  | .single operand, expected, named => operand.every_within expected named
  | .pair left _ right, expected, named => by
      obtain ⟨expected, expected'⟩ := Nat.max_le.mp expected
      obtain ⟨named, named'⟩ := List.forall_mem_append.mp named
      exact ⟨left.every_within expected named, right.every_within expected' named'⟩

theorem Equality.every_within : ∀ tree : Equality, tree.parameterCount ≤ count →
    (∀ name ∈ tree.outline.references, name ∈ names) → tree.Every (Unary.Within count names)
  | .single operand, expected, named => operand.every_within expected named
  | .pair left _ right, expected, named => by
      obtain ⟨expected, expected'⟩ := Nat.max_le.mp expected
      obtain ⟨named, named'⟩ := List.forall_mem_append.mp named
      exact ⟨left.every_within expected named, right.every_within expected' named'⟩

theorem Conjunction.every_within : ∀ tree : Conjunction, tree.parameterCount ≤ count →
    (∀ name ∈ tree.outline.references, name ∈ names) → tree.Every (Unary.Within count names)
  | .mk first rest, expected, named => by
      obtain ⟨expected, expected'⟩ := Nat.max_le.mp expected
      obtain ⟨named, named'⟩ := List.forall_mem_append.mp named
      exact ⟨first.every_within expected named, Conjunction.restEvery_within rest expected' named'⟩

theorem Conjunction.restEvery_within : ∀ rest : List Equality,
    Conjunction.restParameterCount rest ≤ count →
    (∀ name ∈ Outline.restReferences (Conjunction.restOutline rest), name ∈ names) →
      Conjunction.RestEvery (Unary.Within count names) rest
  | [], _, _ => trivial
  | term :: rest, expected, named => by
      obtain ⟨expected, expected'⟩ := Nat.max_le.mp expected
      obtain ⟨named, named'⟩ := List.forall_mem_append.mp named
      exact ⟨term.every_within expected named, Conjunction.restEvery_within rest expected' named'⟩

/-- All operands of an expression, at any depth, are parameters that it expects, paths that it
refers to, or constants. -/
theorem Disjunction.every_within : ∀ tree : Disjunction, tree.parameterCount ≤ count →
    (∀ name ∈ tree.outline.references, name ∈ names) → tree.Every (Unary.Within count names)
  | .mk first rest, expected, named => by
      obtain ⟨expected, expected'⟩ := Nat.max_le.mp expected
      obtain ⟨named, named'⟩ := List.forall_mem_append.mp named
      exact ⟨first.every_within expected named, Disjunction.restEvery_within rest expected' named'⟩

theorem Disjunction.restEvery_within : ∀ rest : List Conjunction,
    Disjunction.restParameterCount rest ≤ count →
    (∀ name ∈ Outline.restReferences (Disjunction.restOutline rest), name ∈ names) →
      Disjunction.RestEvery (Unary.Within count names) rest
  | [], _, _ => trivial
  | term :: rest, expected, named => by
      obtain ⟨expected, expected'⟩ := Nat.max_le.mp expected
      obtain ⟨named, named'⟩ := List.forall_mem_append.mp named
      exact ⟨term.every_within expected named, Disjunction.restEvery_within rest expected' named'⟩

end

end Within

/-! ### Settings that agree -/

/-- Two settings, each with objects in a state of its own, that have a model, agree on the first
parameters, and agree on what comes of looking up some names, which no such lookup changes. -/
structure Agree (count : Nat) (names : List String) (setting setting' : Setting)
    (world world' : World) : Prop where
  model : setting.model.isNull = false
  model' : setting'.model.isNull = false
  given : count ≤ setting.parameters.length
  given' : count ≤ setting'.parameters.length
  parameters : setting.parameters.take count = setting'.parameters.take count
  steady : setting.Steady world names
  steady' : setting'.Steady world' names
  outcomes : ∀ name ∈ names, setting.outcome world name = setting'.outcome world' name

/-- No parameter is missing. -/
def Failure.NoMissingParameter (failure : Failure) : Prop :=
  ∀ needed given, failure ≠ .operation (.tooFewParameters needed given)

/-- States that the same lookups lead to. -/
def SameLookups (names : List String) (setting setting' : Setting) (world world' : World)
    (before before' : World) : Prop :=
  ∃ earlier : List String, (∀ name ∈ earlier, name ∈ names) ∧
    before = setting.worldAfter world earlier ∧ before' = setting'.worldAfter world' earlier

theorem EvaluationError.OfOperation.noMissingParameter {error : EvaluationError}
    (about : error.OfOperation) : (Failure.operation error).NoMissingParameter := by
  rintro needed given same
  cases same
  exact about

theorem Failure.OfOperand.noMissingParameter {failure : Failure} (about : failure.OfOperand) :
    failure.NoMissingParameter := by
  cases failure with
  | operation error => exact EvaluationError.OfOperation.noMissingParameter about
  | lookup error => exact fun _ _ => nofun

theorem noMissingParameter_of_convert {world : World} {value : Value} {failure : Failure}
    (fails : failure.OfOperand ∨ failure.OfText world value) : failure.NoMissingParameter := by
  rcases fails with about | ⟨raised, -, rfl⟩
  · exact about.noMissingParameter
  · exact fun _ _ => nofun

namespace Agree

variable {count : Nat} {names : List String} {setting setting' : Setting} {world world' : World}

/-- After the same lookups, a name is looked up alike, and what is found is written down alike. -/
theorem outcome_eq (agree : Agree count names setting setting' world world') {name : String}
    (member : name ∈ names) {earlier : List String} (known : ∀ name ∈ earlier, name ∈ names) :
    setting.outcome (setting.worldAfter world earlier) name =
      setting'.outcome (setting'.worldAfter world' earlier) name := by
  rw [agree.steady earlier known name member, agree.steady' earlier known name member]
  exact agree.outcomes name member

/-- Paths to the same name are evaluated alike. -/
theorem evaluatePath_lockstep (agree : Agree count names setting setting' world world')
    {written : String} (member : pathBase written ∈ names) :
    Lockstep (SameLookups names setting setting' world world') (fun _ => True)
      Failure.NoMissingParameter (evaluatePath setting written)
      (evaluatePath setting' written) := by
  rintro before before' ⟨earlier, known, rfl, rfl⟩
  have same := agree.outcome_eq member known
  obtain ⟨⟨result, after⟩, ran⟩ : ∃ ended, (setting.resolver.getValue setting.model
    (pathBase written)).run.run (setting.worldAfter world earlier) = ended := ⟨_, rfl⟩
  obtain ⟨⟨result', after'⟩, ran'⟩ : ∃ ended, (setting'.resolver.getValue setting'.model
    (pathBase written)).run.run (setting'.worldAfter world' earlier) = ended := ⟨_, rfl⟩
  have known' := List.forall_mem_append.mpr ⟨known, List.forall_mem_singleton.mpr member⟩
  have further : SameLookups names setting setting' world world' after after' := by
    refine ⟨earlier ++ [pathBase written], known', ?_, ?_⟩
    · rw [setting.worldAfter_concat, ran]
    · rw [setting'.worldAfter_concat, ran']
  have here := evaluatePath_run agree.model ran
  have there := evaluatePath_run agree.model' ran'
  unfold Setting.outcome at same
  rw [ran, ran'] at same
  cases result with
  | error error =>
      cases result' with
      | ok value => cases same
      | error error' =>
          cases same
          exact ⟨_, _, _, here, there, further, fun _ _ => nofun⟩
  | ok value =>
      cases result' with
      | error error => cases same
      | ok value' =>
          simp only [Except.map, Except.ok.injEq, Prod.mk.injEq] at same
          obtain ⟨rfl, texts⟩ := same
          have converted := convert_congr texts written (splitConversion written).2
          refine ⟨_, _, _, here, there.trans ?_, further, ?_⟩
          · exact congrArg (·, after') converted.symm
          · exact (convert_faults after written _ value).mono (fun _ => id) fun _ fails =>
              noMissingParameter_of_convert fails

/-- The first parameters are there, and the same. -/
theorem evaluateParameter_lockstep (agree : Agree count names setting setting' world world')
    {index : Nat} (expected : index < count) :
    Lockstep (SameLookups names setting setting' world world') (fun _ => True)
      Failure.NoMissingParameter (evaluateParameter setting index)
      (evaluateParameter setting' index) := by
  have same : setting.parameters[index]? = setting'.parameters[index]? := by
    rw [← List.getElem?_take_of_lt expected, agree.parameters, List.getElem?_take_of_lt expected]
  have here : index < setting.parameters.length := Nat.lt_of_lt_of_le expected agree.given
  unfold evaluateParameter
  rw [← same, List.getElem?_eq_getElem here]
  apply ofResult_lockstep
  exact (canonical_faults _).mono (fun _ => id) fun _ about => about.noMissingParameter

theorem abreast (agree : Agree count names setting setting' world world') :
    Abreast (SameLookups names setting setting' world world') (fun _ => True)
      Failure.NoMissingParameter (Unary.Within count names) setting setting' where
  closed := Closed.all
  integer _ _ _ _ := trivial
  operation _ about := about.noMissingParameter
  path unary written within same := by
    unfold Unary.Within at within
    rw [same] at within
    exact agree.evaluatePath_lockstep within
  parameter unary index within same := by
    unfold Unary.Within at within
    rw [same] at within
    exact agree.evaluateParameter_lockstep within

end Agree

/-- An expression has the same value, or the same error, wherever the settings agree on the
parameters that it expects and on the names that it refers to; all else about models, parameters and
objects does not matter to it.  And there no parameter is missing. -/
theorem evaluate_dependence (expression : Expression) {setting setting' : Setting}
    {world world' : World}
    (agree : Agree expression.parameterCount expression.root.outline.references setting setting'
      world world') :
    ((expression.evaluate setting).run.run world).1 =
        ((expression.evaluate setting').run.run world').1 ∧
      ∀ needed given,
        ((expression.evaluate setting).run.run world).1 ≠
            .error (.operation (.tooFewParameters needed given)) ∧
          ((expression.evaluate setting').run.run world').1 ≠
            .error (.operation (.tooFewParameters needed given)) := by
  have every := expression.root.every_within (Nat.le_refl _) fun _ => id
  have lockstep := expression.root.evaluate_abreast agree.abreast every
  have start : SameLookups expression.root.outline.references setting setting' world world'
      world world' := ⟨[], List.forall_mem_nil _, rfl, rfl⟩
  obtain ⟨same, -, ends⟩ := lockstep.run_eq start
  have never : ∀ needed given, ((expression.evaluate setting).run.run world).1 ≠
      .error (.operation (.tooFewParameters needed given)) := by
    intro needed given failed
    exact ends.error failed needed given rfl
  refine ⟨same, fun needed given => ⟨never needed given, ?_⟩⟩
  intro failed
  exact never needed given (same.trans failed)

/-- An expression with a conversion and a parameter in parentheses. -/
def pageExpression : Expression where
  root := .mk (.mk
    (.single (.pair (.mk (.single (.plain (.path "x.toInt"))) []) .greater
      (.mk (.single (.plain (.nested (.mk (.mk (.single (.single (.mk
        (.pair (.plain (.parameter 1)) .times (.plain (.integer 2))) []))) []) [])))) [])))
    [.single (.single (.mk (.single (.applied .not (.parameter 0))) []))]) []
  source := "x.toInt > (?1 * 2) and not ?0"

/-- A mapping with one more entry than the expression refers to, and with one more parameter. -/
def entrySetting : Setting where
  resolver := Resolver.standard 0
  model := .value (.map [(.text "x", .text "7"), (.text "secret", .integer 1)])
  parameters := [.boolean false, .integer 3, .text "more"]

/-- An object that has a getter for the name. -/
def getterSetting : Setting where
  resolver := Resolver.standard 0
  model := .value (.object "Page" 0)
  parameters := [.boolean false, .integer 3]

/-- The object, at the start or after some runs of the getter. -/
def getterWorld (calls : List ((String × String) × Nat)) (accessors : List RememberedAccessor) :
    World where
  classes := { own := [{ name := "Page", methods := [("getX", fun _ => .giving (.text "7"))] }] }
  instances := [[]]
  calls := calls
  accessors := accessors

/-- The runs of the getter are counted, and yet the lookups are steady. -/
theorem evaluate_dependence_page :
    Expression.parse "x.toInt > (?1 * 2) and not ?0" = .ok pageExpression ∧
      Agree pageExpression.parameterCount pageExpression.root.outline.references entrySetting
        getterSetting {} (getterWorld [] []) ∧
      ((pageExpression.evaluate entrySetting).run.run {}).1 =
        ((pageExpression.evaluate getterSetting).run.run (getterWorld [] [])).1 := by
  have read : Expression.parse "x.toInt > (?1 * 2) and not ?0" = .ok pageExpression := by
    cbv
  have names : pageExpression.root.outline.references = ["x"] := by decide
  have agree : Agree pageExpression.parameterCount pageExpression.root.outline.references
      entrySetting getterSetting {} (getterWorld [] []) := by
    rw [names]
    refine ⟨rfl, rfl, by decide, by decide, rfl, ?_, ?_, ?_⟩
    · apply Setting.steady_of_invariant (· = {}) rfl
      rintro before rfl name member
      obtain rfl := List.mem_singleton.mp member
      exact ⟨rfl, rfl⟩
    · apply Setting.steady_of_invariant
        (fun before => before = getterWorld [] [] ∨
          ∃ runs, before = getterWorld [(("Page", "getX"), runs)]
            [⟨0, "model", "Page", "x", some ⟨.call, "getX"⟩⟩]) (.inl rfl)
      rintro before (rfl | ⟨runs, rfl⟩) name member
      · obtain rfl := List.mem_singleton.mp member
        exact ⟨rfl, .inr ⟨1, rfl⟩⟩
      · obtain rfl := List.mem_singleton.mp member
        exact ⟨rfl, .inr ⟨runs + 1, rfl⟩⟩
    · intro name member
      obtain rfl := List.mem_singleton.mp member
      rfl
  exact ⟨read, agree, (evaluate_dependence pageExpression agree).1⟩

end Stencil.Expr
