/-
Module: Stencil.Proofs.Expr.Chains
Purpose: The order in which the terms of a chain are evaluated, the term after which a chain stops,
  and its result, for both connectives at once.
Main exports: Connective, Ran, ChainRun, Connective.evaluate_chainRun
-/
import Stencil.Expr.Evaluator
import Stencil.Proofs.Property.Lockstep

namespace Stencil.Expr

/-- Work of an evaluator on a state of any type. -/
abbrev Work (σ α : Type) := ExceptT Failure (StateM σ) α

/-- The result of an operation as work. -/
def Work.ofOperation {σ α : Type} : Except EvaluationError α → Work σ α
  | .ok value => pure value
  | .error error => throw (.operation error)

/-- A value that may not be had, as work. -/
def Work.ofResult {σ α : Type} : Except Failure α → Work σ α
  | .ok value => pure value
  | .error failure => throw failure

theorem ofOperation_eq {α : Type} (result : Except EvaluationError α) :
    Evaluation.ofOperation result = Work.ofOperation result := by
  cases result <;> rfl

theorem ofResult_eq {α : Type} (result : Except Failure α) :
    Evaluation.ofResult result = Work.ofResult result := by
  cases result <;> rfl

/-! ### Connectives -/

/-- What tells the two connectives apart: the flag that decides a chain, and the errors on values that
are no booleans. -/
structure Connective where
  decisive : Bool
  onNull : EvaluationError
  onKinds : String → String → EvaluationError

namespace Connective

/-- The connective of which one term has to hold. -/
def or : Connective := ⟨true, .orOnNull, .orOnKinds⟩

/-- The connective of which all terms have to hold. -/
def and : Connective := ⟨false, .andOnNull, .andOnKinds⟩

/-- The error on two values that are not both booleans. -/
def fault (connective : Connective) (left right : Value) : EvaluationError :=
  if left.isNull || right.isNull then connective.onNull
  else connective.onKinds left.kindName right.kindName

/-- Whether one of two values decides a chain. -/
def join (connective : Connective) : Value → Value → Except EvaluationError Bool
  | .boolean left, .boolean right =>
      .ok (left == connective.decisive || right == connective.decisive)
  | left, right => .error (connective.fault left right)

/-- Whether a value is a boolean that does not decide a chain. -/
def passes (connective : Connective) : Value → Bool
  | .boolean flag => flag == !connective.decisive
  | _ => false

/-- The first terms of a chain leave it open as long as there is only one, or all of them pass. -/
def Open (connective : Connective) (values : List Value) : Prop :=
  values.length < 2 ∨ ∀ value ∈ values, connective.passes value = true

instance (connective : Connective) (values : List Value) : Decidable (connective.Open values) :=
  inferInstanceAs (Decidable (_ ∨ _))

/-- Go on with a chain from the value so far. -/
def evaluateRest {σ : Type} (connective : Connective) (value : Value) :
    List (Work σ Value) → Work σ Value
  | [] => pure value
  | term :: rest => do
      let right ← term
      let decided ← Work.ofOperation (connective.join value right)
      if decided then pure (.boolean connective.decisive)
      else connective.evaluateRest (.boolean !connective.decisive) rest

/-- Evaluate a chain. -/
def evaluate {σ : Type} (connective : Connective) (first : Work σ Value)
    (rest : List (Work σ Value)) : Work σ Value := do
  let value ← first
  connective.evaluateRest value rest

end Connective

theorem joinOr_eq (left right : Value) : joinOr left right = Connective.or.join left right := by
  unfold joinOr Connective.join
  split
  · simp [Connective.or]
  · split <;> simp_all [Connective.fault, Connective.or]

theorem joinAnd_eq (left right : Value) :
    joinAnd left right = (Connective.and.join left right).map (!·) := by
  unfold joinAnd Connective.join
  split
  · simp [Connective.and, Except.map]
  · split <;> simp_all [Connective.fault, Connective.and, Except.map]

theorem Disjunction.evaluateRest_eq (setting : Setting) (value : Value) (rest : List Conjunction) :
    Disjunction.evaluateRest setting value rest =
      Connective.or.evaluateRest value (rest.map (Conjunction.evaluate setting)) := by
  induction rest generalizing value with
  | nil => rfl
  | cons term rest ih =>
      unfold Disjunction.evaluateRest
      simp only [List.map_cons, Connective.evaluateRest, ofOperation_eq, joinOr_eq, ih]
      rfl

theorem Disjunction.evaluate_eq (setting : Setting) (first : Conjunction)
    (rest : List Conjunction) :
    (Disjunction.mk first rest).evaluate setting =
      Connective.or.evaluate (first.evaluate setting)
        (rest.map (Conjunction.evaluate setting)) := by
  unfold Disjunction.evaluate Connective.evaluate
  simp only [Disjunction.evaluateRest_eq]

theorem Conjunction.evaluateRest_eq (setting : Setting) (value : Value) (rest : List Equality) :
    Conjunction.evaluateRest setting value rest =
      Connective.and.evaluateRest value (rest.map (Equality.evaluate setting)) := by
  induction rest generalizing value with
  | nil => rfl
  | cons term rest ih =>
      unfold Conjunction.evaluateRest
      simp only [List.map_cons, Connective.evaluateRest, ofOperation_eq, joinAnd_eq, ih]
      congr 1
      funext right
      cases Connective.and.join value right with
      | error error => rfl
      | ok decided => cases decided <;> rfl

theorem Conjunction.evaluate_eq (setting : Setting) (first : Equality) (rest : List Equality) :
    (Conjunction.mk first rest).evaluate setting =
      Connective.and.evaluate (first.evaluate setting) (rest.map (Equality.evaluate setting)) := by
  unfold Conjunction.evaluate Connective.evaluate
  simp only [Conjunction.evaluateRest_eq]

/-! ### The run of a chain -/

section Runs

variable {σ : Type}

/-- Terms are evaluated from left to right, each in the state that the one before leaves. -/
inductive Ran : σ → List (Work σ Value) → List Value → σ → Prop where
  | nil (state : σ) : Ran state [] [] state
  | cons {start middle after : σ} {term : Work σ Value} {terms : List (Work σ Value)}
      {value : Value} {values : List Value} (here : term.run.run start = (.ok value, middle))
      (later : Ran middle terms values after) : Ran start (term :: terms) (value :: values) after

theorem Ran.concat {start middle after : σ} {term : Work σ Value} {terms : List (Work σ Value)}
    {value : Value} {values : List Value} (ran : Ran start terms values middle)
    (last : term.run.run middle = (.ok value, after)) :
    Ran start (terms ++ [term]) (values ++ [value]) after := by
  induction ran with
  | nil state => exact .cons last (.nil after)
  | cons here _ ih => exact .cons here (ih last)

/-- A value is a boolean. -/
def IsBoolean (value : Value) : Prop :=
  ∃ flag, value = .boolean flag

/-- How a chain of at least two terms ends from a state.  It is decided by the first term, the second
one at the earliest, up to which some value decides it, all of them being booleans; it is refused at
the first pair of values that are not both booleans; a term that fails ends it; and if all terms pass,
it is not decided.  The terms behind are not evaluated. -/
inductive ChainRun (connective : Connective) (start : σ) :
    List (Work σ Value) → Except Failure Value → σ → Prop where
  | decided {after : σ} {terms skipped : List (Work σ Value)} {seen : List Value} {last : Value}
      (ran : Ran start terms (seen ++ [last]) after) (more : seen ≠ [])
      (undecided : connective.Open seen) (booleans : ∀ value ∈ seen ++ [last], IsBoolean value)
      (decides : .boolean connective.decisive ∈ seen ++ [last]) :
      ChainRun connective start (terms ++ skipped) (.ok (.boolean connective.decisive)) after
  | refused {after : σ} {terms skipped : List (Work σ Value)} {seen : List Value}
      {left right : Value} (ran : Ran start terms (seen ++ [left, right]) after)
      (undecided : connective.Open (seen ++ [left]))
      (unfit : ¬ (IsBoolean left ∧ IsBoolean right)) :
      ChainRun connective start (terms ++ skipped)
        (.error (.operation (connective.fault left right))) after
  | failed {middle after : σ} {term : Work σ Value} {terms skipped : List (Work σ Value)}
      {seen : List Value} {failure : Failure} (ran : Ran start terms seen middle)
      (undecided : connective.Open seen) (fails : term.run.run middle = (.error failure, after)) :
      ChainRun connective start (terms ++ term :: skipped) (.error failure) after
  | undecided {after : σ} {terms : List (Work σ Value)} {values : List Value}
      (ran : Ran start terms values after)
      (pass : ∀ value ∈ values, connective.passes value = true) :
      ChainRun connective start terms (.ok (.boolean !connective.decisive)) after

end Runs

namespace Connective

variable {σ : Type} {connective : Connective}

theorem passes_iff {value : Value} :
    connective.passes value = true ↔ value = .boolean !connective.decisive := by
  cases value <;> simp [passes]

/-- Two values are joined if they are booleans. -/
theorem join_cases (connective : Connective) (left right : Value) :
    (connective.join left right = .ok true ∧ IsBoolean left ∧ IsBoolean right ∧
      .boolean connective.decisive ∈ [left, right]) ∨
    (connective.join left right = .ok false ∧ connective.passes left = true ∧
      connective.passes right = true) ∨
    (connective.join left right = .error (connective.fault left right) ∧
      ¬ (IsBoolean left ∧ IsBoolean right)) := by
  unfold join
  split
  · next one two =>
      by_cases decides : (one == connective.decisive || two == connective.decisive) = true
      · refine .inl ⟨by rw [decides], ⟨one, rfl⟩, ⟨two, rfl⟩, ?_⟩
        rw [Bool.or_eq_true, beq_iff_eq, beq_iff_eq] at decides
        rcases decides with rfl | rfl <;> simp
      · rw [Bool.not_eq_true] at decides
        refine .inr (.inl ⟨by rw [decides], ?_⟩)
        revert decides
        unfold passes
        cases one <;> cases two <;> cases connective.decisive <;> decide
  · next noBooleans =>
      exact .inr (.inr ⟨rfl, fun ⟨⟨one, same⟩, ⟨two, same'⟩⟩ => noBooleans one two same same'⟩)

theorem isBoolean_of_passes {value : Value} (pass : connective.passes value = true) :
    IsBoolean value :=
  ⟨_, passes_iff.mp pass⟩

/-- The values in front of the last one of a chain that is open pass. -/
theorem Open.front {seen : List Value} {last : Value} (undecided : connective.Open (seen ++ [last])) :
    ∀ value ∈ seen, connective.passes value = true := by
  rcases undecided with short | pass
  · rw [List.length_append, List.length_singleton] at short
    obtain rfl : seen = [] := List.length_eq_zero_iff.mp (by omega)
    exact List.forall_mem_nil _
  · exact fun value member => pass value (List.mem_append_left _ member)

/-- The values of a chain that is open behind its first term pass. -/
theorem Open.passes {seen : List Value} {last : Value} (undecided : connective.Open (seen ++ [last]))
    (more : seen ≠ []) : ∀ value ∈ seen ++ [last], connective.passes value = true := by
  refine undecided.resolve_left fun short => ?_
  rw [List.length_append, List.length_singleton] at short
  exact more (List.length_eq_zero_iff.mp (by omega))

/-- A chain stays open behind a pair of values exactly if joining them does not end it. -/
theorem Open.concat_iff {seen : List Value} {left : Value} (right : Value)
    (undecided : connective.Open (seen ++ [left])) :
    connective.Open (seen ++ [left] ++ [right]) ↔ connective.join left right = .ok false := by
  constructor
  · intro further
    have pass := further.passes (by simp)
    simp only [List.forall_mem_append, List.forall_mem_singleton, passes_iff] at pass
    obtain ⟨⟨-, rfl⟩, rfl⟩ := pass
    simp [join]
  · intro joined
    refine .inr ?_
    simp only [List.forall_mem_append, List.forall_mem_singleton]
    rcases connective.join_cases left right with ⟨other, -⟩ | ⟨-, pass, pass'⟩ | ⟨other, -⟩
    · rw [joined] at other
      cases other
    · exact ⟨⟨undecided.front, pass⟩, pass'⟩
    · rw [joined] at other
      cases other

/-- The rest of a chain is evaluated as the whole chain is. -/
theorem evaluateRest_chainRun {start state : σ} {terms : List (Work σ Value)} {seen : List Value}
    {value : Value} (rest : List (Work σ Value)) (ran : Ran start terms (seen ++ [value]) state)
    (undecided : connective.Open (seen ++ [value])) (more : rest = [] → seen ≠ []) :
    ChainRun connective start (terms ++ rest)
      ((connective.evaluateRest value rest).run.run state).1
      ((connective.evaluateRest value rest).run.run state).2 := by
  induction rest generalizing state terms seen value with
  | nil =>
      have pass := undecided.passes (more rfl)
      have last := passes_iff.mp (pass value (by simp))
      rw [List.append_nil]
      subst last
      exact .undecided ran pass
  | cons term rest ih =>
      obtain ⟨⟨result, after⟩, ends⟩ : ∃ ended, term.run.run state = ended := ⟨_, rfl⟩
      cases result with
      | error failure =>
          rw [evaluateRest, run_bind_error ends]
          exact .failed ran undecided ends
      | ok right =>
          have longer := ran.concat ends
          rw [evaluateRest, run_bind_ok ends]
          have whole : terms ++ term :: rest = terms ++ [term] ++ rest := by simp
          rw [whole]
          rcases connective.join_cases value right with
            ⟨joined, left, right', decides⟩ | ⟨joined, -, pass⟩ | ⟨joined, unfit⟩
          · rw [joined]
            refine .decided longer (by simp) undecided ?_ ?_
            · simp only [List.forall_mem_append, List.forall_mem_singleton]
              exact ⟨⟨fun earlier member => isBoolean_of_passes (undecided.front earlier member),
                left⟩, right'⟩
            · rw [List.append_assoc]
              exact List.mem_append_right _ decides
          · have further := (undecided.concat_iff right).mpr joined
            rw [joined]
            have next := passes_iff.mp pass
            subst next
            exact ih longer further (by simp)
          · rw [joined]
            rw [List.append_assoc, List.singleton_append] at longer
            exact .refused longer undecided unfit

/-- A chain of at least two terms is evaluated term by term, and ends as its values tell. -/
theorem evaluate_chainRun (connective : Connective) (first second : Work σ Value)
    (rest : List (Work σ Value)) (start : σ) :
    ChainRun connective start (first :: second :: rest)
      ((connective.evaluate first (second :: rest)).run.run start).1
      ((connective.evaluate first (second :: rest)).run.run start).2 := by
  obtain ⟨⟨result, after⟩, ends⟩ : ∃ ended, first.run.run start = ended := ⟨_, rfl⟩
  cases result with
  | error failure =>
      rw [evaluate, run_bind_error ends]
      exact @ChainRun.failed _ _ _ _ _ first [] (second :: rest) [] failure (.nil start)
        (.inl (by simp)) ends
  | ok value =>
      rw [evaluate, run_bind_ok ends]
      exact @evaluateRest_chainRun _ _ _ _ [first] [] value (second :: rest)
        (.cons ends (.nil after)) (.inl (by simp)) (by simp)

end Connective

end Stencil.Expr
