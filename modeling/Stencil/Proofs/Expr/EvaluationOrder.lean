/-
Module: Stencil.Proofs.Expr.EvaluationOrder
Purpose: Which names an evaluation looks up, and in which order, over states in which its lookups can
  be noted.
Main exports: Outline, Outline.evaluate, Outline.consulted, Outline.evaluate_notes, evaluation_order
-/
import Stencil.Proofs.Expr.Chains

namespace Stencil.Expr

/-! ### Outlines -/

/-- What the order of an evaluation depends on: constants, parameters, paths, operations on evaluated
operands, and chains. -/
inductive Outline where
  | constant (value : Value)
  | parameter (index : Nat)
  | path (written : String)
  | unary (operation : Value → Except EvaluationError Value) (operand : Outline)
  | binary (operation : Value → Value → Except EvaluationError Value) (left right : Outline)
  | chain (connective : Connective) (first : Outline) (rest : List Outline)

mutual

def Primary.outline : Primary → Outline
  | .boolean flag => .constant (.boolean flag)
  | .integer value => .constant (.integer value)
  | .double value => .constant (.double value)
  | .text content => .constant (.text content)
  | .parameter index => .parameter index
  | .path written => .path written
  | .null => .constant .null
  | .nested inner => inner.outline

def Unary.outline : Unary → Outline
  | .plain operand => operand.outline
  | .applied sign operand => .unary (applyUnary sign) operand.outline

def Product.outline : Product → Outline
  | .single factor => factor.outline
  | .pair left sign right => .binary (applyProduct sign) left.outline right.outline

def Sum.outline : Sum → Outline
  | .mk first rest => Sum.restOutline first.outline rest

/-- Sums and differences are taken from the left. -/
def Sum.restOutline (left : Outline) : List (SumOperator × Product) → Outline
  | [] => left
  | (sign, term) :: rest => Sum.restOutline (.binary (applySum sign) left term.outline) rest

def Comparison.outline : Comparison → Outline
  | .single operand => operand.outline
  | .pair left sign right => .binary (applyComparison sign) left.outline right.outline

def Equality.outline : Equality → Outline
  | .single operand => operand.outline
  | .pair left sign right =>
      .binary (fun one two => .ok (applyEquality sign one two)) left.outline right.outline

def Conjunction.outline : Conjunction → Outline
  | .mk first rest => .chain .and first.outline (Conjunction.restOutline rest)

def Conjunction.restOutline : List Equality → List Outline
  | [] => []
  | term :: rest => term.outline :: Conjunction.restOutline rest

/-- The outline of an expression. -/
def Disjunction.outline : Disjunction → Outline
  | .mk first rest => .chain .or first.outline (Disjunction.restOutline rest)

def Disjunction.restOutline : List Conjunction → List Outline
  | [] => []
  | term :: rest => term.outline :: Disjunction.restOutline rest

end

mutual

/-- The names that the paths of an outline look up, from left to right. -/
def Outline.references : Outline → List String
  | constant _ | parameter _ => []
  | path written => [pathBase written]
  | unary _ operand => operand.references
  | binary _ left right => left.references ++ right.references
  | chain _ first rest => first.references ++ Outline.restReferences rest

def Outline.restReferences : List Outline → List String
  | [] => []
  | term :: rest => term.references ++ Outline.restReferences rest

end

/-! ### Evaluating with any lookups -/

section Evaluate

variable {σ : Type} (setting : Setting) (objects : σ → World) (look : String → Work σ Value)

/-- The value of a path, its name being looked up by the work given.  The objects as they are then are
what a value is written down with. -/
def pathValue (written : String) : Work σ Value := do
  if setting.model.isNull then throw (.operation (.noModel written))
  let found ← look (pathBase written)
  Work.ofResult (convert (objects (← get)) written (pathConversion? written) found)

/-- The value of a parameter. -/
def parameterValue (index : Nat) : Except Failure Value :=
  match setting.parameters[index]? with
  | some value => value.canonical
  | none =>
      .error (.stating (index + 1 : Nat) (.tooFewParameters (index + 1) setting.parameters.length))

mutual

/-- Evaluate an outline, names being looked up by the work given. -/
def Outline.evaluate : Outline → Work σ Value
  | constant value => pure value
  | parameter index => Work.ofResult (parameterValue setting index)
  | path written => pathValue setting objects look written
  | unary operation operand => do
      let value ← operand.evaluate
      Work.ofOperation (operation value)
  | binary operation left right => do
      let one ← left.evaluate
      let two ← right.evaluate
      Work.ofOperation (operation one two)
  | chain connective first rest => connective.evaluate first.evaluate (Outline.evaluateAll rest)

def Outline.evaluateAll : List Outline → List (Work σ Value)
  | [] => []
  | term :: rest => term.evaluate :: Outline.evaluateAll rest

end

/-! ### What is consulted -/

mutual

/-- The names that an evaluation from a state looks up: those of all paths from left to right, up to
the first failure, except for the terms of chains behind the one that ends them. -/
def Outline.consulted : Outline → σ → List String
  | constant _, _ | parameter _, _ => []
  | path written, _ => if setting.model.isNull then [] else [pathBase written]
  | unary _ operand, state => operand.consulted state
  | binary _ left right, state =>
      loggedThen (left.evaluate setting objects look) left.consulted (fun _ => right.consulted) state
  | chain connective first rest, state =>
      loggedThen (first.evaluate setting objects look) first.consulted
        (fun value => Outline.restConsulted connective [value] rest) state

/-- The same for the later terms of a chain, behind terms with the values given. -/
def Outline.restConsulted (connective : Connective) (seen : List Value) :
    List Outline → σ → List String
  | [], _ => []
  | term :: rest, state =>
      if connective.Open seen then
        loggedThen (term.evaluate setting objects look) term.consulted
          (fun value => Outline.restConsulted connective (seen ++ [value]) rest) state
      else []

end

theorem loggedThen_sublist {α : Type} {work : Work σ α} {first : σ → List String}
    {later : α → σ → List String} {state : σ} {front behind : List String}
    (here : (first state).Sublist front)
    (there : ∀ value after, (later value after).Sublist behind) :
    (loggedThen work first later state).Sublist (front ++ behind) := by
  unfold loggedThen
  refine here.append ?_
  split
  · exact there _ _
  · exact List.nil_sublist _

mutual

/-- An evaluation looks up no names but those of the references, in their order. -/
theorem Outline.consulted_sublist :
    ∀ (tree : Outline) (state : σ),
      (tree.consulted setting objects look state).Sublist tree.references
  | .constant _, _ | .parameter _, _ => List.nil_sublist _
  | .path written, _ => by
      unfold Outline.consulted
      split
      · exact List.nil_sublist _
      · exact List.Sublist.refl _
  | .unary _ operand, state => operand.consulted_sublist state
  | .binary _ left right, state =>
      loggedThen_sublist (left.consulted_sublist state) fun _ after =>
        right.consulted_sublist after
  | .chain connective first rest, state =>
      loggedThen_sublist (first.consulted_sublist state) fun value after =>
        Outline.restConsulted_sublist connective [value] rest after

theorem Outline.restConsulted_sublist (connective : Connective) (seen : List Value) :
    ∀ (rest : List Outline) (state : σ),
      (Outline.restConsulted setting objects look connective seen rest state).Sublist
        (Outline.restReferences rest)
  | [], _ => List.nil_sublist _
  | term :: rest, state => by
      unfold Outline.restConsulted
      split
      · exact loggedThen_sublist (term.consulted_sublist state) fun value after =>
          Outline.restConsulted_sublist connective (seen ++ [value]) rest after
      · exact List.nil_sublist _

end

end Evaluate

/-! ### Noting lookups -/

section Noting

variable {σ : Type}

/-- Lookups that also note each name that is looked up. -/
def noting (look : String → Work σ Value) (name : String) : Work (σ × List String) Value := do
  modify fun (state, log) => (state, log ++ [name])
  ExceptT.mk fun (state, log) =>
    let (result, after) := (look name).run.run state
    (result, (after, log))

/-- Work that does the same as other work, and notes what is consulted. -/
def Notes {α : Type} (noted : Work (σ × List String) α) (plain : Work σ α)
    (consulted : σ → List String) : Prop :=
  ∀ state log, noted.run.run (state, log) =
    ((plain.run.run state).1, ((plain.run.run state).2, log ++ consulted state))

theorem Notes.same {α : Type} {noted : Work (σ × List String) α} {plain : Work σ α}
    {consulted consulted' : σ → List String} (notes : Notes noted plain consulted)
    (same : ∀ state, consulted state = consulted' state) : Notes noted plain consulted' := by
  intro state log
  rw [notes state log, same]

theorem Notes.pure {α : Type} (value : α) :
    Notes (σ := σ) (Pure.pure value) (Pure.pure value) fun _ => [] := by
  intro state log
  rw [List.append_nil]
  rfl

theorem Notes.operation {α : Type} (result : Except EvaluationError α) :
    Notes (σ := σ) (Work.ofOperation result) (Work.ofOperation result) fun _ => [] := by
  intro state log
  rw [List.append_nil]
  cases result <;> rfl

theorem Notes.result {α : Type} (result : Except Failure α) :
    Notes (σ := σ) (Work.ofResult result) (Work.ofResult result) fun _ => [] := by
  intro state log
  rw [List.append_nil]
  cases result <;> rfl

theorem Notes.bind {α β : Type} {noted : Work (σ × List String) α} {plain : Work σ α}
    {next : α → Work (σ × List String) β} {next' : α → Work σ β} {first : σ → List String}
    {later : α → σ → List String} (here : Notes noted plain first)
    (there : ∀ value, Notes (next value) (next' value) (later value)) :
    Notes (noted >>= next) (plain >>= next') (loggedThen plain first later) := by
  intro state log
  have ran := here state log
  unfold loggedThen
  obtain ⟨⟨result, after⟩, ends⟩ : ∃ ended, plain.run.run state = ended := ⟨_, rfl⟩
  rw [ends] at ran
  cases result with
  | error failure =>
      rw [run_bind_error ran, run_bind_error ends, ends, List.append_nil]
  | ok value =>
      rw [run_bind_ok ran, run_bind_ok ends, ends, there, List.append_assoc]

/-- What is done with a value that has been looked up consults nothing. -/
theorem Notes.finish {α β : Type} {noted : Work (σ × List String) α} {plain : Work σ α}
    {next : α → Work (σ × List String) β} {next' : α → Work σ β} {consulted : σ → List String}
    (here : Notes noted plain consulted)
    (there : ∀ value, Notes (next value) (next' value) fun _ => []) :
    Notes (noted >>= next) (plain >>= next') consulted := by
  refine (here.bind there).same fun state => ?_
  unfold loggedThen
  split <;> exact List.append_nil _

variable {setting : Setting} {objects : σ → World} {look : String → Work σ Value}

theorem pathValue_notes (written : String) :
    Notes (pathValue setting (objects ·.1) (noting look) written)
      (pathValue setting objects look written)
      fun _ => if setting.model.isNull then [] else [pathBase written] := by
  unfold pathValue
  cases setting.model.isNull with
  | true =>
      simp only [if_true]
      intro state log
      rw [List.append_nil]
      rfl
  | false =>
      simp only [Bool.false_eq_true, if_false]
      have looked : Notes (noting look (pathBase written)) (look (pathBase written))
          fun _ => [pathBase written] := fun _ _ => rfl
      refine looked.finish fun found state log => ?_
      exact Notes.result (convert (objects state) written (pathConversion? written) found) state log

mutual

/-- An evaluation that notes its lookups does the same as the evaluation itself, and notes what the
evaluation consults. -/
theorem Outline.evaluate_notes : ∀ tree : Outline,
    Notes (tree.evaluate setting (objects ·.1) (noting look)) (tree.evaluate setting objects look)
      (tree.consulted setting objects look)
  | .constant value => Notes.pure value
  | .parameter index => Notes.result _
  | .path written => pathValue_notes written
  | .unary operation operand => operand.evaluate_notes.finish fun _ => Notes.operation _
  | .binary operation left right =>
      left.evaluate_notes.bind fun _ => right.evaluate_notes.finish fun _ => Notes.operation _
  | .chain connective first rest =>
      first.evaluate_notes.bind fun value =>
        Outline.evaluateRest_notes rest [] value (.inl (by simp))

theorem Outline.evaluateRest_notes {connective : Connective} :
    ∀ (rest : List Outline) (seen : List Value) (value : Value),
      connective.Open (seen ++ [value]) →
        Notes (connective.evaluateRest value (Outline.evaluateAll setting (objects ·.1) (noting look) rest))
          (connective.evaluateRest value (Outline.evaluateAll setting objects look rest))
          (Outline.restConsulted setting objects look connective (seen ++ [value]) rest)
  | [], _, value, _ => Notes.pure value
  | term :: rest, seen, value, undecided => by
      have here : Outline.restConsulted setting objects look connective (seen ++ [value]) (term :: rest) =
          loggedThen (term.evaluate setting objects look) (term.consulted setting objects look) fun right =>
            Outline.restConsulted setting objects look connective (seen ++ [value] ++ [right]) rest :=
        funext fun _ => if_pos undecided
      rw [here]
      refine term.evaluate_notes.bind fun right => ?_
      have further := undecided.concat_iff right
      -- Behind a pair of values that ends the chain nothing is consulted.
      have skipped : connective.join value right ≠ .ok false → ∀ state,
          Outline.restConsulted setting objects look connective (seen ++ [value] ++ [right]) rest state =
            [] := by
        intro ended state
        cases rest with
        | nil => rfl
        | cons term rest => exact if_neg fun opened => ended (further.mp opened)
      rcases connective.join_cases value right with
        ⟨joined, -⟩ | ⟨joined, -, pass⟩ | ⟨joined, -⟩
      · refine Notes.same ?_ fun state => (skipped (by rw [joined]; simp) state).symm
        rw [joined]
        exact Notes.pure _
      · have next := Connective.passes_iff.mp pass
        subst next
        rw [joined]
        exact Outline.evaluateRest_notes rest _ _ (further.mpr joined)
      · refine Notes.same ?_ fun state => (skipped (by rw [joined]; simp) state).symm
        rw [joined]
        exact @Notes.operation σ Value (.error (connective.fault value right))

end

end Noting

/-! ### Expressions and their outlines -/

/-- The lookups of a setting. -/
def Setting.look (setting : Setting) (name : String) : Evaluation Value :=
  Evaluation.ofLookup (setting.resolver.getValue setting.model name)

section Agreement

variable (setting : Setting)

theorem evaluateParameter_eq (index : Nat) :
    evaluateParameter setting index = Work.ofResult (parameterValue setting index) := by
  unfold evaluateParameter parameterValue
  cases setting.parameters[index]? with
  | some value => exact ofResult_eq _
  | none => rfl

theorem evaluatePath_eq (written : String) :
    evaluatePath setting written = pathValue setting id setting.look written := by
  unfold evaluatePath pathValue
  simp only [ofResult_eq]
  rfl

mutual

theorem Primary.evaluate_outline :
    ∀ tree : Primary, tree.outline.evaluate setting id setting.look = tree.evaluate setting
  | .nested inner => inner.evaluate_outline
  | .path written => (evaluatePath_eq setting written).symm
  | .parameter index => (evaluateParameter_eq setting index).symm
  | .boolean _ | .integer _ | .double _ | .text _ | .null => rfl

theorem Unary.evaluate_outline :
    ∀ tree : Unary, tree.outline.evaluate setting id setting.look = tree.evaluate setting
  | .plain operand => operand.evaluate_outline
  | .applied sign operand => by
      simp only [Unary.outline, Outline.evaluate, Unary.evaluate, operand.evaluate_outline,
        ofOperation_eq]

theorem Product.evaluate_outline :
    ∀ tree : Product, tree.outline.evaluate setting id setting.look = tree.evaluate setting
  | .single factor => factor.evaluate_outline
  | .pair left sign right => by
      simp only [Product.outline, Outline.evaluate, Product.evaluate, left.evaluate_outline,
        right.evaluate_outline, ofOperation_eq]

theorem Sum.evaluate_outline :
    ∀ tree : Sum, tree.outline.evaluate setting id setting.look = tree.evaluate setting
  | .mk first rest => by
      rw [Sum.outline, Sum.evaluate_restOutline rest, first.evaluate_outline, Sum.evaluate]

theorem Sum.evaluate_restOutline :
    ∀ (rest : List (SumOperator × Product)) (left : Outline),
      (Sum.restOutline left rest).evaluate setting id setting.look = (do
        let value ← left.evaluate setting id setting.look
        Sum.evaluateRest setting value rest)
  | [], left => by simp only [Sum.restOutline, Sum.evaluateRest, bind_pure]
  | (sign, term) :: rest, left => by
      rw [Sum.restOutline, Sum.evaluate_restOutline rest]
      simp only [Outline.evaluate, bind_assoc, term.evaluate_outline, Sum.evaluateRest,
        ofOperation_eq]

theorem Comparison.evaluate_outline :
    ∀ tree : Comparison, tree.outline.evaluate setting id setting.look = tree.evaluate setting
  | .single operand => operand.evaluate_outline
  | .pair left sign right => by
      simp only [Comparison.outline, Outline.evaluate, Comparison.evaluate, left.evaluate_outline,
        right.evaluate_outline, ofOperation_eq]

theorem Equality.evaluate_outline :
    ∀ tree : Equality, tree.outline.evaluate setting id setting.look = tree.evaluate setting
  | .single operand => operand.evaluate_outline
  | .pair left sign right => by
      simp only [Equality.outline, Outline.evaluate, Equality.evaluate, left.evaluate_outline,
        right.evaluate_outline]
      rfl

theorem Conjunction.evaluate_outline :
    ∀ tree : Conjunction, tree.outline.evaluate setting id setting.look = tree.evaluate setting
  | .mk first rest => by
      rw [Conjunction.outline, Outline.evaluate, first.evaluate_outline,
        Conjunction.evaluate_restOutline rest, Conjunction.evaluate_eq]

theorem Conjunction.evaluate_restOutline :
    ∀ rest : List Equality,
      Outline.evaluateAll setting id setting.look (Conjunction.restOutline rest) =
        rest.map (Equality.evaluate setting)
  | [] => rfl
  | term :: rest => by
      rw [Conjunction.restOutline, Outline.evaluateAll, term.evaluate_outline,
        Conjunction.evaluate_restOutline rest, List.map_cons]

/-- Evaluating an expression is evaluating its outline. -/
theorem Disjunction.evaluate_outline :
    ∀ tree : Disjunction, tree.outline.evaluate setting id setting.look = tree.evaluate setting
  | .mk first rest => by
      rw [Disjunction.outline, Outline.evaluate, first.evaluate_outline,
        Disjunction.evaluate_restOutline rest, Disjunction.evaluate_eq]

theorem Disjunction.evaluate_restOutline :
    ∀ rest : List Conjunction,
      Outline.evaluateAll setting id setting.look (Disjunction.restOutline rest) =
        rest.map (Conjunction.evaluate setting)
  | [] => rfl
  | term :: rest => by
      rw [Disjunction.restOutline, Outline.evaluateAll, term.evaluate_outline,
        Disjunction.evaluate_restOutline rest, List.map_cons]

end

end Agreement

/-- The terms of a chain are evaluated from left to right, the first two in any case but the failure
of one; a disjunction ends with the first term, from the second one on, up to which one is true, and
a conjunction with the first up to which one is false.  A value that is no boolean ends a chain as
soon as two terms have been evaluated.  And an evaluation with noted lookups is the evaluation
itself, and notes the names that the expression refers to, from left to right, up to the first
failure and without the terms that chains skip. -/
theorem evaluation_order (setting : Setting) :
    (∀ (first second : Conjunction) (rest : List Conjunction) (world : World),
      ChainRun .or world ((first :: second :: rest).map (Conjunction.evaluate setting))
        (((Disjunction.mk first (second :: rest)).evaluate setting).run.run world).1
        (((Disjunction.mk first (second :: rest)).evaluate setting).run.run world).2) ∧
    (∀ (first second : Equality) (rest : List Equality) (world : World),
      ChainRun .and world ((first :: second :: rest).map (Equality.evaluate setting))
        (((Conjunction.mk first (second :: rest)).evaluate setting).run.run world).1
        (((Conjunction.mk first (second :: rest)).evaluate setting).run.run world).2) ∧
    ∀ expression : Expression,
      Notes (expression.root.outline.evaluate setting (·.1) (noting setting.look))
        (expression.evaluate setting) (expression.root.outline.consulted setting id setting.look) ∧
      ∀ world, (expression.root.outline.consulted setting id setting.look world).Sublist
        expression.root.outline.references := by
  refine ⟨fun first second rest world => ?_, fun first second rest world => ?_,
    fun expression => ⟨?_, expression.root.outline.consulted_sublist setting id setting.look⟩⟩
  · rw [Disjunction.evaluate_eq]
    exact Connective.evaluate_chainRun _ _ _ _ _
  · rw [Conjunction.evaluate_eq]
    exact Connective.evaluate_chainRun _ _ _ _ _
  · have notes := @Outline.evaluate_notes _ setting id setting.look expression.root.outline
    rwa [Disjunction.evaluate_outline] at notes

end Stencil.Expr
