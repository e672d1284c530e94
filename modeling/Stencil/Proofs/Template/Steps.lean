/-
Module: Stencil.Proofs.Template.Steps
Purpose: Single steps of a rendering: what they write, and how they end.
Main exports: Rendering.Wrote, Has, Lacks, Has.run_value, Lacks.run_value
-/
import Stencil.Proofs.Property.Lockstep
import Stencil.Template.Renderer

/-! ### Models from which variables are gone -/

namespace Stencil.Model

theorem without_nil (model : Model) : model.without [] = model := by
  cases model with
  | value subject => rfl
  | scope scope => simp [without, LoopScope.without]

theorem shadow_without (model : Model) (names : List String) :
    (model.without names).shadow = model.shadow.without names := by
  cases model with
  | scope scope => rfl
  | value subject =>
      cases subject with
      | map entries => rfl
      | _ => rfl

/-- Where a variable has been bound there is a mapping or a loop scope. -/
theorem bind_ne_value {model : Model} {name : String} {item subject : Value}
    (noMap : subject.isMap = false) : model.bind name item ≠ .value subject := by
  cases model with
  | scope scope => exact Model.noConfusion
  | value outer =>
      cases outer with
      | map entries =>
          rintro ⟨⟩
          cases noMap
      | _ => exact Model.noConfusion

end Stencil.Model

namespace Stencil.Template

/-! ### Steps one after another -/

theorem renderAll_singleton (setting : RenderSetting) (action : Action) :
    renderAll setting [action] = action.render setting := by
  simp only [renderAll, bind_pure_unit]

theorem renderAll_append (setting : RenderSetting) (front rest : List Action) :
    renderAll setting (front ++ rest) =
      renderAll setting front >>= fun _ => renderAll setting rest := by
  induction front with
  | nil =>
      rw [renderAll, pure_bind]
      rfl
  | cons action front ih => simp only [List.cons_append, renderAll, ih, bind_assoc]

/-! ### Into loops and out of them -/

section Loops

variable {setting : RenderSetting} (sees : setting.resolver.seesVariables = true)

include sees

/-- Where the resolver looks into loop scopes by key, the model is as it was made. -/
theorem RenderSetting.current_of_sees (state : Rendering) : setting.current state = state.model := by
  rw [RenderSetting.current, RenderSetting.gone, if_pos sees, Model.without_nil]

theorem RenderSetting.taken_of_sees (removed : List String) (world : World) :
    setting.taken removed world = world := by
  rw [RenderSetting.taken, if_pos sees]

theorem RenderSetting.entering_of_sees (inner : Model) (state : Rendering) :
    setting.entering inner state = { state with model := inner } := by
  rw [RenderSetting.entering, setting.taken_of_sees sees]

theorem RenderSetting.leaving_of_sees (outer state : Rendering) :
    setting.leaving outer state = { state with model := outer.model } := by
  rw [RenderSetting.leaving, setting.taken_of_sees sees]

theorem RenderSetting.binding_of_sees (name : String) (item : Value) (state : Rendering) :
    setting.binding name item state = { state with model := state.model.bind name item } := by
  rw [RenderSetting.binding, setting.taken_of_sees sees, setting.current_of_sees sees]

end Loops

/-- At the start of a loop no variables are gone. -/
theorem RenderSetting.binding_entering_model (setting : RenderSetting) (inner : Model)
    (state : Rendering) (name : String) (item : Value) :
    (setting.binding name item (setting.entering inner state)).model = inner.bind name item := by
  have noneGone : setting.gone (setting.entering inner state).world = [] := by
    unfold RenderSetting.gone RenderSetting.entering RenderSetting.taken
    split <;> simp_all
  rw [RenderSetting.binding, RenderSetting.current, noneGone, Model.without_nil]
  rfl

/-- A step in an inner model of its own ends as it does there. -/
theorem run_withModel {α : Type} {setting : RenderSetting} {inner : Model} {step : Render α}
    {before after : Rendering} {result : Except RenderError α}
    (ran : step.run.run (setting.entering inner before) = (result, after)) :
    (Render.withModel setting inner step).run.run before =
      (result, setting.leaving before after) := by
  have whole : (Render.withModel setting inner step).run.run before =
      ((step.run.run (setting.entering inner before)).1,
        setting.leaving before (step.run.run (setting.entering inner before)).2) := rfl
  rw [whole, ran]

/-! ### Text that is written -/

theorem Rendering.output_push (state : Rendering) (piece : String) :
    ({ state with written := state.written.push piece } : Rendering).output =
      state.output ++ piece := by
  unfold Rendering.output String.join
  rw [Array.toList_push, List.foldl_append]
  rfl

/-- From one rendering to another, a text has been written, and the objects have come to a state.  The
model is the same. -/
structure Rendering.Wrote (before : Rendering) (world : World) (text : String) (after : Rendering) :
    Prop where
  world : after.world = world
  model : after.model = before.model
  output : after.output = before.output ++ text

namespace Rendering

theorem Wrote.nothing (before : Rendering) (world : World) :
    before.Wrote world "" { before with world } :=
  ⟨rfl, rfl, String.append_empty.symm⟩

theorem Wrote.andThen {before between after : Rendering} {world world' : World}
    {text text' : String} (first : before.Wrote world text between)
    (second : between.Wrote world' text' after) : before.Wrote world' (text ++ text') after := by
  refine ⟨second.world, second.model.trans first.model, ?_⟩
  rw [second.output, first.output, String.append_assoc]

theorem Wrote.piece (before : Rendering) (piece : String) :
    before.Wrote before.world piece { before with written := before.written.push piece } :=
  ⟨rfl, rfl, before.output_push piece⟩

end Rendering

theorem run_write (content : String) (before : Rendering) :
    ∃ after, (Render.write content).run.run before = (.ok (), after) ∧
      before.Wrote before.world content after := by
  unfold Render.write
  cases blank : content.isEmpty with
  | true =>
      obtain rfl : content = "" := by simpa using blank
      exact ⟨before, rfl, .nothing before before.world⟩
  | false => exact ⟨_, rfl, .piece before content⟩

/-- Writing a value writes its text, if it has one. -/
theorem run_writeValue {value : Value} {text : String} {before : Rendering}
    (written : before.world.text value = .ok text) :
    ∃ after, (Render.writeValue value).run.run before = (.ok (), after) ∧
      before.Wrote before.world text after := by
  have seen : (get : Render Rendering).run.run before = (.ok before, before) := rfl
  unfold Render.writeValue
  rw [run_bind_ok seen, written]
  exact run_write text before

/-- A value without a text stops the rendering. -/
theorem run_writeValue_error {value : Value} {raised : Raised} {before : Rendering}
    (failed : before.world.text value = .error raised) :
    (Render.writeValue value).run.run before = (.error (.lookup (.raised raised)), before) := by
  have seen : (get : Render Rendering).run.run before = (.ok before, before) := rfl
  unfold Render.writeValue
  rw [run_bind_ok seen, failed]
  rfl

/-- The step of a line writes it and the terminator. -/
theorem run_line (setting : RenderSetting) (content : String) (before : Rendering) :
    ∃ after, ((Action.line content).render setting).run.run before = (.ok (), after) ∧
      before.Wrote before.world (content ++ setting.terminator) after := by
  obtain ⟨between, ran, wrote⟩ := run_write content before
  refine ⟨_, run_bind_ok ran, ?_⟩
  rw [← wrote.world]
  exact wrote.andThen (.piece between setting.terminator)

/-! ### Values of paths -/

section Paths

variable {setting : RenderSetting} {before : Rendering}

/-- Work on the objects is seen to end as it does. -/
theorem run_attempt {ε α : Type} {work : ExceptT ε (StateM World) α} {result : Except ε α}
    {world : World} (ran : work.run.run before.world = (result, world)) :
    (Render.attempt work).run.run before = (.ok result, { before with world }) := by
  have step : (Render.attempt work).run.run before =
      (.ok (work.run.run before.world).1,
        { before with world := (work.run.run before.world).2 }) := rfl
  rw [step, ran]

theorem eq_of_run_attempt {ε α : Type} {work : ExceptT ε (StateM World) α} {result : Except ε α}
    {after : Rendering} (ran : (Render.attempt work).run.run before = (.ok result, after)) :
    work.run.run before.world = (result, after.world) ∧ after.written = before.written := by
  obtain ⟨⟨found, world⟩, looked⟩ : ∃ ended, work.run.run before.world = ended := ⟨_, rfl⟩
  rw [run_attempt looked] at ran
  cases ran
  exact ⟨looked, rfl⟩

/-- Why a rendering stops at a path whose lookup has failed. -/
def lookupStop (setting : RenderSetting) (line : Nat) (error : LookupError) : RenderError :=
  if error.isResolution then .located (.unresolved error) line setting.uri else .lookup error

theorem resolvePath_null {path : String} {line : Nat} (null : before.model.isNull = true) :
    (resolvePath setting path line).run.run before =
      (.error (.located (.noModel path) line setting.uri), before) := by
  have seen : (get : Render Rendering).run.run before = (.ok before, before) := rfl
  unfold resolvePath
  rw [run_bind_ok seen]
  simp only [null, if_true]
  rfl

/-- In a model that is there, a path is looked up once. -/
theorem run_resolvePath (setting : RenderSetting) (present : before.model.isNull = false)
    (path : String) (line : Nat) :
    (resolvePath setting path line).run.run before =
      match (setting.resolver.getValue before.model path).run.run before.world with
      | (.ok value, world) => (.ok value, { before with world })
      | (.error error, world) =>
          (.error (lookupStop setting line error), { before with world }) := by
  obtain ⟨⟨result, world⟩, looked⟩ : ∃ ended,
      (setting.resolver.getValue before.model path).run.run before.world = ended := ⟨_, rfl⟩
  have seen : (get : Render Rendering).run.run before = (.ok before, before) := rfl
  unfold resolvePath
  rw [run_bind_ok seen, looked]
  simp only [present, Bool.false_eq_true, if_false]
  rw [run_bind_ok (run_attempt looked)]
  cases result with
  | ok value => rfl
  | error error =>
      simp only [lookupStop]
      cases error.isResolution <;> rfl

/-- A path has a value other than null, and this has a text. -/
structure Has (resolver : Resolver) (model : Model) (world : World) (path : String) (value : Value)
    (text : String) (after : World) : Prop where
  present : model.isNull = false
  looked : (resolver.getValue model path).run.run world = (.ok value, after)
  notNull : value.isNull = false
  written : after.text value = .ok text

/-- A rendering stops at a path without a text to write: there is no model, the lookup gives null or
fails, or the value has no text. -/
inductive Lacks (setting : RenderSetting) (line : Nat) (model : Model) (world : World)
    (path : String) : RenderError → World → Prop where
  | noModel (null : model.isNull = true) :
      Lacks setting line model world path (.located (.noModel path) line setting.uri) world
  | null {after : World} {value : Value} (present : model.isNull = false)
      (looked : (setting.resolver.getValue model path).run.run world = (.ok value, after))
      (null : value.isNull = true) :
      Lacks setting line model world path (.located (.nullVariable path) line setting.uri) after
  | failed {after : World} {error : LookupError} (present : model.isNull = false)
      (looked : (setting.resolver.getValue model path).run.run world = (.error error, after)) :
      Lacks setting line model world path (lookupStop setting line error) after
  | unwritable {after : World} {value : Value} {raised : Raised} (present : model.isNull = false)
      (looked : (setting.resolver.getValue model path).run.run world = (.ok value, after))
      (notNull : value.isNull = false) (unwritten : after.text value = .error raised) :
      Lacks setting line model world path (.lookup (.raised raised)) after

/-- A path has a text to write or it lacks one. -/
theorem has_or_lacks (setting : RenderSetting) (line : Nat) (model : Model) (world : World)
    (path : String) :
    (∃ value text after, Has setting.resolver model world path value text after) ∨
      ∃ error after, Lacks setting line model world path error after := by
  cases present : model.isNull with
  | true => exact .inr ⟨_, _, .noModel present⟩
  | false =>
      obtain ⟨⟨result, after⟩, looked⟩ : ∃ ended,
        (setting.resolver.getValue model path).run.run world = ended := ⟨_, rfl⟩
      cases result with
      | error error => exact .inr ⟨_, _, .failed present looked⟩
      | ok value =>
          cases null : value.isNull with
          | true => exact .inr ⟨_, _, .null present looked null⟩
          | false =>
              cases written : after.text value with
              | ok text => exact .inl ⟨value, text, after, present, looked, null, written⟩
              | error raised => exact .inr ⟨_, _, .unwritable present looked null written⟩

/-- The step of a path with a text writes it. -/
theorem Has.run_value {path : String} {value : Value} {text : String} {world : World}
    (has : Has setting.resolver before.model before.world path value text world) (line : Nat) :
    ∃ after, ((Action.value path line).render setting).run.run before = (.ok (), after) ∧
      before.Wrote world text after := by
  have resolved := run_resolvePath setting has.present path line
  rw [has.looked] at resolved
  have written : ({ before with world } : Rendering).world.text value = .ok text := has.written
  obtain ⟨after, ran, wrote⟩ := run_writeValue written
  refine ⟨after, ?_, wrote.world, wrote.model, wrote.output⟩
  unfold Action.render
  rw [run_bind_ok resolved]
  simp only [has.notNull, Bool.false_eq_true, if_false]
  exact ran

/-- The step of a path without one stops and writes nothing. -/
theorem Lacks.run_value {path : String} {line : Nat} {error : RenderError} {world : World}
    (lacks : Lacks setting line before.model before.world path error world) :
    ((Action.value path line).render setting).run.run before =
      (.error error, { before with world }) := by
  unfold Action.render
  cases lacks with
  | noModel null => exact run_bind_error (resolvePath_null null)
  | null present looked null =>
      have resolved := run_resolvePath setting present path line
      rw [looked] at resolved
      rw [run_bind_ok resolved]
      simp only [null, if_true]
      rfl
  | failed present looked =>
      have resolved := run_resolvePath setting present path line
      rw [looked] at resolved
      exact run_bind_error resolved
  | unwritable present looked notNull unwritten =>
      have resolved := run_resolvePath setting present path line
      rw [looked] at resolved
      rw [run_bind_ok resolved]
      simp only [notNull, Bool.false_eq_true, if_false]
      exact run_writeValue_error unwritten

end Paths

end Stencil.Template
