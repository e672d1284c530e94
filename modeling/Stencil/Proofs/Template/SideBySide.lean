/-
Module: Stencil.Proofs.Template.SideBySide
Purpose: Renderings of one template from two models go in lockstep, if lookups in the models do.
Main exports: Rendering.Related, SideBySide, renderAll_lockstep, Kept, Kept.sideBySide
-/
import Stencil.Proofs.Expr.Simultaneous
import Stencil.Proofs.Property.Settling
import Stencil.Proofs.Template.Steps

namespace Stencil.Template

open Stencil.Expr (Expression)

/-- Two renderings under way, of which the objects and the models are related, and which have
written the same. -/
structure Rendering.Related (R : World → World → Prop) (M : Model → Model → Prop)
    (state other : Rendering) : Prop where
  world : R state.world other.world
  model : M state.model other.model
  written : other.written = state.written

theorem Rendering.Related.output {R : World → World → Prop} {M : Model → Model → Prop}
    {state other : Rendering} (related : Rendering.Related R M state other) :
    other.output = state.output := by
  rw [Rendering.output, Rendering.output, related.written]

/-- A rendering stops at a line, or at a failed lookup of a kind that `E` says. -/
def RenderError.Within (E : LookupError → Prop) : RenderError → Prop
  | .located _ _ _ => True
  | .lookup error => E error

/-- What related models need so that paths and conditions have the same values in both of them.  The
values of paths are of a kind that `Q` says, the failures of lookups, and of writing such values down,
of a kind that `E` says. -/
structure ReadAlike (setting : RenderSetting) (R : World → World → Prop)
    (M : Model → Model → Prop) (Q : Value → Prop) (E : LookupError → Prop) : Prop where
  isNull : ∀ {model other : Model}, M model other → other.isNull = model.isNull
  lookup : ∀ {model other : Model} (path : String), M model other → model.isNull = false →
    Lockstep R Q E (setting.resolver.getValue model path)
      (setting.resolver.getValue other path)
  items : ∀ {value : Value} {items : List Value}, Q value →
    LoopSource.ofValue? value = some (.list items) → ∀ item ∈ items, Q item
  texts : ∀ {world other : World}, R world other → ∀ value, Q value →
    other.text value = world.text value ∧
      Ends (fun _ => True) (fun raised => E (.raised raised)) (world.text value)
  digits : ∀ fault : DigitFault, E (.raised fault.raised)

/-- What is taken out of the variables of loops keeps states of the objects and models related. -/
structure TakenAlike (setting : RenderSetting) (R : World → World → Prop)
    (M : Model → Model → Prop) : Prop where
  current : ∀ {state other : Rendering}, R state.world other.world → M state.model other.model →
    M (setting.current state) (setting.current other)
  fresh : ∀ {world other : World}, R world other → R (setting.taken [] world) (setting.taken [] other)
  restored : ∀ {outer outer' world other : World}, R outer outer' → R world other →
    R (setting.taken outer.removed world) (setting.taken outer'.removed other)

/-- What related models and related states of the objects need so that one template does the same
from both of them. -/
structure SideBySide (setting : RenderSetting) (R : World → World → Prop)
    (M : Model → Model → Prop) (Q : Value → Prop) (E : LookupError → Prop) : Prop
    extends ReadAlike setting R M Q E, TakenAlike setting R M where
  shadow : ∀ {model other : Model}, M model other → M model.shadow other.shadow
  bind : ∀ {model other : Model} {item : Value} (name : String), M model other → Q item →
    M (model.bind name item) (other.bind name item)
  streams : ∀ {world other : World}, R world other → other.streams = world.streams
  drawn : ∀ {world other : World} {identity : Nat} {item : Value} {rest : List Value},
    R world other → world.remaining identity = item :: rest → Q item ∧
      R { world with streams := world.streams.set identity rest }
        { other with streams := world.streams.set identity rest }
  breaks : ∀ {world other : World}, R world other → other.breaks = world.breaks
  broken : ∀ {world other : World} {identity : Nat} {raised : Raised},
    R world other → world.breaks.lookup identity = some raised →
      E (.raised raised) ∧
        R { world with breaks := world.breaks.filter (·.1 != identity) }
          { other with breaks := world.breaks.filter (·.1 != identity) }

variable {R : World → World → Prop} {M : Model → Model → Prop} {Q : Value → Prop}
  {E : LookupError → Prop}

/-- Steps of two renderings end alike, with a value or with an error that is allowed. -/
abbrev Alongside {α : Type} (R : World → World → Prop) (M : Model → Model → Prop)
    (E : LookupError → Prop) (A : α → Prop) (step other : Render α) : Prop :=
  Lockstep (Rendering.Related R M) A (RenderError.Within E) step other

/-- Where the resolver looks loop scopes up by key, nothing is taken out of them. -/
theorem TakenAlike.of_sees {setting : RenderSetting}
    (sees : setting.resolver.seesVariables = true) : TakenAlike setting R M where
  current := by
    intro state other worlds models
    rw [setting.current_of_sees sees, setting.current_of_sees sees]
    exact models
  fresh := by
    intro world other worlds
    rw [setting.taken_of_sees sees, setting.taken_of_sees sees]
    exact worlds
  restored := by
    intro outer outer' world other outside worlds
    rw [setting.taken_of_sees sees, setting.taken_of_sees sees]
    exact worlds

/-! ### Steps -/

section Steps

variable {α ε : Type} {A : α → Prop} {F : ε → Prop}

theorem attempt_lockstep {work other : ExceptT ε (StateM World) α}
    (lockstep : Lockstep R A F work other) :
    Alongside R M E (Ends A F) (Render.attempt work) (Render.attempt other) := by
  intro before before' related
  obtain ⟨result, after, after', ran, ran', worlds, allowed⟩ :=
    lockstep before.world before'.world related.world
  refine ⟨.ok result, { before with world := after }, { before' with world := after' }, ?_, ?_,
    ⟨worlds, related.model, related.written⟩, allowed⟩
  · have step : (Render.attempt work).run.run before =
        (Except.ok (work.run.run before.world).1,
          { before with world := (work.run.run before.world).2 }) := rfl
    rw [step, ran]
  · have step : (Render.attempt other).run.run before' =
        (Except.ok (other.run.run before'.world).1,
          { before' with world := (other.run.run before'.world).2 }) := rfl
    rw [step, ran']

/-- A step in an inner model of its own, after which the outer ones are back. -/
theorem withModel_lockstep {setting : RenderSetting} (alike : TakenAlike setting R M)
    {inner inner' : Model} {step step' : Render α} (models : M inner inner')
    (lockstep : Alongside R M E A step step') :
    Alongside R M E A (Render.withModel setting inner step)
      (Render.withModel setting inner' step') := by
  intro before before' related
  obtain ⟨result, after, after', ran, ran', related', allowed⟩ :=
    lockstep (setting.entering inner before) (setting.entering inner' before')
      ⟨alike.fresh related.world, models, related.written⟩
  have worlds := alike.restored related.world related'.world
  exact ⟨result, _, _, run_withModel ran, run_withModel ran',
    ⟨worlds, related.model, related'.written⟩, allowed⟩

/-- The variable of a loop is bound alike. -/
theorem bindVariable_lockstep {setting : RenderSetting} (alike : TakenAlike setting R M)
    (bind : ∀ {model other : Model} {item : Value} (name : String), M model other → Q item →
      M (model.bind name item) (other.bind name item))
    (name : String) {item : Value} (allowed : Q item) :
    Alongside R M E (fun _ => True) (Render.bindVariable setting name item)
      (Render.bindVariable setting name item) := by
  apply Lockstep.update
  intro state other related
  have models := alike.current related.world related.model
  exact ⟨alike.fresh related.world, bind name models allowed, related.written⟩

theorem emit_lockstep (piece : String) :
    Alongside R M E (fun _ => True) (Render.emit piece) (Render.emit piece) := by
  refine Lockstep.update fun before before' related => ?_
  exact ⟨related.world, related.model, congrArg (·.push piece) related.written⟩

theorem write_lockstep (content : String) :
    Alongside R M E (fun _ => True) (Render.write content)
      (Render.write content) := by
  unfold Render.write
  split
  · exact Lockstep.pure trivial
  · exact emit_lockstep content

end Steps

section Reading

variable {setting : RenderSetting} (alike : ReadAlike setting R M Q E)

include alike

theorem resolvePath_lockstep (path : String) (line : Nat) :
    Alongside R M E Q (resolvePath setting path line)
      (resolvePath setting path line) := by
  unfold resolvePath
  refine Lockstep.get fun before before' related => ?_
  simp only [alike.isNull related.model]
  cases null : before.model.isNull with
  | true => exact Lockstep.bind_throw trivial
  | false =>
      simp only [Bool.false_eq_true, if_false]
      refine Lockstep.bind (attempt_lockstep (alike.lookup path related.model null)) ?_
      intro result ends
      cases result with
      | ok value => exact Lockstep.pure ends
      | error error =>
          simp only
          split
          · exact Lockstep.throw trivial
          · exact Lockstep.throw ends

/-- Related models give expressions the same values. -/
theorem evaluate_lockstep (condition : Expression) {model other : Model} (models : M model other) :
    Lockstep R (fun _ => True) (Expr.Failure.Within E)
      (condition.evaluate ⟨setting.resolver, model, []⟩)
      (condition.evaluate ⟨setting.resolver, other, []⟩) :=
  condition.evaluate_lockstep rfl (alike.isNull models)
    (fun path notNull => alike.lookup path models notNull)
    (fun _ _ related value allowed => alike.texts related value allowed) alike.digits

omit alike in
theorem conditionHolds_lockstep (source : String) (line : Nat) (value : Value) :
    Alongside R M E (fun _ => True) (conditionHolds setting source line value)
      (conditionHolds setting source line value) := by
  cases value with
  | boolean flag => exact Lockstep.pure trivial
  | text content =>
      simp only [conditionHolds]
      split
      · exact Lockstep.pure trivial
      · exact Lockstep.throw trivial
  | _ => exact Lockstep.throw trivial

theorem decideCondition_lockstep (condition : Expression) (line : Nat) :
    Alongside R M E (fun _ => True) (decideCondition setting condition line)
      (decideCondition setting condition line) := by
  unfold decideCondition
  refine Lockstep.get fun before before' related => ?_
  refine Lockstep.bind (attempt_lockstep (evaluate_lockstep alike condition related.model)) ?_
  intro result ends
  rcases result with (error | error) | value
  · exact Lockstep.throw trivial
  · simp only
    split
    · exact Lockstep.throw trivial
    · exact Lockstep.throw ends
  · exact conditionHolds_lockstep condition.source line value

/-- Whatever a loop runs over, the items that are there are of the given kind. -/
def LoopSource.Allowed (Q : Value → Prop) : LoopSource → Prop
  | .list items => ∀ item ∈ items, Q item
  | .stream _ => True

theorem loopSource_lockstep (path : String) (line : Nat) :
    Alongside R M E (LoopSource.Allowed Q) (loopSource setting path line)
      (loopSource setting path line) := by
  unfold loopSource
  refine Lockstep.bind (resolvePath_lockstep alike path line) fun value allowed => ?_
  cases value.isNull with
  | true => exact Lockstep.bind_throw trivial
  | false =>
      simp only [Bool.false_eq_true, if_false]
      cases source : LoopSource.ofValue? value with
      | none => exact Lockstep.throw trivial
      | some found =>
          refine Lockstep.pure ?_
          cases found with
          | list items => exact alike.items allowed source
          | stream identity => trivial

/-- A value of the given kind is written alike. -/
theorem writeValue_lockstep {value : Value} (allowed : Q value) :
    Alongside R M E (fun _ => True) (Render.writeValue value) (Render.writeValue value) := by
  unfold Render.writeValue
  refine Lockstep.get fun before before' related => ?_
  obtain ⟨same, ends⟩ := alike.texts related.world value allowed
  rw [same]
  cases written : before.world.text value with
  | ok content => exact write_lockstep content
  | error raised => exact Lockstep.throw (ends.error written)

/-- The value of a path is written alike. -/
theorem renderValue_lockstep (path : String) (line : Nat) :
    Alongside R M E (fun _ => True) ((Action.value path line).render setting)
      ((Action.value path line).render setting) := by
  unfold Action.render
  refine Lockstep.bind (resolvePath_lockstep alike path line) fun value allowed => ?_
  cases value.isNull with
  | true => exact Lockstep.bind_throw trivial
  | false => exact writeValue_lockstep alike allowed

end Reading

section Running

variable {setting : RenderSetting} (both : SideBySide setting R M Q E)

include both

omit both in
theorem overItems_lockstep {step step' : Value → Render Unit} {items : List Value}
    (steps : ∀ item, Q item → Alongside R M E (fun _ => True) (step item) (step' item))
    (allowed : ∀ item ∈ items, Q item) :
    Alongside R M E (fun _ => True) (overItems step items)
      (overItems step' items) := by
  induction items with
  | nil => exact Lockstep.pure trivial
  | cons item rest ih =>
      obtain ⟨here, later⟩ := List.forall_mem_cons.mp allowed
      exact Lockstep.bind (steps item here) fun _ _ => ih later

theorem endStream_lockstep (identity : Nat) :
    Alongside R M E (fun _ => True) (endStream identity) (endStream identity) := by
  unfold endStream
  refine Lockstep.get fun before before' related => ?_
  unfold World.takeBreak
  rw [both.breaks related.world]
  cases found : before.world.breaks.lookup identity with
  | none => exact Lockstep.pure trivial
  | some raised =>
      obtain ⟨allowed, worlds⟩ := both.broken related.world found
      refine Lockstep.bind (Lockstep.update fun state state' related' => ?_) fun _ _ => ?_
      · exact ⟨worlds, related'.model, related'.written⟩
      · exact Lockstep.throw allowed

theorem overStream_lockstep {step step' : Value → Render Unit} (identity bound : Nat)
    (steps : ∀ item, Q item →
      Alongside R M E (fun _ => True) (step item) (step' item)) :
    Alongside R M E (fun _ => True) (overStream step identity bound)
      (overStream step' identity bound) := by
  induction bound with
  | zero => exact endStream_lockstep both identity
  | succ bound ih =>
      unfold overStream
      refine Lockstep.get fun before before' related => ?_
      have same : before'.world.remaining identity = before.world.remaining identity := by
        rw [World.remaining, World.remaining, both.streams related.world]
      unfold World.takeNext
      rw [same, both.streams related.world]
      cases held : before.world.remaining identity with
      | nil => exact endStream_lockstep both identity
      | cons item rest =>
          obtain ⟨itemAllowed, drawn⟩ := both.drawn related.world held
          refine Lockstep.bind (Lockstep.update fun state state' related' => ?_) fun _ _ => ?_
          · exact ⟨drawn, related'.model, related'.written⟩
          · exact Lockstep.bind (steps item itemAllowed) fun _ _ => ih

theorem overSource_lockstep {step step' : Value → Render Unit} {source : LoopSource}
    (allowed : source.Allowed Q)
    (steps : ∀ item, Q item →
      Alongside R M E (fun _ => True) (step item) (step' item)) :
    Alongside R M E (fun _ => True) (overSource step source)
      (overSource step' source) := by
  cases source with
  | list items => exact overItems_lockstep steps allowed
  | stream identity =>
      refine Lockstep.get fun before before' related => ?_
      have same : before'.world.remaining identity = before.world.remaining identity := by
        rw [World.remaining, World.remaining, both.streams related.world]
      rw [same]
      exact overStream_lockstep both identity _ steps

end Running

mutual

theorem Action.render_lockstep {setting : RenderSetting} (both : SideBySide setting R M Q E) :
    ∀ action : Action,
      Alongside R M E (fun _ => True) (action.render setting) (action.render setting)
  | .text content => by
      unfold Action.render
      exact write_lockstep content
  | .line content => by
      unfold Action.render
      exact Lockstep.bind (write_lockstep content) fun _ _ => emit_lockstep _
  | .value path line => renderValue_lockstep both.toReadAlike path line
  | .branch condition whenTrue whenFalse line => by
      unfold Action.render
      have decided := decideCondition_lockstep both.toReadAlike condition line
      refine Lockstep.bind decided fun holds _ => ?_
      cases holds with
      | true => exact renderAll_lockstep both whenTrue
      | false => exact renderAll_lockstep both whenFalse
  | .loop name path body line => by
      unfold Action.render
      refine Lockstep.bind (loopSource_lockstep both.toReadAlike path line) fun source allowed => ?_
      refine Lockstep.get fun before before' related => ?_
      have models := both.current related.world related.model
      apply withModel_lockstep both.toTakenAlike (both.shadow models)
      apply overSource_lockstep both allowed
      intro item itemAllowed
      apply Lockstep.bind (bindVariable_lockstep both.toTakenAlike both.bind name itemAllowed)
      intro _ _
      exact renderAll_lockstep both body

/-- From related models and objects, the steps of a template do the same. -/
theorem renderAll_lockstep {setting : RenderSetting} (both : SideBySide setting R M Q E) :
    ∀ actions : List Action,
      Alongside R M E (fun _ => True) (renderAll setting actions) (renderAll setting actions)
  | [] => by
      unfold renderAll
      exact Lockstep.pure trivial
  | action :: rest => by
      unfold renderAll
      exact Lockstep.bind (Action.render_lockstep both action) fun _ _ =>
        renderAll_lockstep both rest

end

/-! ### One rendering on both sides -/

/-- One state of the objects and one model, on both sides, if lookups keep what holds of the state. -/
theorem readAlike_of_lookup {setting : RenderSetting} {P : World → Prop}
    (lookup : ∀ (model : Model) (path : String) (world : World), P world →
      P ((setting.resolver.getValue model path).run.run world).2) :
    ReadAlike setting (fun world other => other = world ∧ P world) (fun model other => other = model)
      (fun _ => True) (fun _ => True) where
  isNull := by
    rintro model _ rfl
    rfl
  lookup := by
    rintro model _ path rfl -
    apply Lockstep.alone
    intro before holds
    exact ⟨lookup _ path before holds, Ends.any _⟩
  items _ _ _ _ := trivial
  texts := by
    rintro world _ ⟨rfl, -⟩ value -
    exact ⟨rfl, .any _⟩
  digits _ := trivial

/-- Something holds of the objects that rendering keeps, whatever it does to them. -/
structure Kept (setting : RenderSetting) (P : World → Prop) : Prop where
  lookup : ∀ (model : Model) (path : String) (world : World), P world →
    P ((setting.resolver.getValue model path).run.run world).2
  fresh : ∀ {world : World}, P world → P (setting.taken [] world)
  restored : ∀ {outer world : World}, P outer → P world → P (setting.taken outer.removed world)
  drawn : ∀ {world after : World} {identity : Nat} {item : Value}, P world →
    world.takeNext identity = some (item, after) → P after
  broken : ∀ {world after : World} {identity : Nat} {raised : Raised}, P world →
    world.takeBreak identity = some (raised, after) → P after

namespace Kept

variable {setting : RenderSetting} {P : World → Prop}

theorem sideBySide (kept : Kept setting P) :
    SideBySide setting (fun world other => other = world ∧ P world)
      (fun model other => other = model) (fun _ => True) (fun _ => True) where
  toReadAlike := readAlike_of_lookup kept.lookup
  current := by
    intro state other worlds models
    rw [RenderSetting.current, RenderSetting.current, worlds.1, models]
  fresh := by
    rintro world _ ⟨rfl, holds⟩
    exact ⟨rfl, kept.fresh holds⟩
  restored := by
    rintro outer _ world _ ⟨rfl, outside⟩ ⟨rfl, holds⟩
    exact ⟨rfl, kept.restored outside holds⟩
  shadow := by
    rintro model _ rfl
    rfl
  bind := by
    rintro model _ item name rfl -
    rfl
  streams := by
    rintro world _ ⟨rfl, -⟩
    rfl
  drawn := by
    rintro world _ identity item rest ⟨rfl, holds⟩ held
    have taken := World.takeNext_eq_some_iff.mpr ⟨rest, held, rfl⟩
    exact ⟨trivial, rfl, kept.drawn holds taken⟩
  breaks := by
    rintro world _ ⟨rfl, -⟩
    rfl
  broken := by
    rintro world _ identity raised ⟨rfl, holds⟩ found
    have broken := World.takeBreak_eq_some_iff.mpr ⟨found, rfl⟩
    exact ⟨trivial, rfl, kept.broken holds broken⟩

/-- What goes in lockstep with itself wherever it holds keeps it. -/
theorem run {α : Type} {A : α → Prop} {step : Render α} {state after : Rendering}
    {result : Except RenderError α}
    (alongside : Alongside (fun world other => other = world ∧ P world)
      (fun model other => other = model) (fun _ => True) A step step)
    (holds : P state.world) (ran : step.run.run state = (result, after)) : P after.world := by
  have alone : Rendering.Related (fun world other => other = world ∧ P world)
      (fun model other => other = model) state state := ⟨⟨rfl, holds⟩, rfl, rfl⟩
  have related := (alongside.run_eq alone).2.1.world.2
  rwa [ran] at related

end Kept

end Stencil.Template
