/-
Module: Stencil.Proofs.Template.InPlace
Purpose: Renderings that share their models and write loop variables into them in place, and that
  they do what renderings do that make a model of its own for each loop.
Main exports: Heap, Slot, Stage, Action.renderInPlace, Heap.Extends, Mirror,
  Action.renderInPlace_mirrored, Action.render_model
-/
import Mathlib.Control.Monad.Basic
import Stencil.Proofs.Template.SideBySide

namespace Stencil.Template

/-! ### Models that are shared -/

/-- The dictionaries of a rendering by their addresses: the mappings that are models, and the
variables of loop scopes.  Whoever holds an address sees what is written there. -/
structure Heap where
  mappings : List (List (Value × Value)) := []
  scopes : List (List (String × Value)) := []
deriving Repr, Inhabited

/-- What a rendering holds as its model: a value that is no mapping, the address of a mapping, or a
loop scope with the address of its variables. -/
inductive Slot where
  | plain (subject : Value)
  | mapping (address : Nat)
  | scope (base : Value) (address : Nat)
deriving Repr, Inhabited, BEq

namespace Heap

/-- The model that is held, as it is now. -/
def read (heap : Heap) : Slot → Model
  | .plain subject => .value subject
  | .mapping address => .value (.map (heap.mappings[address]?.getD []))
  | .scope base address => .scope ⟨base, heap.scopes[address]?.getD []⟩

/-- Make the model of a loop, at an address of its own: a copy of a mapping, a scope with a copy of
the variables, or a scope without variables. -/
def shadow (heap : Heap) : Slot → Slot × Heap
  | .plain subject =>
      (.scope subject heap.scopes.length, { heap with scopes := heap.scopes ++ [[]] })
  | .mapping address =>
      (.mapping heap.mappings.length,
        { heap with mappings := heap.mappings ++ [heap.mappings[address]?.getD []] })
  | .scope base address =>
      (.scope base heap.scopes.length,
        { heap with scopes := heap.scopes ++ [heap.scopes[address]?.getD []] })

/-- Write a variable into a dictionary. -/
def store (heap : Heap) (name : String) (item : Value) : Slot → Heap
  | .plain _ => heap
  | .mapping address =>
      { heap with mappings := heap.mappings.modify address (Value.bind · name item) }
  | .scope _ address =>
      { heap with scopes := heap.scopes.modify address (bindName · name item) }

/-- Take variables out of a dictionary of variables. -/
def take (heap : Heap) (names : List String) : Slot → Heap
  | .plain _ | .mapping _ => heap
  | .scope _ address =>
      { heap with
        scopes := heap.scopes.modify address (·.filter fun binding => !names.contains binding.1) }

/-- The dictionary that is held is there. -/
def Holds (heap : Heap) : Slot → Prop
  | .plain subject => subject.isMap = false
  | .mapping address => address < heap.mappings.length
  | .scope _ address => address < heap.scopes.length

/-- Every dictionary that there was is there, with the same entries in the same order. -/
structure Extends (heap later : Heap) : Prop where
  mappings : heap.mappings <+: later.mappings
  scopes : heap.scopes <+: later.scopes

/-- What is held is no dictionary that there was. -/
def Fresh (heap : Heap) : Slot → Prop
  | .plain _ => False
  | .mapping address => heap.mappings.length ≤ address
  | .scope _ address => heap.scopes.length ≤ address

variable {heap between later : Heap} {slot : Slot}

theorem Extends.refl (heap : Heap) : heap.Extends heap :=
  ⟨List.prefix_refl _, List.prefix_refl _⟩

theorem Extends.trans (first : heap.Extends between) (second : between.Extends later) :
    heap.Extends later :=
  ⟨first.mappings.trans second.mappings, first.scopes.trans second.scopes⟩

/-- A dictionary that is there stays. -/
theorem Extends.holds (extended : heap.Extends later) (holds : heap.Holds slot) :
    later.Holds slot := by
  cases slot with
  | plain subject => exact holds
  | mapping address => exact Nat.lt_of_lt_of_le holds extended.mappings.length_le
  | scope base address => exact Nat.lt_of_lt_of_le holds extended.scopes.length_le

theorem getElem?_of_prefix {α : Type} {front entries : List α} {place : Nat}
    (first : front <+: entries) (inside : place < front.length) :
    entries[place]? = front[place]? := by
  rw [List.prefix_iff_getElem?.mp first place inside, List.getElem?_eq_getElem inside]

/-- Whoever holds a dictionary that is there sees the same in it. -/
theorem Extends.read (extended : heap.Extends later) (holds : heap.Holds slot) :
    later.read slot = heap.read slot := by
  cases slot with
  | plain subject => rfl
  | mapping address =>
      rw [Heap.read, Heap.read, getElem?_of_prefix extended.mappings holds]
  | scope base address =>
      rw [Heap.read, Heap.read, getElem?_of_prefix extended.scopes holds]

/-! ### The model of a loop -/

theorem shadow_extends (heap : Heap) (slot : Slot) : heap.Extends (heap.shadow slot).2 := by
  cases slot with
  | plain subject => exact ⟨List.prefix_refl _, List.prefix_append _ _⟩
  | mapping address => exact ⟨List.prefix_append _ _, List.prefix_refl _⟩
  | scope base address => exact ⟨List.prefix_refl _, List.prefix_append _ _⟩

theorem shadow_fresh (heap : Heap) (slot : Slot) : heap.Fresh (heap.shadow slot).1 := by
  cases slot <;> exact Nat.le_refl _

theorem shadow_holds (heap : Heap) (slot : Slot) :
    (heap.shadow slot).2.Holds (heap.shadow slot).1 := by
  cases slot <;> simp [shadow, Holds]

theorem read_shadow (holds : heap.Holds slot) :
    (heap.shadow slot).2.read (heap.shadow slot).1 = (heap.read slot).shadow := by
  cases slot with
  | plain subject =>
      cases subject with
      | map entries => cases holds
      | _ => simp [shadow, read, Model.shadow]
  | mapping address => simp [shadow, read, Model.shadow]
  | scope base address => simp [shadow, read, Model.shadow, LoopScope.child]

/-! ### Writing -/

variable {name : String} {item : Value}

theorem store_holds (holds : heap.Holds slot) : (heap.store name item slot).Holds slot := by
  cases slot with
  | plain subject => exact holds
  | mapping address => simpa [store, Holds] using holds
  | scope base address => simpa [store, Holds] using holds

theorem read_store {old : Heap} (holds : heap.Holds slot) (fresh : old.Fresh slot) :
    (heap.store name item slot).read slot = (heap.read slot).bind name item := by
  cases slot with
  | plain subject => exact fresh.elim
  | mapping address =>
      have there : address < heap.mappings.length := holds
      simp [store, read, Model.bind, there]
  | scope base address =>
      have there : address < heap.scopes.length := holds
      simp [store, read, Model.bind, LoopScope.bind, there]

theorem take_holds (names : List String) (holds : heap.Holds slot) :
    (heap.take names slot).Holds slot := by
  cases slot with
  | plain subject => exact holds
  | mapping address => exact holds
  | scope base address => simpa [take, Holds] using holds

theorem read_take {names : List String} (holds : heap.Holds slot) :
    (heap.take names slot).read slot = (heap.read slot).without names := by
  cases slot with
  | plain subject => rfl
  | mapping address => rfl
  | scope base address =>
      have there : address < heap.scopes.length := holds
      simp [take, read, Model.without, LoopScope.without, there]

/-- What is written behind a prefix leaves the prefix alone. -/
theorem prefix_modify {α : Type} {front entries : List α} {address : Nat} (change : α → α)
    (first : front <+: entries) (behind : front.length ≤ address) :
    front <+: entries.modify address change := by
  rw [List.prefix_iff_getElem?] at first ⊢
  intro place inside
  have elsewhere : address ≠ place := by omega
  rw [List.getElem?_modify, first place inside]
  simp [elsewhere]

/-- Writing into a dictionary of its own leaves those alone that there were before. -/
theorem Extends.store (extended : heap.Extends later) (fresh : heap.Fresh slot) :
    heap.Extends (later.store name item slot) := by
  cases slot with
  | plain subject => exact extended
  | mapping address => exact ⟨prefix_modify _ extended.mappings fresh, extended.scopes⟩
  | scope base address => exact ⟨extended.mappings, prefix_modify _ extended.scopes fresh⟩

theorem Extends.take {names : List String} (extended : heap.Extends later)
    (fresh : heap.Fresh slot) : heap.Extends (later.take names slot) := by
  cases slot with
  | plain subject => exact extended
  | mapping address => exact extended
  | scope base address => exact ⟨extended.mappings, prefix_modify _ extended.scopes fresh⟩

end Heap

/-! ### Renderings in place -/

/-- A rendering under way that holds its model by address. -/
structure Stage where
  world : World
  heap : Heap
  slot : Slot
  written : Array String := #[]
deriving Inhabited

/-- The rendering as it is now. -/
def Stage.view (stage : Stage) : Rendering :=
  ⟨stage.world, stage.heap.read stage.slot, stage.written⟩

@[simp] theorem Stage.view_world (stage : Stage) : stage.view.world = stage.world :=
  rfl

/-- Steps of a rendering that holds its model by address. -/
abbrev InPlace (α : Type) := ExceptT RenderError (StateM Stage) α

namespace InPlace

variable {α : Type}

/-- A step that reads the model and writes no dictionary. -/
def lift (step : Render α) : InPlace α := fun stage =>
  let (result, after) := step.run stage.view
  (result, { stage with world := after.world, written := after.written })

/-- Hold the model of a loop while a step runs, and then the one from before again, whether or not
the step failed.  The dictionary of the loop starts without the variables that are gone. -/
def inShadow (setting : RenderSetting) (step : Slot → InPlace α) : InPlace α := fun stage =>
  let (inner, heap) := stage.heap.shadow stage.slot
  let (result, after) := (step inner).run
    { stage with
      world := setting.taken [] stage.world
      heap := heap.take (setting.gone stage.world) inner
      slot := inner }
  (result,
    { after with world := setting.taken stage.world.removed after.world, slot := stage.slot })

/-- Write a loop variable into the dictionary of a loop, and take those out that are gone. -/
def store (setting : RenderSetting) (inner : Slot) (name : String) (item : Value) : InPlace Unit :=
  modify fun stage =>
    { stage with
      world := setting.taken [] stage.world
      heap := (stage.heap.take (setting.gone stage.world) inner).store name item inner }

/-- Run a step for each item. -/
def overItems (step : Value → InPlace Unit) : List Value → InPlace Unit
  | [] => pure ()
  | item :: rest => do
      step item
      overItems step rest

/-- Run a step for each element that a stream still gives, at most `bound` of them. -/
def overStream (step : Value → InPlace Unit) (identity : Nat) : Nat → InPlace Unit
  | 0 => lift (endStream identity)
  | bound + 1 => do
      match (← get).world.takeNext identity with
      | none => lift (endStream identity)
      | some (item, world) => do
          modify fun stage => { stage with world }
          step item
          overStream step identity bound

/-- Run a step for each item of a source. -/
def overSource (step : Value → InPlace Unit) : LoopSource → InPlace Unit
  | .list items => overItems step items
  | .stream identity => do
      overStream step identity ((← get).world.remaining identity).length

end InPlace

open InPlace

mutual

/-- Run one step of a template, writing loop variables in place. -/
def Action.renderInPlace (setting : RenderSetting) : Action → InPlace Unit
  | .text content => lift ((Action.text content).render setting)
  | .line content => lift ((Action.line content).render setting)
  | .value path line => lift ((Action.value path line).render setting)
  | .branch condition whenTrue whenFalse line => do
      if ← lift (decideCondition setting condition line) then renderAllInPlace setting whenTrue
      else renderAllInPlace setting whenFalse
  | .loop name path body line => do
      let source ← lift (loopSource setting path line)
      inShadow setting fun inner => InPlace.overSource (fun item => do
        store setting inner name item
        renderAllInPlace setting body) source

/-- Run steps one after another, writing loop variables in place. -/
def renderAllInPlace (setting : RenderSetting) : List Action → InPlace Unit
  | [] => pure ()
  | action :: rest => do
      action.renderInPlace setting
      renderAllInPlace setting rest

end

/-! ### Steps that write no dictionary -/

/-- A step that keeps the model. -/
def Quiet {α : Type} (step : Render α) : Prop :=
  ∀ before, (step.run.run before).2.model = before.model

theorem Quiet.model {α : Type} {step : Render α} {state after : Rendering}
    {result : Except RenderError α} (quiet : Quiet step)
    (ran : step.run.run state = (result, after)) : after.model = state.model := by
  have kept := quiet state
  rwa [ran] at kept

/-- One state of the objects and one model, on both sides. -/
theorem readAlike_alone (setting : RenderSetting) (model : Model) :
    ReadAlike setting (fun world other => other = world) (fun one other => other = one ∧ one = model)
      (fun _ => True) (fun _ => True) where
  isNull := by
    rintro one other ⟨rfl, -⟩
    rfl
  lookup := by
    rintro one other path ⟨rfl, -⟩ -
    exact Lockstep.same _
  items _ _ _ _ := trivial
  texts := by
    rintro world other rfl value -
    exact ⟨rfl, .any _⟩
  digits _ := trivial

/-- Steps that go in lockstep with themselves are quiet. -/
theorem Quiet.of_alongside {α : Type} {A : α → Prop} {step : Render α}
    (alongside : ∀ model,
      Alongside (fun world other => other = world) (fun one other => other = one ∧ one = model)
        (fun _ => True) A step step) :
    Quiet step := by
  intro before
  have start : Rendering.Related (fun world other => other = world)
      (fun one other => other = one ∧ one = before.model) before before :=
    ⟨rfl, ⟨rfl, rfl⟩, rfl⟩
  obtain ⟨-, related, -⟩ := (alongside before.model).run_eq start
  exact related.model.2

section Leaves

variable {setting : RenderSetting}

theorem quiet_text (content : String) : Quiet ((Action.text content).render setting) := by
  apply Quiet.of_alongside (A := fun _ => True)
  intro model
  unfold Action.render
  exact write_lockstep content

theorem quiet_line (content : String) : Quiet ((Action.line content).render setting) := by
  apply Quiet.of_alongside (A := fun _ => True)
  intro model
  unfold Action.render
  exact Lockstep.bind (write_lockstep content) fun _ _ => emit_lockstep _

theorem quiet_value (path : String) (line : Nat) :
    Quiet ((Action.value path line).render setting) :=
  .of_alongside fun model =>
    renderValue_lockstep (readAlike_alone setting model) path line

theorem quiet_condition (condition : Expr.Expression) (line : Nat) :
    Quiet (decideCondition setting condition line) :=
  .of_alongside fun model =>
    decideCondition_lockstep (readAlike_alone setting model) condition line

theorem quiet_source (path : String) (line : Nat) : Quiet (loopSource setting path line) :=
  .of_alongside fun model =>
    loopSource_lockstep (readAlike_alone setting model) path line

theorem quiet_end (identity : Nat) : Quiet (endStream identity) := by
  intro before
  unfold endStream
  have seen : (get : Render Rendering).run.run before = (.ok before, before) := rfl
  rw [run_bind_ok seen]
  cases before.world.takeBreak identity with
  | none => rfl
  | some found => rfl

end Leaves

/-! ### In place and with models of its own -/

/-- A rendering in place, under way since `base` with one model held, and the rendering that it
stands for.  The dictionaries of `base` are as they were. -/
structure Mirror (base : Stage) (held : Slot) (stage : Stage) (state : Rendering) : Prop where
  view : state = stage.view
  slot : stage.slot = held
  holds : stage.heap.Holds held
  keeps : base.heap.Extends stage.heap

/-- From every stage that has come from `base`, a step in place does what the step does that it
stands for. -/
abbrev Mirrored {α : Type} (base : Stage) (held : Slot) (step : InPlace α) (other : Render α) :
    Prop :=
  Lockstep (Mirror base held) (fun _ => True) (fun _ => True) step other

section Steps

variable {setting : RenderSetting} {base : Stage} {held : Slot} {α : Type}

theorem Mirror.start {stage : Stage} (holds : stage.heap.Holds stage.slot) :
    Mirror stage stage.slot stage stage.view :=
  ⟨rfl, rfl, holds, .refl _⟩

theorem lift_mirrored {step : Render α} (quiet : Quiet step) :
    Mirrored base held (lift step) step := by
  rintro stage state ⟨rfl, rfl, holds, keeps⟩
  refine ⟨_, _, _, rfl, rfl, ⟨?_, rfl, holds, keeps⟩, Ends.any _⟩
  exact congrArg (Rendering.mk _ · _) (quiet stage.view)

/-- Into a dictionary that `base` does not have, a variable is written without harm. -/
theorem store_mirrored (fresh : base.heap.Fresh held) (name : String) (item : Value) :
    Mirrored base held (store setting held name item) (Render.bindVariable setting name item) := by
  apply Lockstep.update
  rintro stage state ⟨rfl, rfl, holds, keeps⟩
  have taken := Heap.take_holds (setting.gone stage.world) holds
  have read : ((stage.heap.take (setting.gone stage.world) stage.slot).store name item
      stage.slot).read stage.slot = (setting.current stage.view).bind name item := by
    rw [Heap.read_store taken fresh, Heap.read_take holds]
    rfl
  refine ⟨?_, rfl, Heap.store_holds taken, (keeps.take fresh).store fresh⟩
  exact congrArg (Rendering.mk _ · _) read.symm

/-- The stage in which a loop starts, with the dictionary that it makes. -/
def Stage.inside (setting : RenderSetting) (stage : Stage) : Stage :=
  { stage with
    world := setting.taken [] stage.world
    heap := (stage.heap.shadow stage.slot).2.take (setting.gone stage.world)
      (stage.heap.shadow stage.slot).1
    slot := (stage.heap.shadow stage.slot).1 }

/-- It stands for the rendering that goes into the loop. -/
theorem Mirror.inside (setting : RenderSetting) {stage : Stage}
    (holds : stage.heap.Holds stage.slot) :
    Mirror stage (stage.heap.shadow stage.slot).1 (stage.inside setting)
      (setting.entering (setting.current stage.view).shadow stage.view) := by
  have made := Heap.shadow_holds stage.heap stage.slot
  have fresh := Heap.shadow_fresh stage.heap stage.slot
  have read : (stage.inside setting).heap.read (stage.heap.shadow stage.slot).1 =
      (setting.current stage.view).shadow := by
    unfold Stage.inside RenderSetting.current
    rw [Heap.read_take made, Heap.read_shadow holds, Model.shadow_without]
    rfl
  refine ⟨?_, rfl, Heap.take_holds _ made, (Heap.shadow_extends _ _).take fresh⟩
  exact congrArg (Rendering.mk _ · _) read.symm

/-- A loop writes only into the dictionary that it makes, so that the one from before can be held
again. -/
theorem inShadow_mirrored {step : Slot → InPlace α} {other : Render α}
    (steps : ∀ start inner, start.heap.Fresh inner → Mirrored start inner (step inner) other) :
    Mirrored base held (inShadow setting step)
      (do Render.withModel setting (setting.current (← get)).shadow other) := by
  rintro stage state ⟨rfl, rfl, holds, keeps⟩
  -- The stage in which the loop starts is the base of its steps: what `base` does not have may well be
  -- the dictionary of a loop around this one, and that is to be left alone, too.
  obtain ⟨result, after, after', ran, ran', mirror, -⟩ :=
    steps stage _ (Heap.shadow_fresh _ _) _ _ (Mirror.inside setting holds)
  obtain ⟨rfl, -, -, extended⟩ := mirror
  refine ⟨result,
    { after with world := setting.taken stage.world.removed after.world, slot := stage.slot },
    setting.leaving stage.view after.view, ?_, run_withModel ran',
    ⟨?_, rfl, extended.holds holds, keeps.trans extended⟩, Ends.any _⟩
  · exact congrArg (fun run => (run.1,
      { run.2 with
        world := setting.taken stage.world.removed run.2.world, slot := stage.slot })) ran
  · exact congrArg (Rendering.mk _ · _) (extended.read holds).symm

section Loops

variable {step : Value → InPlace Unit} {other : Value → Render Unit}
  (steps : ∀ item, Mirrored base held (step item) (other item))

include steps

theorem overItems_mirrored (items : List Value) :
    Mirrored base held (InPlace.overItems step items) (Template.overItems other items) := by
  induction items with
  | nil => exact Lockstep.pure trivial
  | cons item rest ih => exact Lockstep.bind (steps item) fun _ _ => ih

theorem overStream_mirrored (identity bound : Nat) :
    Mirrored base held (InPlace.overStream step identity bound)
      (Template.overStream other identity bound) := by
  induction bound with
  | zero => exact lift_mirrored (quiet_end identity)
  | succ bound ih =>
      apply Lockstep.get
      rintro stage state ⟨rfl, -, -, -⟩
      rw [Stage.view_world]
      cases stage.world.takeNext identity with
      | none => exact lift_mirrored (quiet_end identity)
      | some found =>
          obtain ⟨item, after⟩ := found
          refine Lockstep.bind (Lockstep.update ?_) fun _ _ => ?_
          · rintro _ _ ⟨rfl, rfl, holds, keeps⟩
            exact ⟨rfl, rfl, holds, keeps⟩
          · exact Lockstep.bind (steps item) fun _ _ => ih

theorem overSource_mirrored (source : LoopSource) :
    Mirrored base held (InPlace.overSource step source) (Template.overSource other source) := by
  cases source with
  | list items => exact overItems_mirrored steps items
  | stream identity =>
      apply Lockstep.get
      rintro stage state ⟨rfl, -, -, -⟩
      exact overStream_mirrored steps identity _

end Loops

end Steps

mutual

/-- A rendering in place does what the rendering does that makes a model of its own for each
loop. -/
theorem Action.renderInPlace_mirrored (setting : RenderSetting) :
    ∀ (action : Action) (base : Stage) (held : Slot),
      Mirrored base held (action.renderInPlace setting) (action.render setting)
  | .text content, _, _ => by
      unfold Action.renderInPlace
      exact lift_mirrored (quiet_text content)
  | .line content, _, _ => by
      unfold Action.renderInPlace
      exact lift_mirrored (quiet_line content)
  | .value path line, _, _ => by
      unfold Action.renderInPlace
      exact lift_mirrored (quiet_value path line)
  | .branch condition whenTrue whenFalse line, base, held => by
      unfold Action.renderInPlace Action.render
      refine Lockstep.bind (lift_mirrored (quiet_condition condition line)) fun holds _ => ?_
      cases holds with
      | true => exact renderAllInPlace_mirrored setting whenTrue base held
      | false => exact renderAllInPlace_mirrored setting whenFalse base held
  | .loop name path body line, base, held => by
      unfold Action.renderInPlace Action.render
      refine Lockstep.bind (lift_mirrored (quiet_source path line)) fun source _ => ?_
      apply inShadow_mirrored
      intro start inner fresh
      apply overSource_mirrored
      intro item
      refine Lockstep.bind (store_mirrored fresh name item) fun _ _ => ?_
      exact renderAllInPlace_mirrored setting body start inner

theorem renderAllInPlace_mirrored (setting : RenderSetting) :
    ∀ (actions : List Action) (base : Stage) (held : Slot),
      Mirrored base held (renderAllInPlace setting actions) (renderAll setting actions)
  | [], _, _ => by
      unfold renderAllInPlace renderAll
      exact Lockstep.pure trivial
  | action :: rest, base, held => by
      unfold renderAllInPlace renderAll
      exact Lockstep.bind (Action.renderInPlace_mirrored setting action base held) fun _ _ =>
        renderAllInPlace_mirrored setting rest base held

end

/-! ### Renderings with models of their own -/

/-- Every rendering stands for one that holds its model by address. -/
theorem Stage.exists_view (state : Rendering) :
    ∃ stage : Stage, stage.heap.Holds stage.slot ∧ stage.view = state := by
  obtain ⟨world, model, written⟩ := state
  rcases model with subject | ⟨base, bindings⟩
  · cases isMap : subject.isMap with
    | false => exact ⟨⟨world, {}, .plain subject, written⟩, isMap, rfl⟩
    | true =>
        cases subject with
        | map entries =>
            exact ⟨⟨world, ⟨[entries], []⟩, .mapping 0, written⟩, Nat.zero_lt_one, rfl⟩
        | _ => cases isMap
  · exact ⟨⟨world, ⟨[], [bindings]⟩, .scope base 0, written⟩, Nat.zero_lt_one, rfl⟩

section Models

variable {setting : RenderSetting} {state after : Rendering}

/-- What can be done in place keeps the model, however it ends. -/
theorem Mirrored.model {α : Type} {step : InPlace α} {other : Render α}
    {result : Except RenderError α} (mirrored : ∀ base held, Mirrored base held step other)
    (ran : other.run.run state = (result, after)) : after.model = state.model := by
  obtain ⟨stage, holds, rfl⟩ := Stage.exists_view state
  obtain ⟨_, final, _, -, ran', mirror, -⟩ :=
    mirrored stage stage.slot stage stage.view (.start holds)
  obtain ⟨rfl, slot, -, keeps⟩ := mirror
  cases ran.symm.trans ran'
  rw [Stage.view, slot]
  exact keeps.read holds

variable {result : Except RenderError Unit}

theorem Action.render_model {action : Action}
    (ran : (action.render setting).run.run state = (result, after)) :
    after.model = state.model :=
  Mirrored.model (action.renderInPlace_mirrored setting) ran

theorem renderAll_model {actions : List Action}
    (ran : (renderAll setting actions).run.run state = (result, after)) :
    after.model = state.model :=
  Mirrored.model (renderAllInPlace_mirrored setting actions) ran

end Models

end Stencil.Template
