/-
Module: Stencil.Proofs.Template.TextConditions
Purpose: What it changes for a rendering that texts may stand as conditions.
Main exports: RefusesText, Conserves, Conserves.bind, renderAll_conserves,
  text_conditions_conservative
-/
import Stencil.Proofs.Template.InsideLoops

namespace Stencil.Template

open Render

/-- The setting in which texts may stand as conditions, or may not. -/
def RenderSetting.withTexts (setting : RenderSetting) (acceptsText : Bool) : RenderSetting :=
  { setting with acceptsText }

/-- A rendering in which texts may not stand as conditions comes to a branch whose condition is a text,
and it stops there.  From then on the objects stay as they are, while the loops around the branch
end. -/
inductive RefusesText (setting : RenderSetting) (actions : List Action) (start : Rendering) :
    RenderError → Rendering → Prop where
  | refused {names : List String} {condition : Expr.Expression} {whenTrue whenFalse : List Action}
      {line : Nat} {there after : Rendering} {content : String} {world : World}
      (visits : Visits (setting.withTexts false) actions start names
        (.branch condition whenTrue whenFalse line) there)
      (text : (condition.evaluate ⟨setting.resolver, there.model, []⟩).run.run there.world =
        (.ok (.text content), world))
      (stays : after.world = { world with removed := after.world.removed })
      (written : after.written = there.written) :
      RefusesText setting actions start
        (.located (.conditionKind condition.source "str") line setting.uri) after

/-- It stops inside of a branch if the steps of the side that holds do. -/
theorem RefusesText.inBranch {setting : RenderSetting} {condition : Expr.Expression}
    {whenTrue whenFalse rest : List Action} {line : Nat} {holds : Bool} {before between : Rendering}
    {error : RenderError} {after : Rendering}
    (decided : (decideCondition (setting.withTexts false) condition line).run.run before =
      (.ok holds, between))
    (refuses : RefusesText setting (if holds then whenTrue else whenFalse) between error after) :
    RefusesText setting (.branch condition whenTrue whenFalse line :: rest) before error after := by
  obtain ⟨visits, text, stays, written⟩ := refuses
  exact .refused (.branch decided visits) text stays written

/-! ### Strict and lenient work -/

/-- From one rendering on, lenient work does what strict work does, or the strict work is refused and
what it has written is the beginning of what the lenient work writes.  Either way the lenient work
leaves what has been written before. -/
structure Conserves {α : Type} (before : Rendering) (refused : RenderError → Rendering → Prop)
    (strict lenient : Render α) : Prop where
  appends : before.written.toList <+: (lenient.run.run before).2.written.toList
  agrees : lenient.run.run before = strict.run.run before ∨
    ∃ error after, strict.run.run before = (.error error, after) ∧ refused error after ∧
      after.written.toList <+: (lenient.run.run before).2.written.toList

namespace Conserves

variable {α β : Type} {before : Rendering} {refused : RenderError → Rendering → Prop}

theorem mono {strict lenient : Render α} {refused' : RenderError → Rendering → Prop}
    (conserves : Conserves before refused strict lenient)
    (implies : ∀ error after, refused error after → refused' error after) :
    Conserves before refused' strict lenient := by
  refine ⟨conserves.appends, conserves.agrees.imp_right ?_⟩
  rintro ⟨error, after, ran, holds, begins⟩
  exact ⟨error, after, ran, implies error after holds, begins⟩

/-- Work that is the same on both sides must only leave what has been written. -/
theorem same {work : Render α}
    (appends : before.written.toList <+: (work.run.run before).2.written.toList) :
    Conserves before refused work work :=
  ⟨appends, .inl rfl⟩

theorem pure (value : α) : Conserves before refused (Pure.pure value) (Pure.pure value) :=
  same List.prefix_rfl

theorem throw (error : RenderError) :
    Conserves before refused (MonadExcept.throw error : Render α) (MonadExcept.throw error) :=
  same List.prefix_rfl

theorem attempt {ε : Type} (work : ExceptT ε (StateM World) α) :
    Conserves before refused (Render.attempt work) (Render.attempt work) :=
  same List.prefix_rfl

theorem update {change : Rendering → Rendering}
    (kept : (change before).written = before.written) :
    Conserves before refused (modify change : Render PUnit) (modify change) :=
  same (kept.symm ▸ List.prefix_rfl)

theorem emit (piece : String) :
    Conserves before refused (Render.emit piece) (Render.emit piece) := by
  apply same
  have step : ((Render.emit piece).run.run before).2.written = before.written.push piece := rfl
  rw [step, Array.toList_push]
  exact List.prefix_append _ _

theorem write (content : String) :
    Conserves before refused (Render.write content) (Render.write content) := by
  unfold Render.write
  split
  · exact pure ()
  · exact emit content

/-- Further work is compared wherever the lenient side can come to; whether it is refused matters only
where the strict side comes to it. -/
theorem bind {first first' : Render α} {next next' : α → Render β}
    (here : Conserves before refused first first')
    (later : ∀ value between, Conserves between
      (fun error after => first.run.run before = (.ok value, between) → refused error after)
      (next value) (next' value)) :
    Conserves before refused (first >>= next) (first' >>= next') := by
  obtain ⟨⟨result, between⟩, ran⟩ : ∃ ended, first'.run.run before = ended := ⟨_, rfl⟩
  -- Where the strict side is refused, the lenient one goes on from a rendering that the strict side
  -- never comes to; there it is enough that it leaves what has been written.
  have appends : between.written.toList <+:
      ((first' >>= next').run.run before).2.written.toList := by
    cases result with
    | ok value =>
        rw [run_bind_ok ran]
        exact (later value between).appends
    | error error =>
        rewrite [run_bind_error ran]
        exact List.prefix_rfl
  refine ⟨?_, ?_⟩
  · have first := here.appends
    rw [ran] at first
    exact first.trans appends
  rcases here.agrees with agrees | ⟨error, after, stopped, refuses, begins⟩
  · rw [ran] at agrees
    cases result with
    | error error =>
        rw [run_bind_error ran, run_bind_error agrees.symm]
        exact .inl rfl
    | ok value =>
        rw [run_bind_ok ran, run_bind_ok agrees.symm]
        refine (later value between).agrees.imp_right ?_
        rintro ⟨error, after, stopped, refuses, begins⟩
        exact ⟨error, after, stopped, refuses agrees.symm, begins⟩
  · rw [ran] at begins
    exact .inr ⟨error, after, run_bind_error stopped, refuses, begins.trans appends⟩

theorem get {next next' : Rendering → Render β}
    (later : Conserves before refused (next before) (next' before)) :
    Conserves before refused (MonadState.get >>= next) (MonadState.get >>= next') := by
  have step (work : Rendering → Render β) :
      (MonadState.get >>= work).run.run before = (work before).run.run before := rfl
  constructor
  · rw [step]
    exact later.appends
  · rw [step, step]
    exact later.agrees

theorem writeValue (value : Value) :
    Conserves before refused (Render.writeValue value) (Render.writeValue value) := by
  unfold Render.writeValue
  apply get
  cases before.world.text value with
  | ok content => exact write content
  | error raised => exact throw _

theorem withModel {setting : RenderSetting} {strict lenient : Render α} {inner : Model}
    (inside : Conserves (setting.entering inner before)
      (fun error final => refused error (setting.leaving before final)) strict lenient) :
    Conserves before refused (Render.withModel (setting.withTexts false) inner strict)
      (Render.withModel (setting.withTexts true) inner lenient) := by
  have step (accepts : Bool) (work : Render α) :
      (Render.withModel (setting.withTexts accepts) inner work).run.run before =
        ((work.run.run (setting.entering inner before)).1,
          setting.leaving before (work.run.run (setting.entering inner before)).2) := rfl
  constructor
  · rw [step]
    exact inside.appends
  · rw [step, step]
    rcases inside.agrees with agrees | ⟨error, after, stopped, refuses, begins⟩
    · rw [agrees]
      exact .inl rfl
    · rw [stopped]
      exact .inr ⟨error, _, rfl, refuses, begins⟩

end Conserves

/-! ### Steps of a rendering -/

section Steps

variable {before : Rendering} {refused : RenderError → Rendering → Prop} (setting : RenderSetting)

theorem resolvePath_conserves (path : String) (line : Nat) :
    Conserves before refused (resolvePath (setting.withTexts false) path line)
      (resolvePath (setting.withTexts true) path line) := by
  apply Conserves.same
  cases isNull : before.model.isNull with
  | true =>
      rewrite [resolvePath_null isNull]
      exact List.prefix_rfl
  | false =>
      rw [run_resolvePath _ isNull]
      split <;> exact List.prefix_rfl

theorem loopSource_conserves (path : String) (line : Nat) :
    Conserves before refused (loopSource (setting.withTexts false) path line)
      (loopSource (setting.withTexts true) path line) := by
  unfold loopSource
  refine .bind (resolvePath_conserves setting path line) fun value between => ?_
  cases value.isNull with
  | true => exact .throw _
  | false =>
      simp only [Bool.false_eq_true, if_false]
      cases LoopSource.ofValue? value with
      | none => exact .throw _
      | some source => exact .pure source

/-- A condition is refused on the strict side only if it is a text. -/
theorem decideCondition_conserves (condition : Expr.Expression) (line : Nat) :
    Conserves before (fun error after => ∃ content,
        (condition.evaluate ⟨setting.resolver, before.model, []⟩).run.run before.world =
          (.ok (.text content), after.world) ∧
        error = .located (.conditionKind condition.source "str") line setting.uri ∧
        after.written = before.written)
      (decideCondition (setting.withTexts false) condition line)
      (decideCondition (setting.withTexts true) condition line) := by
  unfold decideCondition
  apply Conserves.get
  refine .bind (.attempt _) fun result between => ?_
  rcases result with (error | error) | value
  · exact .throw _
  · simp only
    split
    · exact .throw _
    · exact .throw _
  · cases value with
    | text content =>
        refine ⟨List.prefix_rfl, .inr ⟨_, between, rfl, fun ran => ?_, List.prefix_rfl⟩⟩
        obtain ⟨text, written⟩ := eq_of_run_attempt ran
        exact ⟨content, text, rfl, written⟩
    | boolean flag => exact .pure flag
    | _ => exact .throw _

theorem endStream_conserves (identity : Nat) :
    Conserves before refused (endStream identity) (endStream identity) := by
  unfold endStream
  apply Conserves.get
  cases before.world.takeBreak identity with
  | none => exact .pure ()
  | some found => exact .bind (.update rfl) fun _ _ => .throw _

end Steps

/-! ### Loops -/

section Loops

/-- In a loop the strict side is refused where its step is, for an item that the loop takes up. -/
inductive RefusesItem (step : Value → Render Unit)
    (refused : Value → Rendering → RenderError → Rendering → Prop) (source : LoopSource)
    (before : Rendering) : RenderError → Rendering → Prop where
  | refused {item : Value} {start after : Rendering} {error : RenderError}
      (iterates : Iterates step source before item start)
      (refuses : refused item start error after) : RefusesItem step refused source before error after

variable {strict lenient : Value → Render Unit}
  {refused : Value → Rendering → RenderError → Rendering → Prop}
  (steps : ∀ item start, Conserves start (refused item start) (strict item) (lenient item))

include steps

theorem overItems_conserves (items : List Value) (before : Rendering) :
    Conserves before (RefusesItem strict refused (.list items) before) (overItems strict items)
      (overItems lenient items) := by
  induction items generalizing before with
  | nil => exact .pure ()
  | cons item rest ih =>
      refine .bind ((steps item before).mono ?_) fun _ between => (ih between).mono ?_
      · exact fun _ _ refuses => .refused .first refuses
      · rintro error after ⟨iterates, refuses⟩ ran
        exact .refused (.later ran iterates) refuses

theorem overStream_conserves (identity bound : Nat) (before : Rendering) :
    Conserves before (RefusesItem strict refused (.stream identity) before)
      (overStream strict identity bound) (overStream lenient identity bound) := by
  induction bound generalizing before with
  | zero => exact endStream_conserves identity
  | succ bound ih =>
      apply Conserves.get
      cases taken : before.world.takeNext identity with
      | none => exact endStream_conserves identity
      | some found =>
          obtain ⟨item, world⟩ := found
          refine .bind (.update rfl) fun _ drawn => ?_
          refine .bind ((steps item drawn).mono ?_) fun _ between => (ih between).mono ?_
          · intro error after refuses set
            cases set
            exact .refused (.drawn taken) refuses
          · rintro error after ⟨iterates, refuses⟩ ran set
            cases set
            exact .refused (.further taken ran iterates) refuses

theorem overSource_conserves (source : LoopSource) (before : Rendering) :
    Conserves before (RefusesItem strict refused source before) (overSource strict source)
      (overSource lenient source) := by
  cases source with
  | list items => exact overItems_conserves steps items before
  | stream identity =>
      apply Conserves.get
      exact overStream_conserves steps identity _ before

end Loops

/-! ### Templates -/

mutual

/-- A step does the same in both settings, or it is refused a text as a condition in the strict one. -/
theorem Action.render_conserves (setting : RenderSetting) : ∀ (action : Action) (rest : List Action)
    (before : Rendering), Conserves before (RefusesText setting (action :: rest) before)
      (action.render (setting.withTexts false)) (action.render (setting.withTexts true))
  | .text content, _, _ => by
      unfold Action.render
      exact .write content
  | .line content, _, _ => by
      unfold Action.render
      exact .bind (.write content) fun _ _ => .emit _
  | .value path line, _, _ => by
      unfold Action.render
      refine .bind (resolvePath_conserves setting path line) fun value between => ?_
      cases value.isNull with
      | true => exact .throw _
      | false => exact .writeValue value
  | .branch condition whenTrue whenFalse line, _, _ => by
      unfold Action.render
      refine .bind ((decideCondition_conserves setting condition line).mono ?_)
        fun holds between => ?_
      · rintro _ after ⟨content, text, rfl, written⟩
        exact .refused .here text rfl written
      · cases holds with
        | true =>
            exact (renderAll_conserves setting whenTrue between).mono
              fun _ _ refuses decided => .inBranch decided refuses
        | false =>
            exact (renderAll_conserves setting whenFalse between).mono
              fun _ _ refuses decided => .inBranch decided refuses
  | .loop name path body line, _, before => by
      unfold Action.render
      refine .bind (loopSource_conserves setting path line) fun source between => .get ?_
      have steps (item : Value) (start : Rendering) : Conserves start
          (RefusesText setting body (setting.binding name item start))
          (do
            bindVariable (setting.withTexts false) name item
            renderAll (setting.withTexts false) body)
          (do
            bindVariable (setting.withTexts true) name item
            renderAll (setting.withTexts true) body) := by
        refine .bind (.update rfl) fun _ bound => (renderAll_conserves setting body bound).mono ?_
        intro error after refuses set
        cases set
        exact refuses
      refine .withModel ((overSource_conserves steps source _).mono ?_)
      rintro _ after ⟨iterates, visits, text, stays, written⟩ found
      refine .refused (.loop found iterates visits) text ?_ written
      unfold RenderSetting.leaving RenderSetting.taken
      rw [stays]
      split <;> rfl

theorem renderAll_conserves (setting : RenderSetting) : ∀ (actions : List Action)
    (before : Rendering), Conserves before (RefusesText setting actions before)
      (renderAll (setting.withTexts false) actions) (renderAll (setting.withTexts true) actions)
  | [], _ => by
      unfold renderAll
      exact .pure ()
  | action :: rest, before => by
      unfold renderAll
      refine .bind (Action.render_conserves setting action rest before) fun _ between =>
        (renderAll_conserves setting rest between).mono ?_
      rintro _ after ⟨visits, text, stays, written⟩ ran
      exact .refused (.later ran visits) text stays written

end

/-- That texts may stand as conditions changes a rendering only if without it the rendering is refused a
text.  Then the line of the refusal is that of the branch, and what has been written until there is
the beginning of what is written otherwise. -/
theorem text_conditions_conservative (template : CompiledTemplate) (resolver : Resolver)
    (terminator : String) (model : Value) (world : World) :
    let strict := template.render resolver terminator false model world
    let lenient := template.render resolver terminator true model world
    (strict.1 = .ok () → lenient = strict) ∧
      ∀ error, strict.1 = .error error → lenient = strict ∨
        RefusesText ⟨resolver, template.uri, terminator, false⟩ template.actions
            ⟨world, .value model, #[]⟩ error strict.2 ∧
          strict.2.output.toList <+: lenient.2.output.toList := by
  intro strict lenient
  have conserves := renderAll_conserves ⟨resolver, template.uri, terminator, false⟩
    template.actions ⟨world, .value model, #[]⟩
  rcases conserves.agrees with agrees | ⟨error, after, stopped, refuses, rest, begins⟩
  · exact ⟨fun _ => agrees, fun _ _ => .inl agrees⟩
  · have refused : strict = (.error error, after) := stopped
    rw [refused]
    refine ⟨nofun, fun error' same => .inr ?_⟩
    cases same
    refine ⟨refuses, ?_⟩
    have output : lenient.2.output = after.output ++ String.join rest := by
      rw [Rendering.output, Rendering.output, ← String.join_append, begins]
      rfl
    rw [output, String.toList_append]
    exact List.prefix_append _ _

/-- A line, and another one if the value of `x` holds. -/
def pathBranch : CompiledTemplate :=
  let operand : Expr.Unary := .plain (.path "x")
  let comparison : Expr.Comparison := .single (.mk (.single operand) [])
  ⟨[.line "a", .branch ⟨.mk (.mk (.single comparison) []) [], "x"⟩ [.line "b"] [] 2], none, 4⟩

/-- The second line is refused or written if the value is the text `True`. -/
theorem text_conditions_conservative_text :
    let model : Value := .map [(.text "x", .text "True")]
    let strict := pathBranch.render (Resolver.standard 0) "\n" false model {}
    let lenient := pathBranch.render (Resolver.standard 0) "\n" true model {}
    strict.1 = .error (.located (.conditionKind "x" "str") 2 none) ∧ strict.2.output = "a\n" ∧
      lenient.1 = .ok () ∧ lenient.2.output = "a\nb\n" ∧
      RefusesText ⟨Resolver.standard 0, none, "\n", false⟩ pathBranch.actions
        ⟨{}, .value model, #[]⟩ (.located (.conditionKind "x" "str") 2 none) strict.2 := by
  intro model strict lenient
  have refused : strict.1 = .error (.located (.conditionKind "x" "str") 2 none) := by decide +kernel
  have written : lenient.1 = .ok () := by decide +kernel
  refine ⟨refused, by decide +kernel, written, by decide +kernel, ?_⟩
  obtain ⟨-, failing⟩ :=
    text_conditions_conservative pathBranch (Resolver.standard 0) "\n" model {}
  rcases failing _ refused with same | ⟨refuses, -⟩
  · cases refused.symm.trans ((congrArg Prod.fst same).symm.trans written)
  · exact refuses

end Stencil.Template
