/-
Module: Stencil.Template.Renderer
Purpose: Rendering compiled templates on models.
Main exports: Rendering, Render, RenderSetting, Action.render, renderAll, CompiledTemplate.render
-/
import Stencil.Template.Action
import Stencil.Template.Error

namespace Stencil.Template

/-- A rendering under way: the state of the objects, the model that names are looked up in, and the
pieces written so far. -/
structure Rendering where
  world : World
  model : Model
  written : Array String := #[]
deriving Inhabited

/-- A step of a rendering can fail, and what it wrote stays written. -/
abbrev Render (α : Type) := ExceptT RenderError (StateM Rendering) α

/-- What stays the same while a template is rendered. -/
structure RenderSetting where
  resolver : Resolver
  uri : Option String
  terminator : String
  /-- Whether a text may stand as a condition. -/
  acceptsText : Bool
deriving Inhabited

namespace RenderSetting

/-- The names that are gone from the variables of the loop. -/
def gone (setting : RenderSetting) (world : World) : List String :=
  if setting.resolver.seesVariables then [] else world.removed

/-- The model as it is now, without the variables that are gone. -/
def current (setting : RenderSetting) (state : Rendering) : Model :=
  state.model.without (setting.gone state.world)

/-- The objects when these names have been taken out of the variables of the loop. -/
def taken (setting : RenderSetting) (removed : List String) (world : World) : World :=
  if setting.resolver.seesVariables then world else { world with removed }

/-- A rendering as it goes into a loop, with a model whose variables are all there. -/
def entering (setting : RenderSetting) (inner : Model) (state : Rendering) : Rendering :=
  { state with model := inner, world := setting.taken [] state.world }

/-- A rendering as it comes out of a loop, with the model that there was outside. -/
def leaving (setting : RenderSetting) (outer state : Rendering) : Rendering :=
  { state with model := outer.model, world := setting.taken outer.world.removed state.world }

/-- A rendering in which a loop variable has been bound in the current model. -/
def binding (setting : RenderSetting) (name : String) (item : Value) (state : Rendering) :
    Rendering :=
  { state with
    model := (setting.current state).bind name item
    world := setting.taken [] state.world }

end RenderSetting

/-- Everything that was written, as one text. -/
def Rendering.output (state : Rendering) : String :=
  String.join state.written.toList

namespace Render

/-- Do something with the objects that may fail, and see how it ended. -/
def attempt {ε α : Type} (work : ExceptT ε (StateM World) α) : Render (Except ε α) :=
  ExceptT.lift fun state =>
    let (result, world) := work.run state.world
    (result, { state with world })

/-- Write a piece of text. -/
def emit (piece : String) : Render Unit :=
  modify fun state => { state with written := state.written.push piece }

/-- Write a text; an empty one is no piece. -/
def write (content : String) : Render Unit :=
  if content.isEmpty then pure () else emit content

/-- Write the text of a value, if it has one. -/
def writeValue (value : Value) : Render Unit := do
  match (← get).world.text value with
  | .ok content => write content
  | .error raised => throw (.lookup (.raised raised))

/-- Fail at a line of the template. -/
def failAt {α : Type} (setting : RenderSetting) (line : Nat) (fault : RenderFault) : Render α :=
  throw (.located fault line setting.uri)

/-- Run a step while names are looked up in another model.  Afterwards the model is the one from
before, whether or not the step failed, and so is what has been taken out of its variables. -/
def withModel {α : Type} (setting : RenderSetting) (inner : Model) (step : Render α) : Render α :=
  fun state =>
    let (result, final) := step.run (setting.entering inner state)
    (result, setting.leaving state final)

/-- Bind a loop variable in the current model. -/
def bindVariable (setting : RenderSetting) (name : String) (item : Value) : Render Unit :=
  modify (setting.binding name item)

end Render

open Render

/-- The value of a path in the current model. -/
def resolvePath (setting : RenderSetting) (path : String) (line : Nat) : Render Value := do
  let model := (← get).model
  if model.isNull then failAt setting line (.noModel path)
  match ← attempt (setting.resolver.getValue model path) with
  | .ok value => pure value
  | .error error =>
      if error.isResolution then failAt setting line (.unresolved error)
      else throw (.lookup error)

/-- Whether a condition holds.  A text holds if it says `true`, in any case, and texts are
accepted. -/
def conditionHolds (setting : RenderSetting) (source : String) (line : Nat) :
    Value → Render Bool
  | .boolean flag => pure flag
  | .null => failAt setting line (.nullCondition source)
  | .text content =>
      if setting.acceptsText then
        pure (Text.lowerAscii content.toList == ['t', 'r', 'u', 'e'])
      else failAt setting line (.conditionKind source "str")
  | other => failAt setting line (.conditionKind source other.typeName)

/-- Evaluate a condition in the current model. -/
def decideCondition (setting : RenderSetting) (condition : Expr.Expression) (line : Nat) :
    Render Bool := do
  let model := (← get).model
  match ← attempt (condition.evaluate ⟨setting.resolver, model, []⟩) with
  | .ok value => conditionHolds setting condition.source line value
  | .error (.operation error) =>
      failAt setting line (.badCondition condition.source (.operation error))
  | .error (.lookup error) =>
      if error.isResolution || error.isOperation then
        failAt setting line (.badCondition condition.source (.lookup error))
      else throw (.lookup error)

/-- What a loop runs over: items that are there, or a stream that gives them one by one. -/
inductive LoopSource where
  | list (items : List Value)
  | stream (identity : Nat)
deriving Repr, Inhabited

/-- The items of a value.  Texts, bytes and mappings are no lists of items. -/
def LoopSource.ofValue? : Value → Option LoopSource
  | .list items => some (.list items)
  | .tuple items => some (.list items)
  | .set items => some (.list items)
  | .view _ items => some (.list items)
  | .stream identity => some (.stream identity)
  | _ => none

/-- Find what a loop runs over. -/
def loopSource (setting : RenderSetting) (path : String) (line : Nat) : Render LoopSource := do
  let value ← resolvePath setting path line
  if value.isNull then failAt setting line (.nullList path)
  match LoopSource.ofValue? value with
  | some source => pure source
  | none => failAt setting line (.notIterable path value.typeName)

/-- Run a step for each item. -/
def overItems (step : Value → Render Unit) : List Value → Render Unit
  | [] => pure ()
  | item :: rest => do
      step item
      overItems step rest

/-- Come to the end of a stream, which may be a failure. -/
def endStream (identity : Nat) : Render Unit := do
  match (← get).world.takeBreak identity with
  | none => pure ()
  | some (raised, world) => do
      modify fun state => { state with world }
      throw (.lookup (.raised raised))

/-- Run a step for each element that a stream still gives, at most `bound` of them.  A step may take
further elements from the stream itself. -/
def overStream (step : Value → Render Unit) (identity : Nat) : Nat → Render Unit
  | 0 => endStream identity
  | bound + 1 => do
      match (← get).world.takeNext identity with
      | none => endStream identity
      | some (item, world) => do
          modify fun state => { state with world }
          step item
          overStream step identity bound

/-- Run a step for each item of a source.  A stream never gives more than it holds at the start. -/
def overSource (step : Value → Render Unit) : LoopSource → Render Unit
  | .list items => overItems step items
  | .stream identity => do
      overStream step identity ((← get).world.remaining identity).length

mutual

/-- Run one step of a template. -/
def Action.render (setting : RenderSetting) : Action → Render Unit
  | .text content => write content
  | .line content => do
      write content
      emit setting.terminator
  | .value path line => do
      let value ← resolvePath setting path line
      if value.isNull then failAt setting line (.nullVariable path)
      writeValue value
  | .branch condition whenTrue whenFalse line => do
      if ← decideCondition setting condition line then renderAll setting whenTrue
      else renderAll setting whenFalse
  | .loop name path body line => do
      let source ← loopSource setting path line
      let inner := (setting.current (← get)).shadow
      withModel setting inner (overSource (fun item => do
        bindVariable setting name item
        renderAll setting body) source)

/-- Run steps one after another. -/
def renderAll (setting : RenderSetting) : List Action → Render Unit
  | [] => pure ()
  | action :: rest => do
      action.render setting
      renderAll setting rest

end

/-- Render a template on a model: how it ended, and what was written and done until then. -/
def CompiledTemplate.render (template : CompiledTemplate) (resolver : Resolver)
    (terminator : String) (acceptsText : Bool) (model : Value) (world : World) :
    Except RenderError Unit × Rendering :=
  let setting : RenderSetting := ⟨resolver, template.uri, terminator, acceptsText⟩
  (renderAll setting template.actions).run ⟨world, .value model, #[]⟩

end Stencil.Template
