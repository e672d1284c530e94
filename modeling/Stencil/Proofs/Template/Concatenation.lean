/-
Module: Stencil.Proofs.Template.Concatenation
Purpose: Templates behind one another: what is compiled of their lines together, and what it writes.
Main exports: RenderError.shift, Action.shift, Block.allActions_shift, Moved, renderAll_moved,
  CompiledTemplate.write, compile_append, write_concatenation, render_append
-/
import Mathlib
import Stencil.Proofs.Template.CompilerExactness
import Stencil.Proofs.Template.InPlace
import Stencil.Proofs.Template.Running

namespace Stencil.Template

/-! ### Steps further down in a template -/

/-- The error at a line further down.  A failure that has no place in the template stays as it
is. -/
def RenderError.shift (offset : Nat) : RenderError → RenderError
  | .located fault line uri => .located fault (line + offset) uri
  | .lookup error => .lookup error

mutual

/-- The step from lines further down. -/
def Action.shift (offset : Nat) : Action → Action
  | .text content => .text content
  | .line content => .line content
  | .value path line => .value path (line + offset)
  | .branch condition whenTrue whenFalse line =>
      .branch condition (shiftAll offset whenTrue) (shiftAll offset whenFalse)
        (line + offset)
  | .loop name path body line => .loop name path (shiftAll offset body) (line + offset)

/-- The steps from lines further down. -/
def shiftAll (offset : Nat) : List Action → List Action
  | [] => []
  | action :: rest => action.shift offset :: shiftAll offset rest

end

section Blocks

variable (offset : Nat)

theorem shiftAll_eq_map (actions : List Action) :
    shiftAll offset actions = actions.map (Action.shift offset) := by
  induction actions with
  | nil => rfl
  | cons action rest ih => rw [shiftAll, ih, List.map_cons]

theorem shiftAll_append (front rest : List Action) :
    shiftAll offset (front ++ rest) =
      shiftAll offset front ++ shiftAll offset rest := by
  simp only [shiftAll_eq_map, List.map_append]

@[simp] theorem length_shiftAll (actions : List Action) :
    (shiftAll offset actions).length = actions.length := by
  rw [shiftAll_eq_map, List.length_map]

theorem referenceActions_shift (line : Nat) (reference : Reference) :
    referenceActions (line + offset) reference =
      shiftAll offset (referenceActions line reference) := by
  unfold referenceActions
  split <;> rfl

theorem literalActions_shift (line : Nat) (content : SubstitutedLine) :
    literalActions (line + offset) content =
      shiftAll offset (literalActions line content) := by
  have references : referenceActions (line + offset) =
      fun reference => (referenceActions line reference).map (Action.shift offset) := by
    funext reference
    rw [referenceActions_shift, shiftAll_eq_map]
  rw [literalActions, literalActions, shiftAll_append, shiftAll_eq_map, List.map_flatMap,
    references]
  rfl

mutual

/-- A block that starts further down has the steps from further down. -/
theorem Block.actions_shift : ∀ (block : Block) (line : Nat),
    block.actions (line + offset) = shiftAll offset (block.actions line)
  | .literal content, line => literalActions_shift offset line content
  | .branch condition whenTrue, line => by
      unfold Block.actions
      rw [Nat.add_right_comm, Block.allActions_shift whenTrue]
      rfl
  | .branchElse condition whenTrue whenFalse, line => by
      unfold Block.actions
      rw [Nat.add_right_comm _ _ 1, Nat.add_right_comm _ _ (Block.allLines whenTrue).length,
        Nat.add_right_comm _ _ 2, Block.allActions_shift whenTrue, Block.allActions_shift whenFalse]
      rfl
  | .loop name path body, line => by
      unfold Block.actions
      rw [Nat.add_right_comm, Block.allActions_shift body]
      rfl

theorem Block.allActions_shift : ∀ (blocks : List Block) (line : Nat),
    Block.allActions (line + offset) blocks = shiftAll offset (Block.allActions line blocks)
  | [], _ => rfl
  | block :: rest, line => by
      unfold Block.allActions
      rw [Nat.add_right_comm, Block.actions_shift block, Block.allActions_shift rest,
        shiftAll_append]

end

end Blocks

/-! ### Renderings behind others -/

/-- The rendering behind what a sink has held before. -/
def Rendering.behind (held : Array String) (state : Rendering) : Rendering :=
  { state with written := held ++ state.written }

@[simp] theorem Rendering.behind_world (held : Array String) (state : Rendering) :
    (state.behind held).world = state.world :=
  rfl

@[simp] theorem Rendering.behind_model (held : Array String) (state : Rendering) :
    (state.behind held).model = state.model :=
  rfl

@[simp] theorem Rendering.behind_empty (state : Rendering) : state.behind #[] = state := by
  simp [Rendering.behind]

theorem Rendering.output_behind (earlier state : Rendering) :
    (state.behind earlier.written).output = earlier.output ++ state.output := by
  simp only [Rendering.behind, Rendering.output, Array.toList_append, String.join_append]

/-- Behind what a sink has held before, the moved step does what the step does without it, and its
errors are at lines further down. -/
def Moved {α : Type} (offset : Nat) (held : Array String) (step moved : Render α) : Prop :=
  ∀ state : Rendering, moved.run.run (state.behind held) =
    ((step.run.run state).1.mapError (RenderError.shift offset),
      (step.run.run state).2.behind held)

section Steps

variable {offset : Nat} {held : Array String} {α β : Type}

namespace Moved

theorem pure (value : α) : Moved offset held (Pure.pure value) (Pure.pure value) :=
  fun _ => rfl

theorem throw (error : RenderError) :
    Moved offset held (MonadExcept.throw error : Render α)
      (MonadExcept.throw (error.shift offset)) :=
  fun _ => rfl

theorem failAt (setting : RenderSetting) (line : Nat) (fault : RenderFault) :
    Moved offset held (Render.failAt setting line fault : Render α)
      (Render.failAt setting (line + offset) fault) :=
  throw _

theorem bind {first first' : Render α} {next next' : α → Render β}
    (here : Moved offset held first first')
    (later : ∀ value, Moved offset held (next value) (next' value)) :
    Moved offset held (first >>= next) (first' >>= next') := by
  intro state
  have moved := here state
  obtain ⟨⟨result, between⟩, ran⟩ : ∃ ended, first.run.run state = ended := ⟨_, rfl⟩
  rw [ran] at moved
  cases result with
  | ok value =>
      rw [run_bind_ok ran, run_bind_ok moved]
      exact later value between
  | error error =>
      rw [run_bind_error ran, run_bind_error moved]
      rfl

/-- What would come behind a failure does not matter. -/
theorem failAt_bind (setting : RenderSetting) (line : Nat) (fault : RenderFault)
    (next next' : α → Render β) :
    Moved offset held (Render.failAt setting line fault >>= next)
      (Render.failAt setting (line + offset) fault >>= next') :=
  fun _ => rfl

/-- Looking at the rendering: what follows looks at the objects and at the model only. -/
theorem get {next next' : Rendering → Render β}
    (later : ∀ state, Moved offset held (next state) (next' (state.behind held))) :
    Moved offset held (MonadState.get >>= next) (MonadState.get >>= next') :=
  fun state => later state state

theorem update {change : Rendering → Rendering}
    (apart : ∀ state : Rendering, change (state.behind held) = (change state).behind held) :
    Moved offset held (modify change : Render PUnit) (modify change) :=
  fun state => congrArg (Prod.mk (Except.ok PUnit.unit)) (apart state)

theorem attempt {ε : Type} (work : ExceptT ε (StateM World) α) :
    Moved offset held (Render.attempt work) (Render.attempt work) :=
  fun _ => rfl

theorem withModel {step moved : Render α} (setting : RenderSetting) (inner : Model)
    (inside : Moved offset held step moved) :
    Moved offset held (Render.withModel setting inner step)
      (Render.withModel setting inner moved) := by
  intro state
  have moved := inside (setting.entering inner state)
  exact congrArg (fun run => (run.1, setting.leaving state run.2)) moved

theorem emit (piece : String) : Moved offset held (Render.emit piece) (Render.emit piece) :=
  update fun _ => congrArg (Rendering.mk _ _) Array.push_append

theorem write (content : String) :
    Moved offset held (Render.write content) (Render.write content) := by
  unfold Render.write
  split
  · exact pure ()
  · exact emit content

theorem writeValue (value : Value) :
    Moved offset held (Render.writeValue value) (Render.writeValue value) := by
  unfold Render.writeValue
  apply get
  intro state
  rw [Rendering.behind_world]
  cases state.world.text value with
  | ok content => exact write content
  | error raised => exact throw (.lookup (.raised raised))

end Moved

section Reading

variable (setting : RenderSetting)

theorem resolvePath_moved (path : String) (line : Nat) :
    Moved offset held (resolvePath setting path line)
      (resolvePath setting path (line + offset)) := by
  unfold resolvePath
  apply Moved.get
  intro state
  rw [Rendering.behind_model]
  dsimp only
  cases state.model.isNull with
  | true => exact Moved.failAt_bind setting line _ _ _
  | false =>
      simp only [Bool.false_eq_true, if_false]
      apply Moved.bind (Moved.attempt _)
      intro result
      cases result with
      | ok value => exact Moved.pure value
      | error error =>
          simp only
          split
          · exact Moved.failAt setting line _
          · exact Moved.throw _

theorem conditionHolds_moved (source : String) (line : Nat) (value : Value) :
    Moved offset held (conditionHolds setting source line value)
      (conditionHolds setting source (line + offset) value) := by
  cases value with
  | boolean flag => exact Moved.pure flag
  | text content =>
      simp only [conditionHolds]
      split
      · exact Moved.pure _
      · exact Moved.failAt setting line _
  | _ => exact Moved.failAt setting line _

theorem decideCondition_moved (condition : Expr.Expression) (line : Nat) :
    Moved offset held (decideCondition setting condition line)
      (decideCondition setting condition (line + offset)) := by
  unfold decideCondition
  apply Moved.get
  intro state
  apply Moved.bind (Moved.attempt _)
  intro result
  rcases result with (error | error) | value
  · exact Moved.failAt setting line _
  · simp only
    split
    · exact Moved.failAt setting line _
    · exact Moved.throw _
  · exact conditionHolds_moved setting condition.source line value

theorem loopSource_moved (path : String) (line : Nat) :
    Moved offset held (loopSource setting path line)
      (loopSource setting path (line + offset)) := by
  unfold loopSource
  apply Moved.bind (resolvePath_moved setting path line)
  intro value
  cases value.isNull with
  | true => exact Moved.failAt_bind setting line _ _ _
  | false =>
      simp only [Bool.false_eq_true, if_false]
      cases LoopSource.ofValue? value with
      | none => exact Moved.failAt setting line _
      | some source => exact Moved.pure source

end Reading

section Loops

theorem endStream_moved (identity : Nat) :
    Moved offset held (endStream identity) (endStream identity) := by
  unfold endStream
  apply Moved.get
  intro state
  rw [Rendering.behind_world]
  cases state.world.takeBreak identity with
  | none => exact Moved.pure ()
  | some found =>
      refine Moved.bind (Moved.update fun _ => rfl) fun _ => ?_
      exact Moved.throw _

variable {step moved : Value → Render Unit}
  (steps : ∀ item, Moved offset held (step item) (moved item))

include steps

theorem overItems_moved (items : List Value) :
    Moved offset held (overItems step items) (overItems moved items) := by
  induction items with
  | nil => exact Moved.pure ()
  | cons item rest ih => exact Moved.bind (steps item) fun _ => ih

theorem overStream_moved (identity bound : Nat) :
    Moved offset held (overStream step identity bound) (overStream moved identity bound) := by
  induction bound with
  | zero => exact endStream_moved identity
  | succ bound ih =>
      apply Moved.get
      intro state
      rw [Rendering.behind_world]
      cases state.world.takeNext identity with
      | none => exact endStream_moved identity
      | some found =>
          refine Moved.bind (Moved.update fun _ => rfl) fun _ => ?_
          exact Moved.bind (steps found.1) fun _ => ih

theorem overSource_moved (source : LoopSource) :
    Moved offset held (overSource step source) (overSource moved source) := by
  cases source with
  | list items => exact overItems_moved steps items
  | stream identity =>
      apply Moved.get
      intro state
      exact overStream_moved steps identity _

end Loops

end Steps

mutual

/-- Steps from lines further down do what the steps do, wherever they write to, and fail at lines
further down. -/
theorem Action.render_moved (setting : RenderSetting) (offset : Nat) (held : Array String) :
    ∀ action : Action,
      Moved offset held (action.render setting) ((action.shift offset).render setting)
  | .text content => by
      unfold Action.shift Action.render
      exact Moved.write content
  | .line content => by
      unfold Action.shift Action.render
      exact Moved.bind (Moved.write content) fun _ => Moved.emit _
  | .value path line => by
      unfold Action.shift Action.render
      apply Moved.bind (resolvePath_moved setting path line)
      intro value
      cases value.isNull with
      | true => exact Moved.failAt_bind setting line _ _ _
      | false => exact Moved.writeValue value
  | .branch condition whenTrue whenFalse line => by
      unfold Action.shift Action.render
      apply Moved.bind (decideCondition_moved setting condition line)
      intro holds
      cases holds with
      | true => exact renderAll_moved setting offset held whenTrue
      | false => exact renderAll_moved setting offset held whenFalse
  | .loop name path body line => by
      unfold Action.shift Action.render
      apply Moved.bind (loopSource_moved setting path line)
      intro source
      refine Moved.get fun state =>
        Moved.withModel setting _ (overSource_moved (fun item => ?_) source)
      refine Moved.bind (Moved.update fun _ => rfl) fun _ => ?_
      exact renderAll_moved setting offset held body

theorem renderAll_moved (setting : RenderSetting) (offset : Nat) (held : Array String) :
    ∀ actions : List Action,
      Moved offset held (renderAll setting actions) (renderAll setting (shiftAll offset actions))
  | [] => by
      unfold shiftAll renderAll
      exact Moved.pure ()
  | action :: rest => by
      unfold shiftAll renderAll
      exact Moved.bind (Action.render_moved setting offset held action) fun _ =>
        renderAll_moved setting offset held rest

end

/-! ### Templates behind one another -/

theorem run_renderAll_append (setting : RenderSetting) (earlier later : List Action)
    (start : Rendering) :
    (renderAll setting (earlier ++ later)).run.run start =
      match (renderAll setting earlier).run.run start with
      | (.error error, after) => (.error error, after)
      | (.ok (), after) => (renderAll setting later).run.run after := by
  obtain ⟨⟨result, after⟩, ran⟩ :
      ∃ ended, (renderAll setting earlier).run.run start = ended := ⟨_, rfl⟩
  rw [renderAll_append, ran]
  cases result with
  | ok _ => exact run_bind_ok ran
  | error error => exact run_bind_error ran

namespace CompiledTemplate

/-- The template from lines further down. -/
def shift (offset : Nat) (template : CompiledTemplate) : CompiledTemplate :=
  { template with actions := shiftAll offset template.actions }

@[simp] theorem shift_uri (offset : Nat) (template : CompiledTemplate) :
    (template.shift offset).uri = template.uri :=
  rfl

/-- The steps of one template and then those of another one. -/
def append (first second : CompiledTemplate) : CompiledTemplate :=
  ⟨first.actions ++ second.actions, first.uri, first.lineCount + second.lineCount⟩

section Writing

variable (resolver : Resolver) (terminator : String) (acceptsText : Bool) (model : Value)
  (world : World)

/-- Write a template on a model into a sink that may hold pieces already: how it ended, and what was
written and done until then. -/
def write (template : CompiledTemplate) (sink : Array String) :
    Except RenderError Unit × Rendering :=
  (renderAll ⟨resolver, template.uri, terminator, acceptsText⟩ template.actions).run
    ⟨world, .value model, sink⟩

/-- A rendering starts with an empty sink. -/
theorem render_eq_write (template : CompiledTemplate) :
    template.render resolver terminator acceptsText model world =
      template.write resolver terminator acceptsText model world #[] :=
  rfl

/-- What a template from further down writes behind the pieces that the sink holds, it would write
without them. -/
theorem write_shift (template : CompiledTemplate) (offset : Nat) (held sink : Array String) :
    (template.shift offset).write resolver terminator acceptsText model world (held ++ sink) =
      let (result, final) := template.write resolver terminator acceptsText model world sink
      (result.mapError (RenderError.shift offset), final.behind held) :=
  renderAll_moved ⟨resolver, template.uri, terminator, acceptsText⟩ offset held template.actions
    ⟨world, .value model, sink⟩

/-- A template leaves the model as it is, so that one behind it starts on the same model. -/
theorem write_append {first second : CompiledTemplate} (same : second.uri = first.uri)
    (sink : Array String) :
    (first.append second).write resolver terminator acceptsText model world sink =
      match first.write resolver terminator acceptsText model world sink with
      | (.error error, after) => (.error error, after)
      | (.ok (), after) =>
          second.write resolver terminator acceptsText model after.world after.written := by
  obtain ⟨⟨result, after⟩, ran⟩ :
      ∃ ended, first.write resolver terminator acceptsText model world sink = ended := ⟨_, rfl⟩
  have kept : after.model = .value model := renderAll_model ran
  have joined := run_renderAll_append ⟨resolver, first.uri, terminator, acceptsText⟩ first.actions
    second.actions ⟨world, .value model, sink⟩
  rw [show (renderAll _ first.actions).run.run _ = _ from ran] at joined
  rw [ran]
  refine joined.trans ?_
  cases result with
  | error error => rfl
  | ok _ =>
      dsimp only
      rw [write, same, ← kept]
      rfl

end Writing

end CompiledTemplate

section Compiled

variable {uri : Option String} {front rest : List (List Char)} {first second : CompiledTemplate}

theorem MakeUp.length {blocks : List Block} (makeUp : MakeUp blocks front) :
    (Block.allLines blocks).length = front.length := by
  have lengths := congrArg List.length makeUp
  simpa only [List.length_map] using lengths.symm

theorem MakeUp.append {blocks others : List Block} (here : MakeUp blocks front)
    (there : MakeUp others rest) : MakeUp (blocks ++ others) (front ++ rest) := by
  unfold MakeUp at *
  rw [Block.allLines_append, List.map_append, List.map_append, here, there]

theorem uri_eq_of_compile (accepted : compile uri front = .ok first)
    (accepted' : compile uri rest = .ok second) : second.uri = first.uri := by
  obtain ⟨-, -, rfl⟩ := makeUp_of_compile accepted
  obtain ⟨-, -, rfl⟩ := makeUp_of_compile accepted'
  rfl

/-- Every block of the lines in front is closed before the lines behind them begin, so that what
these are compiled to only comes from further down. -/
theorem compile_append (accepted : compile uri front = .ok first)
    (accepted' : compile uri rest = .ok second) :
    compile uri (front ++ rest) = .ok (first.append (second.shift front.length)) := by
  obtain ⟨blocks, makeUp, rfl⟩ := makeUp_of_compile accepted
  obtain ⟨others, makeUp', rfl⟩ := makeUp_of_compile accepted'
  rw [compile_of_makeUp uri (makeUp.append makeUp'), Block.allActions_append, makeUp.length,
    Block.allActions_shift, List.length_append]
  rfl

/-- Lines behind those of another template make one template with these, which has the lines and the
steps of both.  To write it is to write the first template and then, if that did not fail, the
second one on the same model into the same sink: what is written, what is done to the objects and
how it ends are the same, but for the lines of errors from the second one, which are further down by
as many lines as the first one has. -/
theorem write_concatenation (accepted : compile uri front = .ok first)
    (accepted' : compile uri rest = .ok second) :
    ∃ whole, compile uri (front ++ rest) = .ok whole ∧
      whole.lineCount = first.lineCount + second.lineCount ∧
      whole.actions.length = first.actions.length + second.actions.length ∧
      ∀ (resolver : Resolver) (terminator : String) (acceptsText : Bool) (model : Value)
        (world : World) (sink : Array String),
        whole.write resolver terminator acceptsText model world sink =
          match first.write resolver terminator acceptsText model world sink with
          | (.error error, after) => (.error error, after)
          | (.ok (), after) =>
              let (result, final) := second.write resolver terminator acceptsText model after.world
                after.written
              (result.mapError (RenderError.shift front.length), final) := by
  have same := (second.shift_uri front.length).trans (uri_eq_of_compile accepted accepted')
  refine ⟨_, compile_append accepted accepted', rfl, ?_, ?_⟩
  · simp [CompiledTemplate.append, CompiledTemplate.shift]
  · intro resolver terminator acceptsText model world sink
    rw [CompiledTemplate.write_append _ _ _ _ _ same]
    split
    · rfl
    · rename_i after ran
      have moved := second.write_shift resolver terminator acceptsText model after.world
        front.length #[] after.written
      rw [Array.empty_append] at moved
      simpa only [Rendering.behind_empty] using moved

/-- Two items in a stream, which can be drawn from it once. -/
def twoItems : World where
  streams := [[.text "a", .text "b"]]

/-- Behind a loop that draws the items, the same loop finds no more of them, and the reference
behind it fails at the seventh line of all. -/
theorem write_concatenation_drawn :
    ∃ first second whole,
      compile none (["<% for item in items %>", "${item}", "<% /for %>"].map String.toList) =
        .ok first ∧
      compile none (["<% for item in items %>", "${item}", "<% /for %>", "${item}"].map
        String.toList) = .ok second ∧
      compile none (["<% for item in items %>", "${item}", "<% /for %>", "<% for item in items %>",
        "${item}", "<% /for %>", "${item}"].map String.toList) = .ok whole ∧
      (whole.write (Resolver.standard 0) "\n" false (.map [(.text "items", .stream 0)]) twoItems
        #["> "]).1 = .error (.located (.nullVariable "item") 7 none) ∧
      (whole.write (Resolver.standard 0) "\n" false (.map [(.text "items", .stream 0)]) twoItems
        #["> "]).2.output = "> a\nb\n" := by
  have loop : MakeUp [.loop "item" "items" [.literal ⟨[⟨[], "item".toList⟩], []⟩]]
      (["<% for item in items %>", "${item}", "<% /for %>"].map String.toList) := by
    unfold MakeUp
    cbv
  have page : MakeUp [.loop "item" "items" [.literal ⟨[⟨[], "item".toList⟩], []⟩],
      .literal ⟨[⟨[], "item".toList⟩], []⟩]
      (["<% for item in items %>", "${item}", "<% /for %>", "${item}"].map String.toList) := by
    unfold MakeUp
    cbv
  obtain ⟨whole, accepted, -, -, writes⟩ :=
    write_concatenation (compile_of_makeUp none loop) (compile_of_makeUp none page)
  refine ⟨_, _, whole, compile_of_makeUp none loop, compile_of_makeUp none page, accepted, ?_⟩
  rw [writes]
  constructor
  · decide +kernel
  · decide +kernel

/-- The text of a template made of two is the text of the first one and then, if that did not fail,
the text of the second one, rendered on the same model when the first one is done with the
objects. -/
theorem render_append {whole : CompiledTemplate} (accepted : compile uri front = .ok first)
    (accepted' : compile uri rest = .ok second) (together : compile uri (front ++ rest) = .ok whole)
    (resolver : Resolver) (terminator : String) (acceptsText : Bool) (model : Value)
    (world : World) :
    let earlier := first.render resolver terminator acceptsText model world
    let later := second.render resolver terminator acceptsText model earlier.2.world
    let both := whole.render resolver terminator acceptsText model world
    (∀ error, earlier.1 = .error error → both = earlier) ∧
      (earlier.1 = .ok () → both.1 = later.1.mapError (RenderError.shift front.length) ∧
        both.2.output = earlier.2.output ++ later.2.output ∧ both.2.world = later.2.world) := by
  have same := (second.shift_uri front.length).trans (uri_eq_of_compile accepted accepted')
  rw [compile_append accepted accepted'] at together
  cases together
  have joined := CompiledTemplate.write_append resolver terminator acceptsText model world same #[]
  simp only [CompiledTemplate.render_eq_write]
  rw [joined]
  obtain ⟨⟨result, after⟩, ran⟩ :
      ∃ ended, first.write resolver terminator acceptsText model world #[] = ended := ⟨_, rfl⟩
  rw [ran]
  cases result with
  | error error => exact ⟨fun _ _ => rfl, nofun⟩
  | ok _ =>
      have moved := second.write_shift resolver terminator acceptsText model after.world
        front.length after.written #[]
      rw [Array.append_empty] at moved
      refine ⟨nofun, fun _ => ?_⟩
      simp only [moved, Rendering.output_behind, Rendering.behind_world, and_self]

end Compiled

end Stencil.Template
