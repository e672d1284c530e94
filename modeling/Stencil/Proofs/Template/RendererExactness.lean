/-
Module: Stencil.Proofs.Template.RendererExactness
Purpose: Rendering a compiled template does what the interpreter of its blocks does.
Main exports: SourceLine.Named, Block.actions_do, render_compiled
-/
import Mathlib
import Stencil.Proofs.Expr.Paths
import Stencil.Proofs.Expr.Readable
import Stencil.Proofs.Template.CompilerExactness
import Stencil.Proofs.Template.Running
import Stencil.Proofs.Template.Stops

namespace Stencil.Template

open Stencil.Expr (Expression)

variable {family : Family}

/-! ### Paths -/

section Paths

variable {cache : Nat} {environment : Environment} {uri : Option String}
  {meaning : Interpretation} (worldCalm : meaning.world.Calm family)
  (calm : environment.Calm family)

include worldCalm calm

/-- A path is resolved to its value. -/
theorem resolvePath_runs {path : String} (given : path ≠ "") (line : Nat) :
    Runs cache meaning.world environment
      (resolvePath (meaning.renderSetting cache uri) path line)
      (located uri line (meaning.pathValue environment path)) "" := by
  unfold resolvePath Interpretation.pathValue
  refine Runs.get fun before stands => ?_
  simp only [stands.isNull]
  cases null : environment.base.isNull with
  | true => exact Runs.bind_error (Runs.throw _)
  | false =>
      have settles : Settles cache meaning.world
          ((Resolver.standard cache).getValue before.model path)
          (environment.resolve meaning.world path) :=
        getValue_settles worldCalm calm stands null given
      refine Runs.silent (Runs.attempt settles) ?_
      cases resolved : environment.resolve meaning.world path with
      | ok value => exact Runs.pure value
      | error error =>
          have resolution := (Environment.resolve_fails resolved).isResolution
          simp only [resolution, if_true]
          exact Runs.throw _

omit worldCalm calm in
theorem conditionHolds_runs (source : String) (line : Nat) (value : Value) :
    Runs cache meaning.world environment
      (conditionHolds (meaning.renderSetting cache uri) source line value)
      (located uri line (meaning.holds source value)) "" := by
  cases value with
  | boolean flag => exact Runs.pure flag
  | null => exact Runs.throw _
  | text content =>
      unfold conditionHolds Interpretation.holds
      have same : (meaning.renderSetting cache uri).acceptsText = meaning.acceptsText := rfl
      simp only [same]
      cases meaning.acceptsText with
      | true => exact Runs.pure _
      | false => exact Runs.throw _
  | _ => exact Runs.throw _

end Paths

/-! ### Conditions -/

/-- A path in an expression is not empty. -/
def NamesPaths (unary : Expr.Unary) : Prop :=
  ∀ written, unary.operand = .path written → written ≠ ""

section Conditions

variable {cache : Nat} {environment : Environment} {uri : Option String}
  {meaning : Interpretation}

theorem evaluatePath_settles (worldCalm : meaning.world.Calm family)
    (calm : environment.Calm family) {model : Model}
    (stands : environment.Represents model) {written : String} (given : written ≠ "") :
    Settles cache meaning.world
      (Expr.evaluatePath ⟨Resolver.standard cache, model, []⟩ written)
      ((meaning.denotation environment).path written) := by
  unfold Expr.evaluatePath Expr.Denotation.path Interpretation.denotation
  simp only [stands.isNull]
  cases null : environment.base.isNull with
  | true => exact Settles.bind_error (Settles.throw _)
  | false =>
      have looked : Settles cache meaning.world
          ((Resolver.standard cache).getValue model (Expr.splitConversion written).1)
          (environment.resolve meaning.world (Expr.splitConversion written).1) :=
        getValue_settles worldCalm calm stands null (Expr.base_ne_empty given)
      have found := Settles.adapt Expr.Failure.lookup looked
      cases resolved : environment.resolve meaning.world (Expr.splitConversion written).1 with
      | error error =>
          rw [resolved] at found
          simp only [Bool.false_eq_true, if_false, resolved]
          exact Settles.bind_error found
      | ok value =>
          rw [resolved] at found
          simp only [Bool.false_eq_true, if_false, resolved]
          refine Settles.bind found (Settles.get fun before alike => ?_)
          rw [Expr.convert_congr (congrFun alike.text value)]
          exact Expr.ofResult_settles _

/-- How the decision of a condition ends, as a rendering ends. -/
def decided {α : Type} (uri : Option String) : Except Stop α → Except RenderError α
  | .ok value => .ok value
  | .error stop => .error (stop.error uri)

theorem decided_fault {α : Type} (line : Nat) (result : Except RenderFault α) :
    decided uri (result.mapError (Stop.fault line)) = located uri line result := by
  cases result with
  | ok value => rfl
  | error fault => rfl

/-- A failed lookup in a condition stops the rendering as it is meant. -/
theorem condition_stops {error : LookupError}
    (ends : error.OfPath ∨ ∃ raised, error = .raised raised) {source : String} {line : Nat} :
    Runs cache meaning.world environment
      (if error.isResolution || error.isOperation then
        Render.failAt (meaning.renderSetting cache uri) line (.badCondition source (.lookup error))
      else MonadExcept.throw (.lookup error))
      (decided (α := Bool) uri (.error (.ofCondition line source (.lookup error)))) "" := by
  cases error with
  | raised raised =>
      show Runs cache meaning.world environment
        (if raised.isA "ResolutionError" || raised.isA "EvaluationError" then _ else _)
        (.error (Stop.error uri (if raised.isA "ResolutionError" || raised.isA "EvaluationError"
          then _ else _))) ""
      split
      · exact Runs.throw _
      · exact Runs.throw _
  | _ =>
      have ofPath := ends.resolve_right fun outside => nomatch outside
      simp only [ofPath.isResolution, Bool.true_or, if_true]
      exact Runs.throw _

/-- A condition is decided as it is meant. -/
theorem decideCondition_runs (worldCalm : meaning.world.Calm family)
    (calm : environment.Calm family) {condition : Expression}
    (named : condition.root.Every NamesPaths) (line : Nat) :
    Runs cache meaning.world environment
      (decideCondition (meaning.renderSetting cache uri) condition line)
      (decided uri (meaning.decision environment line condition)) "" := by
  unfold decideCondition Interpretation.decision
  refine Runs.get fun before stands => ?_
  have agrees : Expr.Agrees cache meaning.world NamesPaths
      ⟨Resolver.standard cache, before.model, []⟩ (meaning.denotation environment) :=
    ⟨fun unary written holds same =>
      evaluatePath_settles worldCalm calm stands (holds written same), rfl⟩
  have settles := condition.root.evaluate_settles agrees named
  refine Runs.silent (Runs.attempt settles) ?_
  cases meant : condition.root.meaning (meaning.denotation environment) with
  | ok value =>
      have holds : Runs cache meaning.world environment
          (conditionHolds (meaning.renderSetting cache uri) condition.source line value)
          (located uri line (meaning.holds condition.source value)) "" :=
        conditionHolds_runs condition.source line value
      rw [← decided_fault] at holds
      exact holds
  | error failure =>
      cases failure with
      | operation error => exact Runs.throw _
      | lookup error =>
          have fails := condition_fails worldCalm calm condition _ meant error rfl
          exact condition_stops (fails.imp_right fun ⟨raised, same, _⟩ => ⟨raised, same⟩)

end Conditions

/-- A branch is decided once, and then one of its sides is done. -/
theorem branch_does {cache : Nat} {environment : Environment} {uri : Option String}
    {meaning : Interpretation} (worldCalm : meaning.world.Calm family)
    (calm : environment.Calm family) {condition : Expression}
    (named : condition.root.Every NamesPaths) (line : Nat) {whenTrue whenFalse : List Action}
    {ifTrue ifFalse : Outcome}
    (doesTrue : Does cache meaning.world environment uri
      (renderAll (meaning.renderSetting cache uri) whenTrue) ifTrue)
    (doesFalse : Does cache meaning.world environment uri
      (renderAll (meaning.renderSetting cache uri) whenFalse) ifFalse) :
    Does cache meaning.world environment uri
      ((Action.branch condition whenTrue whenFalse line).render (meaning.renderSetting cache uri))
      (match meaning.decision environment line condition with
      | .error stop => .stopped stop
      | .ok true => ifTrue
      | .ok false => ifFalse) := by
  have decides : Runs cache meaning.world environment
      (decideCondition (meaning.renderSetting cache uri) condition line)
      (decided uri (meaning.decision environment line condition)) "" :=
    decideCondition_runs worldCalm calm named line
  unfold Action.render
  cases found : meaning.decision environment line condition with
  | error stop =>
      rw [found] at decides
      exact Runs.bind_error decides
  | ok flag =>
      rw [found] at decides
      refine Runs.silent decides ?_
      cases flag with
      | true => exact doesTrue
      | false => exact doesFalse

/-! ### Literal lines -/

section Literals

variable {cache : Nat} {environment : Environment} {uri : Option String}
  {meaning : Interpretation}

theorem value_does (worldCalm : meaning.world.Calm family) (calm : environment.Calm family)
    {path : String} (given : path ≠ "") (line : Nat) :
    Does cache meaning.world environment uri
      ((Action.value path line).render (meaning.renderSetting cache uri))
      (meaning.value environment line path) := by
  have resolves : Runs cache meaning.world environment
      (resolvePath (meaning.renderSetting cache uri) path line)
      (located uri line (meaning.pathValue environment path)) "" :=
    resolvePath_runs worldCalm calm given line
  unfold Action.render Interpretation.value
  cases found : meaning.pathValue environment path with
  | error fault =>
      rw [found] at resolves
      exact Runs.bind_error resolves
  | ok value =>
      rw [found] at resolves
      refine Runs.silent resolves ?_
      cases null : value.isNull with
      | true =>
          simp only [null, if_true]
          exact Runs.bind_error (Runs.throw _)
      | false =>
          simp only [null, Bool.false_eq_true, if_false]
          exact Does.text value

theorem reference_does (worldCalm : meaning.world.Calm family) (calm : environment.Calm family)
    {reference : Reference} (given : reference.path ≠ []) (line : Nat) :
    Does cache meaning.world environment uri
      (renderAll (meaning.renderSetting cache uri) (referenceActions line reference))
      (meaning.reference environment line reference) := by
  have named : String.ofList reference.path ≠ "" := by
    rw [Ne, String.ofList_eq_empty_iff]
    exact given
  unfold referenceActions Interpretation.reference
  rw [renderAll_append, renderAll_singleton]
  refine Does.andThen ?_ (value_does worldCalm calm named line)
  cases blank : reference.before.isEmpty with
  | true =>
      rw [List.isEmpty_iff.mp blank]
      exact Runs.pure ()
  | false =>
      simp only [Bool.false_eq_true, if_false]
      rw [renderAll_singleton]
      exact Does.wrote _

theorem references_do (worldCalm : meaning.world.Calm family) (calm : environment.Calm family)
    (line : Nat) {references : List Reference}
    (given : ∀ reference ∈ references, reference.path ≠ []) :
    Does cache meaning.world environment uri
      (renderAll (meaning.renderSetting cache uri) (references.flatMap (referenceActions line)))
      (.sequence (references.map (meaning.reference environment line))) := by
  induction references with
  | nil => exact Runs.pure ()
  | cons reference rest ih =>
      obtain ⟨here, later⟩ := List.forall_mem_cons.mp given
      rw [List.flatMap_cons, renderAll_append, List.map_cons]
      exact (reference_does worldCalm calm here line).andThen (ih later)

theorem literal_does (worldCalm : meaning.world.Calm family) (calm : environment.Calm family)
    (line : Nat) {content : SubstitutedLine}
    (given : ∀ reference ∈ content.references, reference.path ≠ []) :
    Does cache meaning.world environment uri
      (renderAll (meaning.renderSetting cache uri) (literalActions line content))
      (meaning.literal environment line content) := by
  unfold literalActions Interpretation.literal
  rw [renderAll_append, renderAll_singleton]
  refine (references_do worldCalm calm line given).andThen ?_
  exact Runs.bind (Runs.write _) (Runs.emit _)

end Literals

/-! ### Loops -/

/-- A model in which the variable of a loop can be bound to stand for the environment of an item. -/
def Ready (environment : Environment) (name : String) (model : Model) : Prop :=
  ∀ item, (environment.bind name item).Represents (model.bind name item)

section Loops

variable {cache : Nat} {world : World} {environment : Environment} {uri : Option String}
  {setting : RenderSetting} (sees : setting.resolver.seesVariables = true)

include sees

/-- One model is used for all items of a loop.  What an item leaves in it is the binding of the
variable, which the next item replaces. -/
theorem overItems_runs {name : String} {step : Render Unit} {outcome : Value → Outcome} :
    ∀ items : List Value,
      (∀ item ∈ items, Does cache world (environment.bind name item) uri step (outcome item)) →
      ∀ before : Rendering, World.Alike cache world before.world →
        Ready environment name before.model →
        ∃ after : Rendering,
          (overItems (fun item => do
              Render.bindVariable setting name item
              step) items).run.run before =
            ((Outcome.sequence (items.map outcome)).result uri, after) ∧
          World.Alike cache world after.world ∧
          after.output = before.output ++ (Outcome.sequence (items.map outcome)).output
  | [], _, before, alike, _ => ⟨before, rfl, alike, by simp [Outcome.sequence, Outcome.wrote]⟩
  | item :: rest, does, before, alike, ready => by
      obtain ⟨here, later⟩ := List.forall_mem_cons.mp does
      obtain ⟨between, ran, alike', same, wrote⟩ :=
        here { before with model := before.model.bind name item } alike (ready item)
      have stepped : ((do
          Render.bindVariable setting name item
          step) : Render Unit).run.run before = ((outcome item).result uri, between) := by
        rw [← setting.binding_of_sees sees] at ran
        exact ran
      rw [List.map_cons]
      cases ended : outcome item with
      | mk output stop? =>
          rw [ended] at stepped wrote
          cases stop? with
          | some stop =>
              refine ⟨between, ?_, alike', wrote⟩
              unfold overItems
              exact run_bind_error stepped
          | none =>
              have ready' : Ready environment name between.model := by
                intro next
                rw [same]
                exact (ready item).rebind next
              obtain ⟨after, ran', alike'', wrote'⟩ := overItems_runs rest later between alike' ready'
              refine ⟨after, ?_, alike'', ?_⟩
              · unfold overItems
                exact (run_bind_ok stepped).trans ran'
              · rw [wrote', wrote, String.append_assoc]
                rfl

theorem Does.withModel {name : String} {step : Render Unit} {outcome : Value → Outcome}
    {inner : Model} {items : List Value} (ready : Ready environment name inner)
    (does : ∀ item ∈ items, Does cache world (environment.bind name item) uri step (outcome item)) :
    Does cache world environment uri
      (Render.withModel setting inner (overSource (fun item => do
        Render.bindVariable setting name item
        step) (.list items)))
      (.sequence (items.map outcome)) := by
  intro before alike _
  obtain ⟨after, ran, alike', wrote⟩ :=
    overItems_runs sees items does { before with model := inner } alike ready
  rw [← setting.entering_of_sees sees] at ran
  have left := run_withModel ran
  rw [setting.leaving_of_sees sees] at left
  exact ⟨{ after with model := before.model }, left, alike', rfl, wrote⟩

omit sees in
/-- What a loop runs over is found as it is meant.  Calm values are no streams. -/
theorem loopSource_runs {meaning : Interpretation} (worldCalm : meaning.world.Calm family)
    (calm : environment.Calm family) {path : String} (given : path ≠ "") (line : Nat) :
    Runs cache meaning.world environment (loopSource (meaning.renderSetting cache uri) path line)
      ((located uri line (meaning.items environment path)).map .list) "" := by
  have resolves : Runs cache meaning.world environment
      (resolvePath (meaning.renderSetting cache uri) path line)
      (located uri line (meaning.pathValue environment path)) "" :=
    resolvePath_runs worldCalm calm given line
  unfold loopSource Interpretation.items
  cases found : meaning.pathValue environment path with
  | error fault =>
      rw [found] at resolves
      exact Runs.bind_error resolves
  | ok value =>
      rw [found] at resolves
      refine Runs.silent resolves ?_
      have valueCalm : value.Calm family := pathValue_calm worldCalm calm found
      cases value with
      | list items | tuple items | set items | view _ items => exact Runs.pure _
      | stream => exact valueCalm.elim
      | null => exact Runs.bind_error (Runs.throw _)
      | _ => exact Runs.throw _

omit sees in
theorem base_of_items {meaning : Interpretation} {path : String} {items : List Value}
    (found : meaning.items environment path = .ok items) : environment.base.isNull = false := by
  cases null : environment.base.isNull with
  | false => rfl
  | true =>
      unfold Interpretation.items Interpretation.pathValue at found
      rw [null] at found
      cases found

omit sees in
/-- A loop does what its body does for each item, if the body does so in the environment of each. -/
theorem loop_does {meaning : Interpretation} (worldCalm : meaning.world.Calm family)
    (calm : environment.Calm family) {name path : String} (given : path ≠ "") (line : Nat)
    {body : List Action} {outcome : Environment → Outcome}
    (does : ∀ inner : Environment, inner.Calm family →
      Does cache meaning.world inner uri (renderAll (meaning.renderSetting cache uri) body)
        (outcome inner)) :
    Does cache meaning.world environment uri
      ((Action.loop name path body line).render (meaning.renderSetting cache uri))
      (match meaning.items environment path with
      | .error fault => .failed line fault
      | .ok items => .sequence (items.map fun item => outcome (environment.bind name item))) := by
  have source : Runs cache meaning.world environment
      (loopSource (meaning.renderSetting cache uri) path line)
      ((located uri line (meaning.items environment path)).map .list) "" :=
    loopSource_runs worldCalm calm given line
  unfold Action.render
  cases found : meaning.items environment path with
  | error fault =>
      rw [found] at source
      exact Runs.bind_error source
  | ok items =>
      rw [found] at source
      refine Runs.silent source (Runs.get fun before stands => ?_)
      have sees : (meaning.renderSetting cache uri).resolver.seesVariables = true := rfl
      rw [RenderSetting.current_of_sees sees]
      apply Does.withModel sees fun item => stands.shadow_bind name item (base_of_items found)
      intro item member
      exact does _ (calm.bind (items_calm worldCalm calm found item member) name)

end Loops

/-! ### Lines -/

/-- Every path in a line names something. -/
def SourceLine.Named : SourceLine → Prop
  | .literal content => ∀ reference ∈ content.references, reference.path ≠ []
  | .opensBranch condition => condition.root.Every NamesPaths
  | .opensLoop _ path => path ≠ ""
  | .otherwise | .closesBranch | .closesLoop => True

theorem referencePath_ne_nil {inside path : List Char} (read : referencePath inside = .ok path) :
    path ≠ [] := by
  unfold referencePath at read
  split at read
  · cases read
  · split at read
    · cases read
    · rename_i solid
      cases read
      simpa using solid

theorem SubstitutedLine.read_named (text : List Char) {content : SubstitutedLine}
    (read : SubstitutedLine.read text = .ok content) :
    ∀ reference ∈ content.references, reference.path ≠ [] := by
  fun_induction SubstitutedLine.read text generalizing content with
  | case1 =>
      cases read
      simp
  | case2 => cases read
  | case3 text before after opening inside rest closing ih =>
      cases path : referencePath inside with
      | error fault =>
          rw [path] at read
          cases read
      | ok characters =>
          cases later : SubstitutedLine.read rest with
          | error fault =>
              rw [path, later] at read
              cases read
          | ok behind =>
              rw [path, later] at read
              cases read
              exact List.forall_mem_cons.mpr ⟨referencePath_ne_nil path, ih later⟩

theorem wordsFrom_ne_nil (current text : List Char) :
    ∀ word ∈ Text.wordsFrom current text, word ≠ [] := by
  fun_induction Text.wordsFrom current text <;> simp_all

theorem LoopHeader.read?_path_ne_empty {header : List Char} {loop : LoopHeader}
    (read : LoopHeader.read? header = some loop) : loop.path ≠ "" := by
  unfold LoopHeader.read? at read
  split at read
  · rename_i name link path same
    split at read
    · cases read
      rw [Ne, String.ofList_eq_empty_iff]
      refine wordsFrom_ne_nil [] header path ?_
      rw [show Text.wordsFrom [] header = [name, link, path] from same]
      simp
    · cases read
  · cases read

theorem parse_namesPaths {text : String} {expression : Expression}
    (read : Expression.parse text = .ok expression) : expression.root.Every NamesPaths := by
  refine Expr.Disjunction.Every.mono (fun unary readable => ?_) _ (Expr.parse_readable read)
  rintro written same rfl
  rcases readable with lexical | least
  · rw [same] at lexical
    obtain ⟨first, rest, parts, -⟩ := lexical
    cases parts
  · rw [least] at same
    cases same

theorem eq_ok_of_toOption {ε α : Type} {result : Except ε α} {value : α}
    (found : result.toOption = some value) : result = .ok value := by
  cases result with
  | error => cases found
  | ok => cases found; rfl

theorem SourceLine.ofDirective?_named {directive : Directive} {line : SourceLine}
    (read : SourceLine.ofDirective? directive = some line) : line.Named := by
  cases directive with
  | openBranch condition =>
      obtain ⟨expression, parsed, rfl⟩ := Option.map_eq_some_iff.mp read
      exact parse_namesPaths (eq_ok_of_toOption parsed)
  | openLoop header =>
      obtain ⟨loop, found, simple⟩ := Option.bind_eq_some_iff.mp read
      split at simple
      · cases simple
        exact LoopHeader.read?_path_ne_empty found
      · cases simple
  | otherwise | closeBranch | closeLoop =>
      cases read
      trivial

theorem SourceLine.read?_named {text : List Char} {line : SourceLine}
    (read : SourceLine.read? text = some line) : line.Named := by
  unfold SourceLine.read? at read
  simp only at read
  split at read
  · obtain ⟨directive, -, found⟩ := Option.bind_eq_some_iff.mp read
    exact SourceLine.ofDirective?_named found
  · obtain ⟨content, found, rfl⟩ := Option.map_eq_some_iff.mp read
    exact SubstitutedLine.read_named _ (eq_ok_of_toOption found)

/-- Every line of the blocks that make up a template has been read. -/
theorem MakeUp.read {blocks : List Block} {lines : List (List Char)} (makeUp : MakeUp blocks lines) :
    ∀ line ∈ Block.allLines blocks, ∃ text, SourceLine.read? text = some line := by
  intro line member
  have read : some line ∈ lines.map SourceLine.read? := makeUp ▸ List.mem_map_of_mem member
  obtain ⟨text, -, same⟩ := List.mem_map.mp read
  exact ⟨text, same⟩

theorem MakeUp.named {blocks : List Block} {lines : List (List Char)}
    (makeUp : MakeUp blocks lines) : ∀ line ∈ Block.allLines blocks, line.Named := by
  intro line member
  obtain ⟨text, read⟩ := makeUp.read line member
  exact SourceLine.read?_named read

/-! ### Blocks -/

section Blocks

variable {cache : Nat} {uri : Option String} {meaning : Interpretation}

mutual

/-- The steps of a block do what its interpreter does. -/
theorem Block.actions_do (worldCalm : meaning.world.Calm family) :
    ∀ (block : Block) (line : Nat) {environment : Environment},
    (∀ source ∈ block.lines, source.Named) → environment.Calm family →
      Does cache meaning.world environment uri
        (renderAll (meaning.renderSetting cache uri) (block.actions line))
        (block.interpret meaning line environment)
  | .literal content, line, environment, named, calm =>
      literal_does worldCalm calm line (named (.literal content) List.mem_cons_self)
  | .branch condition whenTrue, line, environment, named, calm => by
      obtain ⟨here, inside⟩ := List.forall_mem_cons.mp named
      have inner : ∀ source ∈ Block.allLines whenTrue, source.Named := fun source member =>
        inside source (List.mem_append_left _ member)
      unfold Block.actions Block.interpret
      rw [renderAll_singleton]
      refine branch_does worldCalm calm here line ?_ ?_
      · exact Block.allActions_do worldCalm whenTrue (line + 1) inner calm
      · exact Runs.pure ()
  | .branchElse condition whenTrue whenFalse, line, environment, named, calm => by
      obtain ⟨here, inside⟩ := List.forall_mem_cons.mp named
      obtain ⟨inTrue, behind⟩ := List.forall_mem_append.mp inside
      obtain ⟨-, behind⟩ := List.forall_mem_cons.mp behind
      have inFalse : ∀ source ∈ Block.allLines whenFalse, source.Named := fun source member =>
        behind source (List.mem_append_left _ member)
      unfold Block.actions Block.interpret
      rw [renderAll_singleton]
      refine branch_does worldCalm calm here line ?_ ?_
      · exact Block.allActions_do worldCalm whenTrue (line + 1) inTrue calm
      · exact Block.allActions_do worldCalm whenFalse _ inFalse calm
  | .loop name path body, line, environment, named, calm => by
      obtain ⟨here, inside⟩ := List.forall_mem_cons.mp named
      have inner : ∀ source ∈ Block.allLines body, source.Named := fun source member =>
        inside source (List.mem_append_left _ member)
      unfold Block.actions Block.interpret
      rw [renderAll_singleton]
      have does : ∀ bound : Environment, bound.Calm family →
          Does cache meaning.world bound uri
            (renderAll (meaning.renderSetting cache uri) (Block.allActions (line + 1) body))
            (Block.interpretAll meaning (line + 1) bound body) := fun _ boundCalm =>
        Block.allActions_do worldCalm body (line + 1) inner boundCalm
      exact loop_does worldCalm calm here line does

theorem Block.allActions_do (worldCalm : meaning.world.Calm family) :
    ∀ (blocks : List Block) (line : Nat) {environment : Environment},
    (∀ source ∈ Block.allLines blocks, source.Named) → environment.Calm family →
      Does cache meaning.world environment uri
        (renderAll (meaning.renderSetting cache uri) (Block.allActions line blocks))
        (Block.interpretAll meaning line environment blocks)
  | [], _, _, _, _ => Runs.pure ()
  | block :: rest, line, environment, named, calm => by
      obtain ⟨here, later⟩ := List.forall_mem_append.mp named
      unfold Block.allActions Block.interpretAll
      rw [renderAll_append]
      refine Does.andThen ?_ ?_
      · exact Block.actions_do worldCalm block line here calm
      · exact Block.allActions_do worldCalm rest _ later calm

end

end Blocks

/-- Rendering a compiled template on a model of calm instances does what the interpreter of its blocks
does: it writes the same text, and it fails at the same line with the same fault, or not at all.  What stops
it without a place is an integer with too many digits, or a value that raises when it is written down.
It leaves the objects as they are, so that another rendering does it again. -/
theorem render_compiled {uri : Option String} {lines : List (List Char)}
    {template : CompiledTemplate} (accepted : compile uri lines = .ok template) {cache : Nat}
    {world : World} (coherent : world.Coherent cache) (worldCalm : world.Calm family)
    {model : Value} (calm : model.Calm family) (terminator : String) (acceptsText : Bool) :
    ∃ blocks : List Block, MakeUp blocks lines ∧ (∀ other, MakeUp other lines → other = blocks) ∧
      ((Interpretation.mk world terminator acceptsText).run model blocks).RaisesOnly
        (world.Unwritten family) ∧
      ∃ after : Rendering,
        template.render (Resolver.standard cache) terminator acceptsText model world =
          (((Interpretation.mk world terminator acceptsText).run model blocks).result uri, after) ∧
        after.output = ((Interpretation.mk world terminator acceptsText).run model blocks).output ∧
        World.Alike cache world after.world := by
  obtain ⟨blocks, makeUp, rfl⟩ := makeUp_of_compile accepted
  have start : (⟨model, []⟩ : Environment).Calm family := ⟨calm, by simp⟩
  let meaning : Interpretation := ⟨world, terminator, acceptsText⟩
  have does : Does cache meaning.world ⟨model, []⟩ uri
      (renderAll (meaning.renderSetting cache uri) (Block.allActions 1 blocks))
      (meaning.run model blocks) :=
    Block.allActions_do worldCalm blocks 1 makeUp.named start
  obtain ⟨after, ran, alike, -, wrote⟩ := does ⟨world, .value model, #[]⟩
    (World.Alike.refl coherent) (Environment.Represents.start model)
  have raises : (meaning.run model blocks).RaisesOnly (world.Unwritten family) :=
    Block.interpretAll_raises worldCalm blocks 1 start
  refine ⟨blocks, makeUp, fun other made => made.unique makeUp, raises, after, ran,
    wrote.trans ?_, alike⟩
  exact String.empty_append

/-- The second item of this loop is null: it fails behind the output of the first one. -/
theorem render_compiled_null_item :
    ∃ template, compile (some "list.txt") (["<% for item in items %>", "${item},", "<% /for %>"].map
        String.toList) = .ok template ∧
      World.Coherent {} 0 ∧ World.Calm {} (fun _ _ => False) ∧
      Value.Calm (fun _ _ => False) (.map [(.text "items", .list [.text "a", .null])]) ∧
      ∃ after, template.render (Resolver.standard 0) "\n" false
          (.map [(.text "items", .list [.text "a", .null])]) {} =
            (.error (.located (.nullVariable "item") 2 (some "list.txt")), after) ∧
        after.output = "a,\n" := by
  have makeUp : MakeUp [.loop "item" "items" [.literal ⟨[⟨[], "item".toList⟩], [',']⟩]]
      (["<% for item in items %>", "${item},", "<% /for %>"].map String.toList) := by
    unfold MakeUp
    cbv
  have accepted := compile_of_makeUp (some "list.txt") makeUp
  have coherent : World.Coherent {} 0 := World.coherent_of_unused (by simp)
  have worldCalm : World.Calm {} (fun _ _ => False) :=
    ⟨by simp, by simp, by simp, by simp, by simp [Classes.builtinMember?]⟩
  have calm : Value.Calm (fun _ _ => False) (.map [(.text "items", .list [.text "a", .null])]) := by
    simp [Value.Calm, Value.EntriesCalm, Value.AllCalm]
  refine ⟨_, accepted, coherent, worldCalm, calm, ?_⟩
  obtain ⟨blocks, made, unique, -, after, ran, wrote, -⟩ :=
    render_compiled accepted coherent worldCalm calm "\n" false
  obtain rfl := unique _ makeUp
  have items : pathSegments "items" = ["items"] := by cbv
  have item : pathSegments "item" = ["item"] := by cbv
  have list : (Interpretation.mk {} "\n" false).items
      ⟨.map [(.text "items", .list [.text "a", .null])], []⟩ "items" = .ok [.text "a", .null] := by
    simp [Interpretation.items, Interpretation.pathValue, Environment.resolve, items,
      Environment.first, World.walk, World.property, Value.entries?, Value.get?, Value.isNull]
  have value : ∀ bound, (Interpretation.mk {} "\n" false).value
      ⟨.map [(.text "items", .list [.text "a", .null])], [("item", bound)]⟩ 2 "item" =
        if bound.isNull then .failed 2 (.nullVariable "item")
        else (Interpretation.mk {} "\n" false).text bound := by
    simp [Interpretation.value, Interpretation.pathValue, Environment.resolve, item,
      Environment.first, World.walk, Value.isNull]
  have outcome : (Interpretation.mk {} "\n" false).run
      (.map [(.text "items", .list [.text "a", .null])])
      [.loop "item" "items" [.literal ⟨[⟨[], "item".toList⟩], [',']⟩]] =
        ⟨"a,\n", some (.fault 2 (.nullVariable "item"))⟩ := by
    simp only [Interpretation.run, Block.interpretAll, Block.interpret, list, List.map_cons,
      List.map_nil, Environment.bind, Interpretation.literal, Interpretation.reference,
      String.ofList_toList, value]
    rfl
  rw [outcome] at ran wrote
  exact ⟨after, ran, wrote⟩

end Stencil.Template
