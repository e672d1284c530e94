/-
Module: Stencil.Proofs.Template.LoopVariables
Purpose: What the variable of a loop is found to be while the loop has an item taken up, by each of
  the resolvers that can read objects.
Main exports: Resolver.objectReaders, DuringItem, getValue_loopVariable
-/
import Stencil.Proofs.Property.Evolution
import Stencil.Proofs.Template.InsideLoops
import Stencil.Proofs.Template.RendererExactness

namespace Stencil

/-! ### Resolvers and loop scopes -/

namespace Resolver

/-- The resolvers of the engine that can read objects: as objects only, or beside mappings, and along
dotted paths over each of the two. -/
def objectReaders (cache : Nat) : List Resolver :=
  [object cache, segments cache, dotted (object cache), standard cache]

variable {engine resolver : Resolver} {scope : LoopScope} {name : String} {item : Value}

/-- A resolver that looks into loop scopes by key finds a variable there, and does nothing else. -/
theorem ofScope_variable (sees : resolver.seesVariables = true) (simple : SimpleName name)
    (bound : scope.bound? name = some item) : ofScope engine resolver scope name = pure item := by
  induction resolver with
  | mapping =>
      have found : scope.item engine name = pure item := by
        unfold LoopScope.item
        rw [bound]
      rw [ofScope, requireArguments_given simple.1, pure_bind, LoopScope.get, found]
      rfl
  | atomic mappings objects mappings_ih objects_ih =>
      rw [ofScope, requireArguments_given simple.1, pure_bind]
      exact mappings_ih sees
  | dotted segments ih =>
      rw [ofScope, requireArguments_given simple.1, pure_bind, followPath_simple simple]
      exact ih sees
  | object cache => cases sees
  | custom look => cases sees

end Resolver

namespace LoopScope

/-- The names of the members that the engine itself has given loop scopes. -/
def memberNames : List String :=
  ["base", "bindings", "resolver", "child", "keys", "values", "items", "get"]

/-- The names that a loop scope has members under as an object: those that the engine has given it, and
those that it has from the classes above it. -/
def HasMember (world : World) (name : String) : Prop :=
  name ∈ memberNames ∨
    ((world.classes.builtin "elt.template.compiler.LoopScope").members.lookup name).isSome

variable {scope : LoopScope} {name : String}

/-- At a name without a member there is null. -/
theorem readMember_other {world : World} (other : ¬ HasMember world name) :
    (scope.readMember name).run.run world = (.ok .null, world) := by
  have noOwn : name ∉ memberNames := fun own => other (.inl own)
  have inherited : (world.classes.builtin "elt.template.compiler.LoopScope").members.lookup name =
      none := Option.not_isSome_iff_eq_none.mp fun above => other (.inr above)
  have seen : (MonadState.get : Lookup World).run.run world = (.ok world, world) := rfl
  unfold readMember
  rw [run_bind_ok seen]
  unfold memberOf
  split
  case h_9 =>
    rw [run_bind_ok seen, inherited]
    rfl
  all_goals exact absurd (by simp [memberNames]) noOwn

/-- What a member of a loop scope is depends on the classes and on the variables that are gone. -/
theorem readMember_run (scope : LoopScope) (name : String) {world other : World}
    (classes : other.classes = world.classes) (removed : other.removed = world.removed) :
    ((scope.readMember name).run.run other).1 = ((scope.readMember name).run.run world).1 := by
  have lockstep : Lockstep
      (fun one two : World => two.classes = one.classes ∧ two.removed = one.removed)
      (fun _ => True) (fun _ => True) (scope.readMember name) (scope.readMember name) := by
    apply LoopScope.readMember_lockstep
    · exact fun _ => trivial
    · exact fun _ _ => trivial
    · exact fun _ _ same => same.1
    · exact fun _ _ same => same.2
  exact (lockstep.run_eq ⟨classes, removed⟩).1.symm

/-- As an object, a loop scope has its own members only. -/
theorem readProperty_run (cache : Nat) (scope : LoopScope) (name : String) (world : World) :
    ((scope.readProperty cache name).run.run world).1 =
      ((scope.readMember name).run.run world).1 := by
  have seen : (MonadState.get : Lookup World).run.run world = (.ok world, world) := rfl
  have accessor := accessorFor_run cache "elt.template.compiler" "LoopScope" name
    (world.classMemberKind? "elt.template.compiler" "LoopScope") world
  unfold readProperty
  rw [run_bind_ok seen]
  split at accessor
  · rw [run_bind_ok accessor]
  · rw [run_bind_ok accessor]
    exact readMember_run scope name rfl rfl

end LoopScope

/-- An object resolver, alone or along dotted paths, finds the members of the loop scope at the name of
a variable. -/
theorem Resolver.ofScope_blind {engine resolver : Resolver} {cache : Nat} {scope : LoopScope}
    {name : String} (blind : resolver = .object cache ∨ resolver = .dotted (.object cache))
    (simple : SimpleName name) (world : World) :
    ((ofScope engine resolver scope name).run.run world).1 =
      ((scope.readMember name).run.run world).1 := by
  have plain : ((ofScope engine (.object cache) scope name).run.run world).1 =
      ((scope.readMember name).run.run world).1 := by
    rw [ofScope, requireArguments_given simple.1, pure_bind]
    exact LoopScope.readProperty_run cache scope name world
  rcases blind with rfl | rfl
  · exact plain
  · rw [ofScope, requireArguments_given simple.1, pure_bind, followPath_simple simple]
    exact plain

namespace Template

/-! ### Names of loop variables -/

mutual

/-- The variables of all loops in a step, at any depth, have simple names. -/
def Action.SimpleLoops : Action → Prop
  | .loop name _ body _ => SimpleName name ∧ AllSimpleLoops body
  | .branch _ whenTrue whenFalse _ => AllSimpleLoops whenTrue ∧ AllSimpleLoops whenFalse
  | .text _ | .line _ | .value _ _ => True

def AllSimpleLoops : List Action → Prop
  | [] => True
  | action :: rest => action.SimpleLoops ∧ AllSimpleLoops rest

end

theorem AllSimpleLoops.append {front rest : List Action} (first : AllSimpleLoops front)
    (second : AllSimpleLoops rest) : AllSimpleLoops (front ++ rest) := by
  induction front with
  | nil => exact second
  | cons action front ih => exact ⟨first.1, ih first.2⟩

theorem AllSimpleLoops.of_forall {actions : List Action}
    (simple : ∀ action ∈ actions, action.SimpleLoops) : AllSimpleLoops actions := by
  induction actions with
  | nil => trivial
  | cons action rest ih =>
      obtain ⟨here, later⟩ := List.forall_mem_cons.mp simple
      exact ⟨here, ih later⟩

theorem literalActions_simpleLoops (line : Nat) (literal : SubstitutedLine) :
    AllSimpleLoops (literalActions line literal) := by
  apply AllSimpleLoops.of_forall
  intro action member
  simp only [literalActions, referenceActions, List.mem_append, List.mem_flatMap,
    List.mem_singleton] at member
  rcases member with ⟨reference, -, text | rfl⟩ | rfl
  · split at text
    · cases text
    · obtain rfl := List.mem_singleton.mp text
      trivial
  · trivial
  · trivial

/-- A line opens a loop only with a variable of a simple name. -/
def SourceLine.SimpleLoop : SourceLine → Prop
  | .opensLoop name _ => SimpleName name
  | _ => True

theorem LoopHeader.read?_simple {header : List Char} {loop : LoopHeader}
    (read : LoopHeader.read? header = some loop) (simple : loop.isSimple = true) :
    SimpleName loop.name := by
  unfold LoopHeader.read? at read
  split at read
  · rename_i name link path same
    split at read
    · cases read
      have named : name ≠ [] := by
        refine wordsFrom_ne_nil [] header name ?_
        rw [show Text.wordsFrom [] header = [name, link, path] from same]
        exact List.mem_cons_self
      have noPoint : '.' ∉ name := by simpa [LoopHeader.isSimple] using simple
      refine ⟨?_, ?_⟩
      · rwa [Ne, String.ofList_eq_empty_iff]
      · rw [pathSegments, String.toList_ofList, List.splitOn_eq_singleton noPoint]
        rfl
    · cases read
  · cases read

theorem SourceLine.read?_simpleLoop {text : List Char} {line : SourceLine}
    (read : SourceLine.read? text = some line) : line.SimpleLoop := by
  unfold SourceLine.read? at read
  simp only at read
  split at read
  · obtain ⟨directive, -, found⟩ := Option.bind_eq_some_iff.mp read
    cases directive with
    | openLoop header =>
        obtain ⟨loop, header, simple⟩ := Option.bind_eq_some_iff.mp found
        split at simple
        · rename_i plain
          cases simple
          exact LoopHeader.read?_simple header plain
        · cases simple
    | openBranch condition =>
        obtain ⟨expression, -, rfl⟩ := Option.map_eq_some_iff.mp found
        trivial
    | otherwise | closeBranch | closeLoop =>
        cases found
        trivial
  · obtain ⟨content, -, rfl⟩ := Option.map_eq_some_iff.mp read
    trivial

mutual

theorem Block.actions_simpleLoops :
    ∀ (block : Block) (line : Nat), (∀ source ∈ block.lines, source.SimpleLoop) →
      AllSimpleLoops (block.actions line)
  | .literal content, line, _ => literalActions_simpleLoops line content
  | .branch condition whenTrue, line, simple => by
      have inner : ∀ source ∈ Block.allLines whenTrue, source.SimpleLoop := fun source member =>
        simple source (List.mem_cons_of_mem _ (List.mem_append_left _ member))
      exact ⟨⟨Block.allActions_simpleLoops whenTrue (line + 1) inner, trivial⟩, trivial⟩
  | .branchElse condition whenTrue whenFalse, line, simple => by
      obtain ⟨-, inside⟩ := List.forall_mem_cons.mp simple
      obtain ⟨inTrue, behind⟩ := List.forall_mem_append.mp inside
      obtain ⟨-, behind⟩ := List.forall_mem_cons.mp behind
      have inFalse : ∀ source ∈ Block.allLines whenFalse, source.SimpleLoop :=
        fun source member => behind source (List.mem_append_left _ member)
      exact ⟨⟨Block.allActions_simpleLoops whenTrue _ inTrue,
        Block.allActions_simpleLoops whenFalse _ inFalse⟩, trivial⟩
  | .loop name path body, line, simple => by
      obtain ⟨here, inside⟩ := List.forall_mem_cons.mp simple
      have inner : ∀ source ∈ Block.allLines body, source.SimpleLoop := fun source member =>
        inside source (List.mem_append_left _ member)
      exact ⟨⟨here, Block.allActions_simpleLoops body (line + 1) inner⟩, trivial⟩

theorem Block.allActions_simpleLoops :
    ∀ (blocks : List Block) (line : Nat), (∀ source ∈ Block.allLines blocks, source.SimpleLoop) →
      AllSimpleLoops (Block.allActions line blocks)
  | [], _, _ => trivial
  | block :: rest, line, simple => by
      obtain ⟨here, later⟩ := List.forall_mem_append.mp simple
      exact .append (Block.actions_simpleLoops block line here)
        (Block.allActions_simpleLoops rest _ later)

end

/-- The loops of a compiled template have variables with simple names. -/
theorem compile_simpleLoops {uri : Option String} {lines : List (List Char)}
    {template : CompiledTemplate} (accepted : compile uri lines = .ok template) :
    AllSimpleLoops template.actions := by
  obtain ⟨blocks, makeUp, rfl⟩ := makeUp_of_compile accepted
  refine Block.allActions_simpleLoops blocks 1 fun source member => ?_
  obtain ⟨text, read⟩ := makeUp.read source member
  exact SourceLine.read?_simpleLoop read

/-- Wherever a rendering comes to, the loops of the step there have variables with simple names. -/
theorem Visits.simpleLoops {setting : RenderSetting} {actions : List Action}
    {names : List String} {inner : Action} {state there : Rendering}
    (visits : Visits setting actions state names inner there) (simple : AllSimpleLoops actions) :
    inner.SimpleLoops := by
  induction visits with
  | here => exact simple.1
  | later _ _ ih => exact ih simple.2
  | @branch _ _ _ _ _ holds _ _ _ _ _ _ _ ih =>
      cases holds with
      | true => exact ih simple.1.1
      | false => exact ih simple.1.2
  | loop _ _ _ ih => exact ih simple.1.2

/-! ### While a loop has an item taken up -/

/-- A rendering is at a step in the body of a loop while the loop has an item taken up.  The loop may
stand inside others, and between the loop and the step there may be further loops over the variables
`inner`. -/
inductive DuringItem (setting : RenderSetting) (actions : List Action) (state : Rendering)
    (name : String) (item : Value) (inner : List String) (there : Rendering) : Prop where
  | intro {outer : List String} {path : String} {body : List Action} {line : Nat}
      {source : LoopSource} {step : Action} {before after start : Rendering}
      (reached : Visits setting actions state outer (.loop name path body line) before)
      (found : (loopSource setting path line).run.run before = (.ok source, after))
      (iterates : Iterates (fun item => do
          Render.bindVariable setting name item
          renderAll setting body) source (setting.entering (setting.current after).shadow after) item
        start)
      (visits : Visits setting body (setting.binding name item start) inner step there)

section Models

variable {setting : RenderSetting} {actions : List Action} {state there : Rendering}
  {name : String} {item : Value} {inner : List String}

/-- While a loop over an object has an item taken up, the model is a loop scope in which the variable
of the loop is bound to the item, unless a loop further inside has a variable of the same name.  If
`may` says so, the variable may be gone. -/
theorem DuringItem.bound {may : Prop} {P : World → Prop} (kept : Kept setting P)
    (allowed : ∀ world, P world → setting.gone world = [] ∨ may)
    (during : DuringItem setting actions state name item inner there) (holds : P state.world)
    {subject : Value} (model : state.model = .value subject) (noMap : subject.isMap = false)
    (other : name ∉ inner) :
    ∃ scope, there.model = .scope scope ∧
      (scope.bound? name = some item ∨ may ∧ scope.bound? name = none) := by
  have both := kept.sideBySide
  obtain ⟨reached, found, iterates, visits⟩ := during
  rename_i path body line source step before after start
  have outside : (⟨subject, []⟩ : Environment).Leaves may state.model := by
    rw [model]
    exact (Environment.Represents.start subject).leaves
  obtain ⟨here, -, around, -, leaves⟩ := reached.leaves kept allowed holds outside
  have notNull : subject.isNull = false := by
    rw [← leaves.isNull]
    exact loopSource_noNull found
  have finds := Kept.run (loopSource_lockstep both.toReadAlike path line) here found
  rw [← (quiet_source _ _).model found] at leaves
  have current := leaves.without (allowed _ finds)
  obtain ⟨taken, loop⟩ := LoopModel.iterates kept allowed (current.shadow notNull) notNull
    (kept.fresh finds) iterates
  obtain ⟨-, -, added, listed, kept', agree, inside⟩ := visits.leaves kept allowed
    (kept.fresh taken) (loop.bind notNull (allowed _ taken) item)
  have unbound : added.lookup name = none := by
    apply lookup_eq_none
    simpa [listed] using other
  have bound : (added ++ (name, item) :: (around ++ [])).lookup name = some item := by
    rw [List.lookup_append, unbound, Option.none_or, List.lookup_cons_self]
  have left : kept'.lookup name = some item ∨ may ∧ kept'.lookup name = none :=
    (agree name).imp_left fun same => same.trans bound
  have nested : there.model ≠ .value subject := by
    by_cases innermost : inner = []
    · rw [visits.outside innermost]
      exact Model.bind_ne_value noMap
    · obtain ⟨outer, name, item, bound⟩ := visits.bound innermost
      rw [bound]
      exact Model.bind_ne_value noMap
  generalize there.model = reachedModel at inside nested ⊢
  cases inside with
  | overMap base _ =>
      obtain rfl : subject = _ := base
      cases noMap
  | plain _ _ => exact absurd rfl nested
  | @overScope scope _ _ _ agree =>
      refine ⟨scope, rfl, ?_⟩
      rwa [agree name]

/-- Where no member takes variables out and the user has no resolver of their own, none is gone while a
template is rendered, if none was gone before. -/
theorem kept_untaken {setting : RenderSetting} (noUser : ∀ look, ¬ setting.resolver.Asks look)
    {classes : Classes} (keep : ¬ classes.TakeVariables) :
    Kept setting fun world => world.classes = classes ∧ world.removed = [] where
  lookup := by
    rintro model path world ⟨rfl, removed⟩
    have restrained := Resolver.restrained_of_noUser noUser
    have start : World.Evolves setting.resolver world world := .refl
    obtain ⟨evolves, classes⟩ := start.getValue restrained rfl model path
    exact ⟨classes, (evolves.removed_eq noUser keep).1.trans removed⟩
  fresh := by
    rintro world ⟨classes, removed⟩
    unfold RenderSetting.taken
    split
    · exact ⟨classes, removed⟩
    · exact ⟨classes, rfl⟩
  restored := by
    rintro outer world ⟨-, outside⟩ ⟨classes, removed⟩
    unfold RenderSetting.taken
    split
    · exact ⟨classes, removed⟩
    · exact ⟨classes, outside⟩
  drawn := by
    rintro world after identity item ⟨classes, removed⟩ taken
    obtain ⟨_, -, rfl⟩ := World.takeNext_eq_some_iff.mp taken
    exact ⟨classes, removed⟩
  broken := by
    rintro world after identity raised ⟨classes, removed⟩ broken
    obtain ⟨-, rfl⟩ := World.takeBreak_eq_some_iff.mp broken
    exact ⟨classes, removed⟩

/-- A variable is gone only if some member can take it out. -/
theorem DuringItem.bound_or_gone (during : DuringItem setting actions state name item inner there)
    (noUser : ∀ look, ¬ setting.resolver.Asks look) {subject : Value}
    (model : state.model = .value subject) (noMap : subject.isMap = false) (other : name ∉ inner) :
    ∃ scope, there.model = .scope scope ∧
      (scope.bound? name = some item ∨ state.world.MayTake ∧ scope.bound? name = none) := by
  by_cases may : state.world.MayTake
  · have allowed : ∀ world, True → setting.gone world = [] ∨ state.world.MayTake :=
      fun _ _ => .inr may
    exact during.bound (kept_trivially setting) allowed trivial model noMap other
  · obtain ⟨mapless, keep⟩ := not_or.mp may
    have kept := kept_untaken noUser keep
    refine during.bound kept ?_ ⟨rfl, not_not.mp mapless⟩ model noMap other
    rintro world ⟨-, removed⟩
    left
    unfold RenderSetting.gone
    rw [removed, ite_self]

/-- While a loop over an object has an item taken up, also in the bodies of loops over other variables,
the resolvers that look into loop scopes by key find the item at the name of the variable, and leave
the objects alone.  The others find what the loop scope itself has at this name as an object, and
that is null unless the scope has a member of that name: the variable is bound, unless a member has
taken it out, and they do not see it. -/
theorem getValue_loopVariable {uri : Option String} {lines : List (List Char)}
    {template : CompiledTemplate} (accepted : compile uri lines = .ok template) {cache : Nat}
    (reader : setting.resolver ∈ Resolver.objectReaders cache) {className : String}
    {identity : Nat} (model : state.model = .value (.object className identity))
    (during : DuringItem setting template.actions state name item inner there)
    (other : name ∉ inner) (world : World) :
    let found := (setting.resolver.getValue there.model name).run.run world
    (setting.resolver.seesVariables = true → found = (.ok item, world)) ∧
    (setting.resolver.seesVariables = false →
      (∃ scope, there.model = .scope scope ∧
        (scope.bound? name = some item ∨ state.world.MayTake ∧ scope.bound? name = none) ∧
        found.1 = ((scope.readMember name).run.run world).1) ∧
      (¬ LoopScope.HasMember world name → found.1 = .ok .null)) := by
  have simple : SimpleName name := by
    obtain ⟨reached, -, -, -⟩ := during
    exact (reached.simpleLoops (compile_simpleLoops accepted)).1
  refine ⟨fun sees => ?_, fun blind => ?_⟩
  · have allowed : ∀ world, True → setting.gone world = [] ∨ False := by
      intro world _
      left
      rw [RenderSetting.gone, if_pos sees]
    obtain ⟨scope, inScope, bound | ⟨⟨⟩, -⟩⟩ :=
      during.bound (kept_trivially setting) allowed trivial model rfl other
    rw [inScope]
    show (Resolver.ofScope setting.resolver setting.resolver scope name).run.run world = _
    rw [Resolver.ofScope_variable sees simple bound]
    rfl
  · have object : setting.resolver = .object cache ∨
        setting.resolver = .dotted (.object cache) := by
      simp only [Resolver.objectReaders, List.mem_cons, List.not_mem_nil, or_false] at reader
      rcases reader with same | same | same | same
      · exact .inl same
      · rw [same] at blind
        cases blind
      · exact .inr same
      · rw [same] at blind
        cases blind
    have noUser : ∀ look, ¬ setting.resolver.Asks look := by
      intro look asks
      rcases object with same | same <;> rw [same] at asks <;> exact asks
    obtain ⟨scope, inScope, bound⟩ := during.bound_or_gone noUser model rfl other
    rw [inScope]
    have read : ((Resolver.ofScope setting.resolver setting.resolver scope name).run.run world).1 =
        ((scope.readMember name).run.run world).1 := Resolver.ofScope_blind object simple world
    refine ⟨⟨scope, rfl, bound, read⟩, fun noMember => read.trans ?_⟩
    rw [LoopScope.readMember_other noMember]

end Models

/-! ### A page with one item -/

/-- A page that has a list of one item. -/
def itemPage : Rendering where
  world :=
    { classes := { own := [{ name := "Page" }] }
      instances := [[("items", .list [.integer 1])]] }
  model := .value (.object "Page" 0)

/-- What a loop that has been evaluated runs over. -/
theorem found_of_isItem {setting : RenderSetting} {path : String} {line : Nat} {state : Rendering}
    (evaluated : (match ((loopSource setting path line).run.run state).1 with
      | .ok (.list [.integer 1]) => true
      | _ => false) = true) :
    (loopSource setting path line).run.run state =
      (.ok (.list [.integer 1]), ((loopSource setting path line).run.run state).2) := by
  rcases ran : (loopSource setting path line).run.run state with ⟨result, after⟩
  rw [ran] at evaluated
  split at evaluated
  · rename_i same
    cases same
    rfl
  · cases evaluated

/-- Two loops over the items of the page, one in the other. -/
def nestedLoops : List String :=
  ["<% for x in items %>", "<% for y in items %>", "${x}", "<% /for %>", "<% /for %>"]

theorem nestedLoops_compile :
    compile none (nestedLoops.map String.toList) =
      .ok ⟨[.loop "x" "items" [.loop "y" "items" [.value "x" 3, .line ""] 2] 1], none, 5⟩ := by
  have makeUp : MakeUp [.loop "x" "items" [.loop "y" "items"
      [.literal ⟨[⟨[], "x".toList⟩], []⟩]]] (nestedLoops.map String.toList) := by
    unfold MakeUp nestedLoops
    cbv
  exact compile_of_makeUp none makeUp

theorem nestedLoops_during :
    ∃ there, DuringItem ⟨Resolver.segments 0, none, "\n", false⟩
      [.loop "x" "items" [.loop "y" "items" [.value "x" 3, .line ""] 2] 1] itemPage "x" (.integer 1)
        ["y"] there := by
  refine ⟨_, .intro .here (found_of_isItem ?_) .first (.loop (found_of_isItem ?_) .first .here)⟩
  · decide +kernel
  · decide +kernel

/-- In the inner loop, a resolver of mappings and objects finds the variable of the outer one. -/
theorem getValue_loopVariable_nested :
    ∃ template there, compile none (nestedLoops.map String.toList) = .ok template ∧
      Resolver.segments 0 ∈ Resolver.objectReaders 0 ∧
      itemPage.model = .value (.object "Page" 0) ∧
      DuringItem ⟨Resolver.segments 0, none, "\n", false⟩ template.actions itemPage "x" (.integer 1)
        ["y"] there ∧
      "x" ∉ ["y"] ∧
      ((Resolver.segments 0).getValue there.model "x").run.run {} = (.ok (.integer 1), {}) := by
  have reader : Resolver.segments 0 ∈ Resolver.objectReaders 0 := by
    simp [Resolver.objectReaders]
  have other : "x" ∉ ["y"] := by decide
  obtain ⟨there, during⟩ := nestedLoops_during
  obtain ⟨found, -⟩ := getValue_loopVariable nestedLoops_compile reader rfl during other {}
  exact ⟨_, there, nestedLoops_compile, reader, rfl, during, other, found rfl⟩

/-- One loop over the items of the page. -/
def singleLoop : List String :=
  ["<% for x in items %>", "${x}", "<% /for %>"]

theorem singleLoop_compile :
    compile none (singleLoop.map String.toList) =
      .ok ⟨[.loop "x" "items" [.value "x" 2, .line ""] 1], none, 3⟩ := by
  have makeUp : MakeUp [.loop "x" "items" [.literal ⟨[⟨[], "x".toList⟩], []⟩]]
      (singleLoop.map String.toList) := by
    unfold MakeUp singleLoop
    cbv
  exact compile_of_makeUp none makeUp

theorem singleLoop_during :
    ∃ there, DuringItem ⟨.object 0, none, "\n", false⟩
      [.loop "x" "items" [.value "x" 2, .line ""] 1] itemPage "x" (.integer 1) [] there ∧
        there.model = .scope ⟨.object "Page" 0, [("x", .integer 1)]⟩ := by
  have found := @found_of_isItem ⟨.object 0, none, "\n", false⟩ "items" 1 itemPage (by decide +kernel)
  refine ⟨_, .intro .here found .first .here, ?_⟩
  rw [RenderSetting.binding_entering_model, RenderSetting.current, (quiet_source _ _).model found]
  rfl

/-- So it is not every resolver of objects that finds the items of loops: the one that reads nothing but
objects finds null. -/
theorem object_reader_misses_item :
    ¬ ∀ (setting : RenderSetting) (uri : Option String) (lines : List (List Char))
      (template : CompiledTemplate) (cache : Nat) (state there : Rendering) (className : String)
      (identity : Nat) (name : String) (item : Value) (inner : List String) (world : World),
        compile uri lines = .ok template → setting.resolver ∈ Resolver.objectReaders cache →
          state.model = .value (.object className identity) →
            DuringItem setting template.actions state name item inner there → name ∉ inner →
              item.isNull = false →
                ((setting.resolver.getValue there.model name).run.run world).1 = .ok item := by
  intro every
  obtain ⟨there, during, model⟩ := singleLoop_during
  have reader : Resolver.object 0 ∈ Resolver.objectReaders 0 := by
    simp [Resolver.objectReaders]
  have found := every _ _ _ _ 0 itemPage there "Page" 0 "x" (.integer 1) [] {} singleLoop_compile
    reader rfl during (by simp) rfl
  have null : (((Resolver.object 0).getValue (.scope ⟨.object "Page" 0, [("x", .integer 1)]⟩)
      "x").run.run {}).1.map (·.isNull) = .ok true := by
    decide +kernel
  rw [← model, found] at null
  cases null

end Template

end Stencil
