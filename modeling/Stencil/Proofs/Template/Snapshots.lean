/-
Module: Stencil.Proofs.Template.Snapshots
Purpose: Loop scopes that share a base and write their variables in place: what each of them shows
  after any history of them.
Main exports: ScopeStep, ScopeFamily.run, ScopeStep.applied, boundIn, keysOf, ScopeStep.expected,
  Finds, scopes_are_snapshots
-/
import Stencil.Proofs.Property.Lookups
import Stencil.Proofs.Template.InPlace

namespace Stencil.Template

/-! ### Families of loop scopes -/

/-- What is done with the loop scopes of a family, which are known by their numbers. -/
inductive ScopeStep where
  /-- Make a scope inside one of them. -/
  | child (scope : Nat)
  /-- Bind a variable. -/
  | set (scope : Nat) (name : String) (item : Value)
  /-- Read what is at a key, which has to be there. -/
  | item (scope : Nat) (name : String)
  /-- Read what is at a key, if anything is. -/
  | get (scope : Nat) (name : String)
  /-- List the keys of the variables. -/
  | names (scope : Nat)
deriving Repr, Inhabited

/-- What comes of a step. -/
inductive ScopeAnswer where
  | made (scope : Nat)
  | stored
  | looked (result : Except LookupError Value)
  | offered (result : Except LookupError (Option Value))
  | listed (names : List String)

namespace ScopeStep

/-- The scope that a step is about. -/
def scope : ScopeStep → Nat
  | child scope | set scope _ _ | item scope _ | get scope _ | names scope => scope

/-- The key that a step reads. -/
def key? : ScopeStep → Option String
  | item _ name | get _ name => some name
  | child _ | set _ _ _ | names _ => none

end ScopeStep

/-- Loop scopes by their numbers, each with the address of its variables. -/
structure ScopeFamily where
  world : World
  heap : Heap
  scopes : List Slot

namespace ScopeFamily

/-- A loop scope over a base, without variables, as the first of a family. -/
def start (base : Value) (heap : Heap) (world : World) : ScopeFamily :=
  let (root, heap) := heap.shadow (.plain base)
  ⟨world, heap, [root]⟩

/-- Do a step with a scope that there is. -/
def perform (engine : Resolver) (family : ScopeFamily) (step : ScopeStep) :
    Option (ScopeAnswer × ScopeFamily) := do
  let slot ← family.scopes[step.scope]?
  match family.heap.read slot with
  | .value _ => none
  | .scope scope =>
      match step with
      | .child _ =>
          let (inner, heap) := family.heap.shadow slot
          some (.made family.scopes.length, ⟨family.world, heap, family.scopes ++ [inner]⟩)
      | .set _ name item =>
          some (.stored, { family with heap := family.heap.store name item slot })
      | .item _ name =>
          let (result, world) := (scope.item engine name).run.run family.world
          some (.looked result, { family with world })
      | .get _ name =>
          let (result, world) := (scope.get engine name).run.run family.world
          some (.offered result, { family with world })
      | .names _ => some (.listed scope.names, family)

/-- Do several steps. -/
def run (engine : Resolver) (family : ScopeFamily) :
    List ScopeStep → Option (List ScopeAnswer × ScopeFamily)
  | [] => some ([], family)
  | step :: later => do
      let (answer, next) ← family.perform engine step
      let (answers, last) ← next.run engine later
      some (answer :: answers, last)

/-- The models that the scopes of a family are now. -/
def models (family : ScopeFamily) : List Model :=
  family.scopes.map family.heap.read

end ScopeFamily

/-- What a step does with models that nothing is written into. -/
def ScopeStep.applied (models : List Model) : ScopeStep → List Model
  | .child scope => models ++ (models[scope]?.map Model.shadow).toList
  | .set scope name bound => models.modify scope (·.bind name bound)
  | .item _ _ | .get _ _ | .names _ => models

/-! ### Histories -/

/-- How many scopes there are after some steps.  Histories have the last step first. -/
def scopeCount : List ScopeStep → Nat
  | [] => 1
  | .child _ :: earlier => scopeCount earlier + 1
  | _ :: earlier => scopeCount earlier

/-- What is bound to a key in a scope: what was bound to it last in this very scope, else what was
bound to it in the scope around it when this one was made. -/
def boundIn : List ScopeStep → Nat → String → Option Value
  | [], _, _ => none
  | .child around :: earlier, scope, key =>
      if scope = scopeCount earlier then boundIn earlier around key else boundIn earlier scope key
  | .set there name item :: earlier, scope, key =>
      if there = scope ∧ name = key then some item else boundIn earlier scope key
  | _ :: earlier, scope, key => boundIn earlier scope key

/-- The keys of all bindings that a scope has ever seen, in their order, those from around it first. -/
def keysOf : List ScopeStep → Nat → List String
  | [], _ => []
  | .child around :: earlier, scope =>
      if scope = scopeCount earlier then keysOf earlier around else keysOf earlier scope
  | .set there name _ :: earlier, scope =>
      if there = scope then keysOf earlier scope ++ [name] else keysOf earlier scope
  | _ :: earlier, scope => keysOf earlier scope

/-- What a scope shows at a key: what is bound to it, also if that is null, else what the base has. -/
def shownIn (found : String → Value) (history : List ScopeStep) (scope : Nat) (key : String) :
    Option Value :=
  (boundIn history scope key).or (if (found key).isNull then none else some (found key))

/-- What has to come of a step after a history, over a base with these values. -/
def ScopeStep.expected (found : String → Value) (history : List ScopeStep) : ScopeStep → ScopeAnswer
  | .child _ => .made (scopeCount history)
  | .set _ _ _ => .stored
  | .item scope name =>
      .looked ((shownIn found history scope name).elim (.error (.noKey name)) .ok)
  | .get scope name => .offered (.ok (shownIn found history scope name))
  | .names scope => .listed (keysOf history scope).eraseDups

/-- What has to come of several steps, one after another. -/
def expectedAll (found : String → Value) :
    List ScopeStep → List ScopeStep → List ScopeAnswer
  | _, [] => []
  | history, step :: later =>
      step.expected found history :: expectedAll found (step :: history) later

/-- A step is about a scope that there is, and reads a key that is a name without points. -/
structure ScopeStep.Proper (history : List ScopeStep) (step : ScopeStep) : Prop where
  there : step.scope < scopeCount history
  simple : ∀ name, step.key? = some name → SimpleName name

/-- So do several steps. -/
def AllProper : List ScopeStep → List ScopeStep → Prop
  | _, [] => True
  | history, step :: later => step.Proper history ∧ AllProper (step :: history) later

/-- In certain states of the objects, which lookups do not leave, names are found in a base with these
values. -/
def Finds (engine : Resolver) (base : Value) (found : String → Value) (calm : World → Prop) : Prop :=
  ∀ name, SimpleName name → ∀ world, calm world →
    ∃ after, (engine.ofValue base name).run.run world = (.ok (found name), after) ∧ calm after

/-- Names are found in a calm value with its properties, by the usual resolver. -/
theorem finds_of_calm {family : Family} {cache : Nat} {world : World} {base : Value}
    (worldCalm : world.Calm family) (calm : base.Calm family) (noNull : base.isNull = false) :
    Finds (Resolver.standard cache) base (world.property base) (World.Alike cache world) := by
  intro name simple before alike
  exact standard_settles_segment worldCalm calm noNull simple.1 simple.2 before alike

/-! ### Histories of some scopes -/

section Histories

variable {found : String → Value} {history : List ScopeStep} {scope other : Nat} {name key : String}
  {item : Value}

theorem scopeCount_append (later earlier : List ScopeStep) :
    scopeCount earlier ≤ scopeCount (later ++ earlier) := by
  induction later with
  | nil => exact Nat.le_refl _
  | cons step later ih =>
      cases step with
      | child => exact Nat.le_succ_of_le ih
      | _ => exact ih

/-- A key is bound if it is the key of some binding. -/
theorem mem_keysOf_iff : key ∈ keysOf history scope ↔ (boundIn history scope key).isSome := by
  induction history generalizing scope with
  | nil => exact iff_of_false List.not_mem_nil nofun
  | cons step earlier ih =>
      cases step with
      | child around =>
          rw [keysOf, boundIn]
          split
          · exact ih
          · exact ih
      | set there name item =>
          rw [keysOf, boundIn]
          by_cases here : there = scope
          · rw [if_pos here, List.mem_append, List.mem_singleton, ih]
            by_cases same : name = key
            · simp [here, same]
            · simp [here, same, Ne.symm same]
          · simp [here, ih]
      | item | get | names => exact ih

theorem eraseDups_snoc (keys : List String) (key : String) :
    (keys ++ [key]).eraseDups = if key ∈ keys then keys.eraseDups else keys.eraseDups ++ [key] := by
  rw [List.eraseDups_append, List.removeAll]
  by_cases member : key ∈ keys
  · simp [member]
  · simp [member, List.eraseDups_cons]

/-- Each key is listed once. -/
theorem nodup_keys : (keysOf history scope).eraseDups.Nodup := by
  induction history generalizing scope with
  | nil => exact List.nodup_nil
  | cons step earlier ih =>
      cases step with
      | child around =>
          rw [keysOf]
          split
          · exact ih
          · exact ih
      | set there name item =>
          rw [keysOf]
          split
          · rw [eraseDups_snoc]
            split
            · exact ih
            · rename_i fresh
              apply List.nodup_append.mpr
              refine ⟨ih, List.pairwise_singleton _ name, ?_⟩
              intro key member added isAdded same
              rw [same, List.mem_singleton.mp isAdded, List.mem_eraseDups] at member
              exact fresh member
          · exact ih
      | item | get | names => exact ih

/-- Binding a variable makes no scope. -/
theorem scopeCount_set (later earlier : List ScopeStep) :
    scopeCount (later ++ .set scope name item :: earlier) = scopeCount (later ++ earlier) := by
  induction later with
  | nil => rfl
  | cons step later ih =>
      cases step with
      | child => exact congrArg (· + 1) ih
      | _ => exact ih

/-- Binding a variable in one scope changes nothing in another one, then or later. -/
theorem set_elsewhere {earlier : List ScopeStep} (later : List ScopeStep)
    (there : other < scopeCount earlier) (elsewhere : other ≠ scope) :
    (∀ key, boundIn (later ++ .set scope name item :: earlier) other key =
        boundIn (later ++ earlier) other key) ∧
      keysOf (later ++ .set scope name item :: earlier) other = keysOf (later ++ earlier) other := by
  induction later with
  | nil =>
      constructor
      · intro key
        exact if_neg fun both => elsewhere both.1.symm
      · exact if_neg fun same => elsewhere same.symm
  | cons step later ih =>
      obtain ⟨bound, keys⟩ := ih
      cases step with
      | child around =>
          -- The scope made here is a new one, and so neither of the two.
          have old : other ≠ scopeCount (later ++ earlier) :=
            Nat.ne_of_lt (Nat.lt_of_lt_of_le there (scopeCount_append later earlier))
          simp only [List.cons_append, boundIn, keysOf, scopeCount_set, if_neg old]
          exact ⟨bound, keys⟩
      | set inner name' item' =>
          simp only [List.cons_append, boundIn, keysOf, bound, keys, implies_true, and_self]
      | item | get | names => exact ⟨bound, keys⟩

/-- So no step with the other scope shows it. -/
theorem expected_set_elsewhere {earlier : List ScopeStep} (later : List ScopeStep)
    (there : other < scopeCount earlier) (elsewhere : other ≠ scope) {step : ScopeStep}
    (isOther : step.scope = other) :
    step.expected found (later ++ .set scope name item :: earlier) =
      step.expected found (later ++ earlier) := by
  subst isOther
  obtain ⟨bound, keys⟩ := @set_elsewhere scope step.scope name item earlier later there elsewhere
  cases step with
  | child around => simp only [ScopeStep.expected, scopeCount_set]
  | set => rfl
  | item inner key =>
      have same := bound key
      simp only [ScopeStep.scope] at same
      simp only [ScopeStep.expected, shownIn, same]
  | get inner key =>
      have same := bound key
      simp only [ScopeStep.scope] at same
      simp only [ScopeStep.expected, shownIn, same]
  | names inner =>
      simp only [ScopeStep.scope] at keys
      simp only [ScopeStep.expected, keys]

end Histories

/-! ### Families and their histories -/

/-- The variables of a scope are those that its history has bound in it. -/
structure Shows (history : List ScopeStep) (scope : Nat) (bindings : List (String × Value)) :
    Prop where
  bound : ∀ key, bindings.lookup key = boundIn history scope key
  keys : bindings.map (·.1) = (keysOf history scope).eraseDups

theorem map_bindName (bindings : List (String × Value)) (name : String) (value : Value) :
    (bindName bindings name value).map (·.1) =
      if name ∈ bindings.map (·.1) then bindings.map (·.1) else bindings.map (·.1) ++ [name] := by
  induction bindings with
  | nil => rfl
  | cons entry rest ih =>
      obtain ⟨present, old⟩ := entry
      rw [bindName]
      by_cases same : present = name
      · simp [same]
      · rw [if_neg same, List.map_cons, ih]
        by_cases member : name ∈ rest.map (·.1)
        · simp [member]
        · simp [member, Ne.symm same]

/-- Writing a variable into the dictionary of a scope binds it there. -/
theorem Shows.bind {history : List ScopeStep} {scope : Nat} {bindings : List (String × Value)}
    (shown : Shows history scope bindings) (name : String) (item : Value) :
    Shows (.set scope name item :: history) scope (bindName bindings name item) := by
  constructor
  · intro key
    rw [Environment.lookup_bindName, shown.bound, boundIn]
    simp
  · rw [map_bindName, shown.keys, keysOf, if_pos rfl, eraseDups_snoc]
    simp only [List.mem_eraseDups]

/-- What a scope reads at a key. -/
theorem item_run {engine : Resolver} {base : Value} {found : String → Value} {calm : World → Prop}
    (finds : Finds engine base found calm) {history : List ScopeStep} {scope : Nat}
    {bindings : List (String × Value)} (shown : Shows history scope bindings) {name : String}
    (simple : SimpleName name) {world : World} (isCalm : calm world) :
    ∃ after, ((⟨base, bindings⟩ : LoopScope).item engine name).run.run world =
      ((shownIn found history scope name).elim (.error (.noKey name)) .ok, after) ∧ calm after := by
  unfold LoopScope.item shownIn
  rw [← shown.bound, LoopScope.bound?]
  cases bindings.lookup name with
  | some value => exact ⟨world, rfl, isCalm⟩
  | none =>
      obtain ⟨after, ran, calmAfter⟩ := finds name simple world isCalm
      refine ⟨after, ?_, calmAfter⟩
      rw [run_bind_ok ran]
      cases (found name).isNull <;> rfl

/-- The same where the key may be missing. -/
theorem get_run {engine : Resolver} {base : Value} {found : String → Value} {calm : World → Prop}
    (finds : Finds engine base found calm) {history : List ScopeStep} {scope : Nat}
    {bindings : List (String × Value)} (shown : Shows history scope bindings) {name : String}
    (simple : SimpleName name) {world : World} (isCalm : calm world) :
    ∃ after, ((⟨base, bindings⟩ : LoopScope).get engine name).run.run world =
      (.ok (shownIn found history scope name), after) ∧ calm after := by
  obtain ⟨after, ran, calmAfter⟩ := item_run finds shown simple isCalm
  refine ⟨after, ?_, calmAfter⟩
  unfold LoopScope.get
  cases visible : shownIn found history scope name with
  | some value =>
      rw [visible] at ran
      apply run_tryCatch_ok
      rw [run_bind_ok ran]
      rfl
  | none =>
      rw [visible] at ran
      rw [run_tryCatch_error (run_bind_error ran)]
      rfl

/-- A family after a history: it has as many scopes as were made, each over the base and with a
dictionary of its own behind the `offset` that were there before. -/
structure ScopeFamily.Stands (base : Value) (offset : Nat) (calm : World → Prop)
    (history : List ScopeStep) (family : ScopeFamily) : Prop where
  calm : calm family.world
  count : family.scopes.length = scopeCount history
  room : family.heap.scopes.length = offset + scopeCount history
  held : ∀ scope < scopeCount history,
    family.scopes[scope]? = some (.scope base (offset + scope)) ∧
      ∃ bindings, family.heap.scopes[offset + scope]? = some bindings ∧
        Shows history scope bindings

namespace ScopeFamily.Stands

variable {engine : Resolver} {base : Value} {found : String → Value} {calm : World → Prop}
  {offset : Nat} {history : List ScopeStep} {family : ScopeFamily}

theorem start (base : Value) (heap : Heap) {world : World} (isCalm : calm world) :
    Stands base heap.scopes.length calm [] (ScopeFamily.start base heap world) := by
  constructor
  · exact isCalm
  · rfl
  · simp [ScopeFamily.start, Heap.shadow, scopeCount]
  · intro scope there
    obtain rfl : scope = 0 := Nat.lt_one_iff.mp there
    refine ⟨rfl, [], ?_, ⟨fun _ => rfl, rfl⟩⟩
    simp [ScopeFamily.start, Heap.shadow]

/-- A step that writes nothing leaves a family as it stands. -/
theorem reads (stands : Stands base offset calm history family) {world : World}
    (isCalm : calm world) {step : ScopeStep}
    (count : scopeCount (step :: history) = scopeCount history)
    (same : ∀ scope bindings, Shows history scope bindings → Shows (step :: history) scope bindings) :
    Stands base offset calm (step :: history) { family with world } := by
  constructor
  · exact isCalm
  · exact stands.count.trans count.symm
  · rw [count]
    exact stands.room
  · intro scope there
    rw [count] at there
    obtain ⟨slot, bindings, dictionary, shown⟩ := stands.held scope there
    exact ⟨slot, bindings, dictionary, same scope bindings shown⟩

/-- A new scope has a copy of the variables of the one around it. -/
theorem child (stands : Stands base offset calm history family) {around : Nat}
    {bindings : List (String × Value)} (shown : Shows history around bindings) :
    Stands base offset calm (.child around :: history)
      ⟨family.world, { family.heap with scopes := family.heap.scopes ++ [bindings] },
        family.scopes ++ [.scope base family.heap.scopes.length]⟩ := by
  have count := stands.count
  have room := stands.room
  constructor
  · exact stands.calm
  · simp [stands.count, scopeCount]
  · simp [stands.room, scopeCount, Nat.add_assoc]
  · intro scope there
    rw [scopeCount] at there
    by_cases new : scope = scopeCount history
    · subst new
      refine ⟨?_, bindings, ?_, ?_⟩
      · simp [← stands.count, stands.room]
      · simp [← stands.room]
      · constructor
        · intro key
          rw [boundIn, if_pos rfl]
          exact shown.bound key
        · rw [keysOf, if_pos rfl]
          exact shown.keys
    · have old : scope < scopeCount history := by omega
      obtain ⟨slot, others, dictionary, shown'⟩ := stands.held scope old
      refine ⟨?_, others, ?_, ?_⟩
      · rw [List.getElem?_append_left (by omega)]
        exact slot
      · rw [List.getElem?_append_left (by omega)]
        exact dictionary
      · constructor
        · intro key
          rw [boundIn, if_neg new]
          exact shown'.bound key
        · rw [keysOf, if_neg new]
          exact shown'.keys

/-- A variable is written into the dictionary of one scope, and into no other. -/
theorem store (stands : Stands base offset calm history family) (there : Nat) (name : String)
    (item : Value) :
    Stands base offset calm (.set there name item :: history)
      { family with heap := family.heap.store name item (.scope base (offset + there)) } := by
  constructor
  · exact stands.calm
  · exact stands.count
  · simpa [Heap.store, scopeCount] using stands.room
  · intro scope inside
    obtain ⟨slot, bindings, dictionary, shown⟩ := stands.held scope inside
    refine ⟨slot, ?_⟩
    by_cases here : there = scope
    · subst here
      refine ⟨bindName bindings name item, ?_, shown.bind name item⟩
      simp [Heap.store, dictionary]
    · refine ⟨bindings, ?_, ?_⟩
      · simp [Heap.store, dictionary, here]
      · constructor
        · intro key
          rw [boundIn, if_neg fun both => here both.1]
          exact shown.bound key
        · rw [keysOf, if_neg here]
          exact shown.keys

/-- All its dictionaries are there. -/
theorem holds (stands : Stands base offset calm history family) {slot : Slot}
    (member : slot ∈ family.scopes) : family.heap.Holds slot := by
  obtain ⟨scope, inside, rfl⟩ := List.mem_iff_getElem.mp member
  have there : scope < scopeCount history := stands.count ▸ inside
  obtain ⟨slot, -⟩ := stands.held scope there
  rw [List.getElem?_eq_getElem inside] at slot
  rw [Option.some.inj slot, Heap.Holds, stands.room]
  omega

/-- Copying the variables of a scope of a family makes one more model of it. -/
theorem models_shadow (stands : Stands base offset calm history family) {around : Nat} {slot : Slot}
    (there : family.scopes[around]? = some slot) :
    (⟨family.world, (family.heap.shadow slot).2, family.scopes ++ [(family.heap.shadow slot).1]⟩ :
        ScopeFamily).models =
      family.models ++ (family.models[around]?.map Model.shadow).toList := by
  have old : family.scopes.map (family.heap.shadow slot).2.read = family.models := by
    apply List.map_congr_left
    intro kept member
    exact Heap.Extends.read (Heap.shadow_extends _ _) (stands.holds member)
  have made := Heap.read_shadow (stands.holds (List.mem_of_getElem? there))
  have around' : family.models[around]? = some (family.heap.read slot) := by
    rw [ScopeFamily.models, List.getElem?_map, there]
    rfl
  rw [around', ScopeFamily.models, List.map_append, old, List.map_singleton, made]
  rfl

/-- Writing a variable in place binds it in one model of a family. -/
theorem models_store (stands : Stands base offset calm history family) {there : Nat}
    (inside : there < scopeCount history) (name : String) (item : Value) :
    ({ family with heap := family.heap.store name item (.scope base (offset + there)) } :
        ScopeFamily).models =
      family.models.modify there (·.bind name item) := by
  unfold ScopeFamily.models
  apply List.ext_getElem?
  intro scope
  rw [List.getElem?_map, List.getElem?_modify, List.getElem?_map]
  by_cases old : scope < scopeCount history
  · obtain ⟨slot, bindings, dictionary, -⟩ := stands.held scope old
    have room := stands.room
    rw [slot]
    by_cases here : there = scope
    · subst here
      have holds : family.heap.Holds (.scope base (offset + there)) := by
        rw [Heap.Holds, room]
        omega
      have fresh : Heap.Fresh {} (.scope base (offset + there)) := Nat.zero_le _
      simp [Heap.read_store holds fresh]
    · simp [Heap.store, Heap.read, here]
  · rw [List.getElem?_eq_none (by rw [stands.count]; omega)]
    rfl

/-- A step answers as its history says, and leaves a family that stands after it.  What it writes in
place, its models have bound. -/
theorem step (finds : Finds engine base found calm)
    (stands : Stands base offset calm history family) {step : ScopeStep}
    (proper : step.Proper history) :
    ∃ next, family.perform engine step = some (step.expected found history, next) ∧
      Stands base offset calm (step :: history) next ∧ next.models = step.applied family.models := by
  obtain ⟨slot, bindings, dictionary, shown⟩ := stands.held step.scope proper.there
  have read : family.heap.read (.scope base (offset + step.scope)) = .scope ⟨base, bindings⟩ := by
    rw [Heap.read, dictionary]
    rfl
  unfold ScopeFamily.perform
  rw [slot]
  simp only [Option.bind_eq_bind, Option.bind_some, read]
  cases step with
  | child around =>
      have copied : family.heap.shadow (.scope base (offset + around)) =
          (.scope base family.heap.scopes.length,
            { family.heap with scopes := family.heap.scopes ++ [bindings] }) := by
        rw [ScopeStep.scope] at dictionary
        rw [Heap.shadow, dictionary]
        rfl
      have models := stands.models_shadow slot
      rw [ScopeStep.scope, copied] at models
      refine ⟨_, ?_, stands.child shown, models⟩
      simp only [ScopeStep.scope, copied, stands.count, ScopeStep.expected]
  | set there name item =>
      exact ⟨_, rfl, stands.store there name item, stands.models_store proper.there name item⟩
  | item scope name =>
      obtain ⟨after, ran, calmAfter⟩ :=
        item_run finds shown (proper.simple name rfl) stands.calm
      refine ⟨_, ?_, stands.reads calmAfter rfl fun _ _ shown => ⟨shown.bound, shown.keys⟩, rfl⟩
      simp only [ran]
      rfl
  | get scope name =>
      obtain ⟨after, ran, calmAfter⟩ :=
        get_run finds shown (proper.simple name rfl) stands.calm
      refine ⟨_, ?_, stands.reads calmAfter rfl fun _ _ shown => ⟨shown.bound, shown.keys⟩, rfl⟩
      simp only [ran]
      rfl
  | names scope =>
      refine ⟨family, ?_, stands.reads stands.calm rfl fun _ _ shown => ⟨shown.bound, shown.keys⟩,
        rfl⟩
      rw [ScopeStep.expected, LoopScope.names, shown.keys]
      rfl

/-- So do several steps. -/
theorem run (finds : Finds engine base found calm)
    (stands : Stands base offset calm history family) {steps : List ScopeStep}
    (proper : AllProper history steps) :
    ∃ last, family.run engine steps = some (expectedAll found history steps, last) ∧
      last.models = steps.foldl ScopeStep.applied family.models := by
  induction steps generalizing history family with
  | nil => exact ⟨family, rfl, rfl⟩
  | cons first later ih =>
      obtain ⟨next, performed, stands', models⟩ := stands.step finds proper.1
      obtain ⟨last, ran, models'⟩ := ih stands' proper.2
      refine ⟨last, ?_, by rw [models', models, List.foldl_cons]⟩
      simp only [ScopeFamily.run, performed, Option.bind_eq_bind, Option.bind_some, ran]
      rfl

end ScopeFamily.Stands

/-! ### Sequences of steps -/

section Sequences

variable {found : String → Value} {history other : List ScopeStep} {steps later : List ScopeStep}

theorem allProper_append : AllProper history (steps ++ later) ↔
    AllProper history steps ∧ AllProper (steps.reverse ++ history) later := by
  induction steps generalizing history with
  | nil => exact (and_iff_right trivial).symm
  | cons step rest ih =>
      rw [List.cons_append, AllProper, AllProper, ih, List.reverse_cons, List.append_assoc, and_assoc]
      rfl

theorem expectedAll_append : expectedAll found history (steps ++ later) =
    expectedAll found history steps ++ expectedAll found (steps.reverse ++ history) later := by
  induction steps generalizing history with
  | nil => rfl
  | cons step rest ih =>
      rw [List.cons_append, expectedAll, expectedAll, ih, List.reverse_cons, List.append_assoc]
      rfl

theorem expectedAll_last (step : ScopeStep) :
    (expectedAll found history (steps ++ [step])).getLast? =
      some (step.expected found (steps.reverse ++ history)) := by
  rw [expectedAll_append, expectedAll, expectedAll, List.getLast?_concat]

/-- Which steps are proper depends on how many scopes there are. -/
theorem AllProper.congr (proper : AllProper history steps)
    (same : scopeCount other = scopeCount history) : AllProper other steps := by
  induction steps generalizing history other with
  | nil => trivial
  | cons step rest ih =>
      constructor
      · exact ⟨same ▸ proper.1.there, proper.1.simple⟩
      · apply ih proper.2
        cases step with
        | child => exact congrArg (· + 1) same
        | _ => exact same

/-- Steps stay proper without one that binds a variable. -/
theorem AllProper.without_set {front back : List ScopeStep} {scope : Nat} {name : String}
    {item : Value} (proper : AllProper [] (front ++ .set scope name item :: back)) :
    AllProper [] (front ++ back) := by
  obtain ⟨before, behind⟩ := allProper_append.mp proper
  apply allProper_append.mpr
  exact ⟨before, behind.2.congr rfl⟩

end Sequences

/-- Loop scopes over a base in which names are found answer as their histories say, whatever is done with
them: each shows what was bound in itself, else what was bound around it when it was made, else what the
base has.  It lists each bound key once, in the order of the first bindings.  What is bound in one scope
is never seen in another one that there is.  The dictionaries, written in place, read at the end as the
models that `Model.shadow` and `Model.bind` make of the same steps. -/
theorem scopes_are_snapshots {engine : Resolver} {base : Value} {found : String → Value}
    {calm : World → Prop} (finds : Finds engine base found calm) {world : World}
    (isCalm : calm world) (heap : Heap) :
    (∀ steps, AllProper [] steps → ∃ last,
      (ScopeFamily.start base heap world).run engine steps =
        some (expectedAll found [] steps, last) ∧
      last.models = steps.foldl ScopeStep.applied [.scope ⟨base, []⟩]) ∧
    (∀ history scope, (keysOf history scope).eraseDups.Nodup ∧
      ∀ key, key ∈ (keysOf history scope).eraseDups ↔ (boundIn history scope key).isSome) ∧
    ∀ (front back : List ScopeStep) (scope : Nat) (name : String) (item : Value)
      (step : ScopeStep), AllProper [] (front ++ .set scope name item :: back ++ [step]) →
      step.scope < scopeCount front.reverse → step.scope ≠ scope →
      ((ScopeFamily.start base heap world).run engine
          (front ++ .set scope name item :: back ++ [step])).map (·.1.getLast?) =
        ((ScopeFamily.start base heap world).run engine (front ++ back ++ [step])).map
          (·.1.getLast?) := by
  have first : (ScopeFamily.start base heap world).models = [.scope ⟨base, []⟩] := by
    simp [ScopeFamily.start, ScopeFamily.models, Heap.shadow, Heap.read]
  have runs steps (proper : AllProper [] steps) :=
    first ▸ (ScopeFamily.Stands.start base heap isCalm).run finds proper
  refine ⟨runs, ?_, ?_⟩
  · intro history scope
    refine ⟨nodup_keys, fun key => ?_⟩
    rw [List.mem_eraseDups]
    exact mem_keysOf_iff
  · intro front back scope name item step proper there elsewhere
    obtain ⟨last, ran, -⟩ := runs _ proper
    have proper' : AllProper [] (front ++ back ++ [step]) := by
      rw [List.append_assoc] at proper ⊢
      exact proper.without_set
    obtain ⟨last', ran', -⟩ := runs _ proper'
    rw [ran, ran', Option.map_some, Option.map_some, expectedAll_last, expectedAll_last]
    have same := @expected_set_elsewhere found scope step.scope name item front.reverse back.reverse
      there elsewhere step rfl
    simpa using same

/-- A class of pages with a title that a getter gives. -/
def titledClass : ClassInfo where
  name := "Page"
  methods := [("getTitle", fun _ => .giving (.text "Home"))]

def titledWorld : World where
  classes := { own := [titledClass] }
  instances := [[]]

/-- A scope in a scope in a scope.  The first one binds a name again behind the second, which hides the
title of the page. -/
def titledSteps : List ScopeStep :=
  [.set 0 "row" (.integer 1), .child 0, .set 0 "row" (.integer 2), .set 1 "title" .null, .child 1,
    .item 0 "row", .item 2 "row", .item 0 "title", .item 2 "title", .get 1 "note", .names 2]

theorem scopes_are_snapshots_title :
    Finds (Resolver.standard 0) (.object "Page" 0) (titledWorld.property (.object "Page" 0))
        (World.Alike 0 titledWorld) ∧
      World.Alike 0 titledWorld titledWorld ∧ AllProper [] titledSteps ∧
      ∃ last, (ScopeFamily.start (.object "Page" 0) {} titledWorld).run (Resolver.standard 0)
          titledSteps =
        some ([.stored, .made 1, .stored, .stored, .made 2, .looked (.ok (.integer 2)),
          .looked (.ok (.integer 1)), .looked (.ok (.text "Home")), .looked (.ok .null),
          .offered (.ok none), .listed ["row", "title"]], last) := by
  have row : SimpleName "row" := ⟨by decide, by cbv⟩
  have title : SimpleName "title" := ⟨by decide, by cbv⟩
  have note : SimpleName "note" := ⟨by decide, by cbv⟩
  have proper : AllProper [] titledSteps := by
    have writes {history : List ScopeStep} {step : ScopeStep}
        (there : step.scope < scopeCount history) (noKey : step.key? = none) :
        step.Proper history := by
      refine ⟨there, fun name key => ?_⟩
      cases noKey.symm.trans key
    have reads {history : List ScopeStep} {step : ScopeStep} {name : String}
        (there : step.scope < scopeCount history) (key : step.key? = some name)
        (simple : SimpleName name) : step.Proper history := by
      refine ⟨there, fun other key' => ?_⟩
      cases key.symm.trans key'
      exact simple
    exact ⟨writes (by decide) rfl, writes (by decide) rfl, writes (by decide) rfl,
      writes (by decide) rfl, writes (by decide) rfl, reads (by decide) rfl row,
      reads (by decide) rfl row, reads (by decide) rfl title, reads (by decide) rfl title,
      reads (by decide) rfl note, writes (by decide) rfl, trivial⟩
  have worldCalm : titledWorld.Calm fun className identity => className = "Page" ∧ identity = 0 := by
    have titled {info : ClassInfo} (known : titledWorld.class? "Page" = some info) :
        titledClass = info := by
      simpa [World.class?, Classes.class?, titledWorld, titledClass] using known
    constructor
    · rintro _ _ ⟨rfl, rfl⟩ info known member isMember
      obtain rfl := titled known
      obtain rfl := List.mem_singleton.mp isMember
      exact ⟨⟨_, rfl⟩, rfl⟩
    · rintro _ _ ⟨rfl, rfl⟩ entry member
      cases member
    · rintro _ _ ⟨rfl, rfl⟩ info known entry member
      obtain rfl := titled known
      cases member
    · rintro _ _ ⟨rfl, rfl⟩ info known member isMember
      obtain rfl := titled known
      obtain rfl := List.mem_singleton.mp isMember
      trivial
    · rintro subject name member - found
      cases found
  have calm : Value.Calm (fun className identity => className = "Page" ∧ identity = 0)
      (.object "Page" 0) := ⟨rfl, rfl⟩
  have coherent : titledWorld.Coherent 0 := World.coherent_of_unused (by simp [titledWorld])
  have alike := World.Alike.refl coherent
  have finds := @finds_of_calm _ 0 _ _ worldCalm calm rfl
  obtain ⟨last, ran, -⟩ := (scopes_are_snapshots finds alike {}).1 titledSteps proper
  refine ⟨finds, alike, proper, last, ran.trans ?_⟩
  have home : titledWorld.property (.object "Page" 0) "title" = .text "Home" := rfl
  have noNote : titledWorld.property (.object "Page" 0) "note" = .null := rfl
  simp [titledSteps, expectedAll, ScopeStep.expected, shownIn, boundIn, keysOf, scopeCount, home,
    noNote, Value.isNull, List.eraseDups_cons]

end Stencil.Template
