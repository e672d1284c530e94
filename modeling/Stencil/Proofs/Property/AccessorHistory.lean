/-
Module: Stencil.Proofs.Property.AccessorHistory
Purpose: What an object resolver remembers after any sequence of lookups through it, whatever else
  happens to the objects between them.
Main exports: PropertyKey, asked, History, History.remembers, History.coherent
-/
import Stencil.Proofs.Property.Renewal

namespace Stencil

/-! ### Keys -/

/-- A property of a class, which is known by its module and its name. -/
structure PropertyKey where
  moduleName : String
  typeName : String
  property : String
deriving Repr, Inhabited, DecidableEq

/-- What is remembered about a key: nothing yet, or an accessor, or that there is none. -/
def World.remembers (world : World) (cache : Nat) (key : PropertyKey) : Option (Option Accessor) :=
  world.remembered? cache key.moduleName key.typeName key.property

/-- The accessor that a class gives to a property. -/
def World.accessorOf (world : World) (key : PropertyKey) : Option Accessor :=
  chooseAccessor (world.classMemberKind? key.moduleName key.typeName) key.property

/-- Nothing is remembered in a cache. -/
def World.Unused (world : World) (cache : Nat) : Prop :=
  ∀ entry ∈ world.accessors, entry.cache ≠ cache

/-- All that is remembered in a cache. -/
def World.held (world : World) (cache : Nat) : List RememberedAccessor :=
  world.accessors.filter (·.cache == cache)

theorem World.remembers_eq (world : World) (cache : Nat) (key : PropertyKey) :
    world.remembers cache key =
      ((world.held cache).find? fun entry => entry.moduleName == key.moduleName &&
        entry.typeName == key.typeName && entry.property == key.property).map (·.accessor) := by
  unfold World.remembers World.remembered? World.held
  rw [List.find?_filter]
  simp only [Bool.and_assoc, Bool.decide_and, Bool.decide_eq_true]

theorem World.coherent_iff (world : World) (cache : Nat) :
    world.Coherent cache ↔ ∀ entry ∈ world.held cache,
      entry.accessor =
        chooseAccessor (world.classMemberKind? entry.moduleName entry.typeName) entry.property := by
  simp only [World.Coherent, World.held, List.mem_filter, beq_iff_eq, and_imp]

theorem World.Unused.remembers {world : World} {cache : Nat} (unused : world.Unused cache)
    (key : PropertyKey) : world.remembers cache key = none := by
  have nothing : world.held cache = [] := by
    unfold World.held
    rw [List.filter_eq_nil_iff]
    intro entry member
    simpa using unused entry member
  rw [World.remembers_eq, nothing]
  rfl

theorem World.remembers_congr {world other : World} {cache : Nat} {key : PropertyKey}
    (accessors : other.accessors = world.accessors) :
    other.remembers cache key = world.remembers cache key := by
  unfold World.remembers World.remembered?
  rw [accessors]

theorem World.accessorOf_congr {world other : World} {key : PropertyKey}
    (classes : other.classes = world.classes) : other.accessorOf key = world.accessorOf key := by
  unfold World.accessorOf
  rw [World.classMemberKind?_congr classes]

/-- Remember the accessor of a key, unless one is remembered. -/
def World.learn (world : World) (cache : Nat) (key : PropertyKey) : World :=
  match world.remembers cache key with
  | some _ => world
  | none =>
      world.remember ⟨cache, key.moduleName, key.typeName, key.property, world.accessorOf key⟩

theorem World.learn_remembers (world : World) (cache : Nat) (key other : PropertyKey) :
    (world.learn cache key).remembers cache other =
      (world.remembers cache other).or
        (if key = other then some (world.accessorOf key) else none) := by
  unfold World.learn
  cases found : world.remembers cache key with
  | some accessor =>
      by_cases same : key = other
      · subst same
        simp [found]
      · simp [same]
  | none =>
      have fits : (key.moduleName = other.moduleName ∧ key.typeName = other.typeName ∧
          key.property = other.property) ↔ key = other := by
        cases key
        cases other
        simp
      simp only [World.remembers, World.remembered?_remember, true_and, fits]

theorem World.Coherent.learn {world : World} {cache : Nat} (coherent : world.Coherent cache)
    (key : PropertyKey) : (world.learn cache key).Coherent cache := by
  unfold World.learn
  split
  · exact coherent
  · exact coherent.remember key.moduleName key.typeName key.property

/-! ### Lookups -/

/-- The module of the class of a model. -/
def Model.moduleName : Model → String
  | .value subject => subject.moduleName
  | .scope _ => "elt.template.compiler"

/-- The key that a lookup asks an object resolver for; none if it fails on its arguments. -/
def asked (model : Model) (property : String) : Option PropertyKey :=
  if model.isNull || property.isEmpty then none
  else some ⟨model.moduleName, model.typeName, property⟩

/-- Reading through an accessor changes neither classes nor what is remembered. -/
theorem readThrough_keeps (subject : Value) (property : String) (accessor : Option Accessor)
    (world : World) :
    ((readThrough subject property accessor).run.run world).2.classes = world.classes ∧
      ((readThrough subject property accessor).run.run world).2.accessors = world.accessors := by
  have members := @members_of_runs
    (fun state other => other = state ∧ state.classes = world.classes ∧
      state.accessors = world.accessors)
    (fun _ => True) (fun _ => trivial)
    (fun _ _ related => by rw [related.1]) (fun _ _ related => by rw [related.1])
    (fun _ _ _ _ related => ⟨by rw [related.1], related.2⟩)
    (fun _ _ _ related => ⟨by rw [related.1], related.2⟩)
    (fun _ _ _ related => ⟨by rw [related.1], related.2⟩)
  exact ((readThrough_lockstep members property accessor trivial).run_eq ⟨rfl, rfl, rfl⟩).2.1.2

theorem requireArguments_run (isNull : Bool) (property : String) (world : World) :
    (requireArguments isNull property).run.run world =
      (if isNull then .error .noObject
        else if property.isEmpty then .error .noProperty else .ok ⟨⟩, world) := by
  unfold requireArguments
  cases isNull with
  | true => rfl
  | false => cases property.isEmpty <;> rfl

/-- Work behind a check of arguments runs if the check succeeds; else the state stays. -/
theorem required_run {α : Type} (isNull : Bool) (property : String) (next : Unit → Lookup α)
    (world : World) :
    (requireArguments isNull property >>= next).run.run world =
      if isNull then (.error .noObject, world)
      else if property.isEmpty then (.error .noProperty, world)
      else (next ⟨⟩).run.run world := by
  have checked := requireArguments_run isNull property world
  cases isNull with
  | true => exact run_bind_error checked
  | false =>
      cases empty : property.isEmpty with
      | true =>
          rw [empty] at checked
          exact run_bind_error checked
      | false =>
          rw [empty] at checked
          exact run_bind_ok checked

theorem accessorFor_learn (cache : Nat) (key : PropertyKey) (world : World) :
    ∃ accessor, (accessorFor cache key.moduleName key.typeName
        (world.classMemberKind? key.moduleName key.typeName) key.property).run.run world =
      (.ok accessor, world.learn cache key) := by
  rw [accessorFor_run]
  unfold World.learn World.remembers
  cases world.remembered? cache key.moduleName key.typeName key.property with
  | some accessor => exact ⟨accessor, rfl⟩
  | none => exact ⟨world.accessorOf key, rfl⟩

theorem World.learn_classes (world : World) (cache : Nat) (key : PropertyKey) :
    (world.learn cache key).classes = world.classes := by
  unfold World.learn
  split <;> rfl

/-- Reading a property leaves the classes alone, and remembers its accessor. -/
theorem readProperty_keeps (cache : Nat) (subject : Value) (property : String) (world : World) :
    ((readProperty cache subject property).run.run world).2.classes = world.classes ∧
      ((readProperty cache subject property).run.run world).2.accessors =
        (world.learn cache ⟨subject.moduleName, subject.typeName, property⟩).accessors := by
  have seen : (get : Lookup World).run.run world = (.ok world, world) := rfl
  obtain ⟨accessor, found⟩ :=
    accessorFor_learn cache ⟨subject.moduleName, subject.typeName, property⟩ world
  rw [← World.memberKind?_eq] at found
  have ran : (readProperty cache subject property).run.run world =
      (readThrough subject property accessor).run.run
        (world.learn cache ⟨subject.moduleName, subject.typeName, property⟩) :=
    (run_bind_ok seen).trans (run_bind_ok found)
  obtain ⟨classes, accessors⟩ := readThrough_keeps subject property accessor
    (world.learn cache ⟨subject.moduleName, subject.typeName, property⟩)
  rw [ran]
  exact ⟨classes.trans (world.learn_classes cache _), accessors⟩

/-- A member of a loop scope is read without any change. -/
theorem LoopScope.readMember_keeps (scope : LoopScope) (name : String) (world : World) :
    ((scope.readMember name).run.run world).2 = world := by
  have alone : Lockstep (fun state other => other = state ∧ state = world) (fun _ => True)
      (fun _ => True) (scope.readMember name) (scope.readMember name) := by
    apply readMember_lockstep
    · exact fun _ => trivial
    · exact fun _ _ => trivial
    · rintro state _ ⟨rfl, -⟩
      rfl
    · rintro state _ ⟨rfl, -⟩
      rfl
  exact (alone.run_eq ⟨rfl, rfl⟩).2.1.2

/-- So does reading a property of a loop scope. -/
theorem readScope_keeps (cache : Nat) (scope : LoopScope) (property : String) (world : World) :
    ((scope.readProperty cache property).run.run world).2 =
      world.learn cache ⟨"elt.template.compiler", "LoopScope", property⟩ := by
  have seen : (get : Lookup World).run.run world = (.ok world, world) := rfl
  obtain ⟨accessor, found⟩ :=
    accessorFor_learn cache ⟨"elt.template.compiler", "LoopScope", property⟩ world
  have ran : (scope.readProperty cache property).run.run world =
      (scope.readMember property).run.run
        (world.learn cache ⟨"elt.template.compiler", "LoopScope", property⟩) :=
    (run_bind_ok seen).trans (run_bind_ok found)
  rw [ran]
  exact scope.readMember_keeps _ _

/-- An object resolver checks its arguments and then reads a property. -/
theorem object_getValue (cache : Nat) (model : Model) (property : String) :
    (Resolver.object cache).getValue model property =
      requireArguments model.isNull property >>= fun _ =>
        match model with
        | .value subject => readProperty cache subject property
        | .scope scope => scope.readProperty cache property := by
  cases model <;> rfl

/-- A lookup through an object resolver leaves the classes alone, and remembers the accessor of the
key that it asks for. -/
theorem object_keeps (cache : Nat) (model : Model) (property : String) (world : World) :
    (((Resolver.object cache).getValue model property).run.run world).2.classes = world.classes ∧
      (((Resolver.object cache).getValue model property).run.run world).2.accessors =
        ((asked model property).elim world (world.learn cache)).accessors := by
  rw [object_getValue, required_run]
  unfold asked
  cases model.isNull with
  | true => exact ⟨rfl, rfl⟩
  | false =>
      cases property.isEmpty with
      | true => exact ⟨rfl, rfl⟩
      | false =>
          cases model with
          | value subject => exact readProperty_keeps cache subject property world
          | scope scope =>
              have after := readScope_keeps cache scope property world
              exact ⟨(congrArg World.classes after).trans (world.learn_classes cache _),
                congrArg World.accessors after⟩

/-! ### Histories -/

/-- Something else happens to the objects: the classes and what is remembered in a cache stay. -/
def World.Untouched (world : World) (cache : Nat) (after : World) : Prop :=
  after.classes = world.classes ∧ after.held cache = world.held cache

/-- From a start, properties are looked up through one object resolver, in any objects and whether or
not the lookups fail, and other things happen to the objects in between.  The log has the keys that
are asked for. -/
inductive History (cache : Nat) (start : World) : List PropertyKey → World → Prop where
  | start : History cache start [] start
  | lookup {world : World} {log : List PropertyKey} (before : History cache start log world)
      (model : Model) (property : String) :
      History cache start (log ++ (asked model property).toList)
        (((Resolver.object cache).getValue model property).run.run world).2
  | other {world after : World} {log : List PropertyKey} (before : History cache start log world)
      (untouched : world.Untouched cache after) : History cache start log after

namespace History

variable {cache : Nat} {start world : World} {log : List PropertyKey}

theorem trans (first : History cache start log world) {later : List PropertyKey} {after : World}
    (second : History cache world later after) : History cache start (log ++ later) after := by
  induction second with
  | start => rwa [List.append_nil]
  | lookup _ model property ih =>
      rw [← List.append_assoc]
      exact ih.lookup model property
  | other _ untouched ih => exact ih.other untouched

theorem classes (history : History cache start log world) : world.classes = start.classes := by
  induction history with
  | start => rfl
  | lookup _ model property ih => exact (object_keeps cache model property _).1.trans ih
  | other _ untouched ih => exact untouched.1.trans ih

/-- The cache of an object resolver stays coherent. -/
theorem coherent (history : History cache start log world) (unused : start.Unused cache) :
    world.Coherent cache := by
  induction history with
  | start => exact World.coherent_of_unused unused
  | @lookup world log _ model property ih =>
      obtain ⟨classes, accessors⟩ := object_keeps cache model property world
      have same := World.classMemberKind?_congr classes
      unfold World.Coherent
      rw [accessors, same]
      cases asked model property with
      | none => exact ih
      | some key =>
          have learned := ih.learn key
          unfold World.Coherent at learned
          rwa [World.classMemberKind?_congr (world.learn_classes cache key)] at learned
  | other _ untouched ih =>
      rw [World.coherent_iff] at ih ⊢
      rw [untouched.2, World.classMemberKind?_congr untouched.1]
      exact ih

/-- The cache of an object resolver holds exactly the keys that have been asked for, each with the
accessor that its class gives. -/
theorem remembers (history : History cache start log world) (unused : start.Unused cache)
    (key : PropertyKey) :
    world.remembers cache key = if key ∈ log then some (world.accessorOf key) else none := by
  induction history with
  | start => exact unused.remembers key
  | @lookup world log _ model property ih =>
      obtain ⟨classes, accessors⟩ := object_keeps cache model property world
      rw [World.accessorOf_congr classes, World.remembers_congr accessors]
      cases asked model property with
      | none => simpa using ih
      | some found =>
          rw [Option.elim_some, World.learn_remembers, ih]
          simp only [Option.toList_some, List.mem_append, List.mem_singleton]
          by_cases same : found = key
          · subst same
            by_cases before : found ∈ log <;> simp [before]
          · by_cases before : key ∈ log <;> simp [before, same, Ne.symm same]
  | other _ untouched ih =>
      rw [World.remembers_eq, untouched.2, ← World.remembers_eq, ih,
        World.accessorOf_congr untouched.1]

/-- What is remembered is never changed or forgotten. -/
theorem keeps (history : History cache start log world) (unused : start.Unused cache)
    {later : List PropertyKey} {after : World} (further : History cache world later after)
    {key : PropertyKey} {accessor : Option Accessor}
    (known : world.remembers cache key = some accessor) :
    after.remembers cache key = some accessor := by
  rw [history.remembers unused] at known
  rw [(history.trans further).remembers unused, World.accessorOf_congr further.classes]
  split at known
  · next member => rwa [if_pos (List.mem_append_left _ member)]
  · cases known

end History

/-! ### Resolvers with an object resolver inside -/

/-- A history leads from one state to another. -/
def Traced (cache : Nat) (start world : World) : Prop :=
  ∃ log, History cache start log world

/-- One state, on both sides, that a history leads to. -/
def Tracing (cache : Nat) (start world other : World) : Prop :=
  other = world ∧ Traced cache start world

section Inside

variable {cache : Nat} {start : World} {resolver : Resolver}

/-- Work that goes in lockstep with itself through histories leads to a history. -/
theorem Traced.of_lockstep {ε α : Type} {Q : α → Prop} {E : ε → Prop}
    {work : ExceptT ε (StateM World) α}
    (traced : Lockstep (Tracing cache start) Q E work work) :
    Traced cache start (work.run.run start).2 :=
  (traced.run_eq ⟨rfl, [], .start⟩).2.1.2

/-- Two runs of lookups end with the same result, have run the same members, and leave the same
objects. -/
structure SameOutcome (ended anew : Except LookupError Value × World) : Prop where
  result : anew.1 = ended.1
  classes : anew.2.classes = ended.2.classes
  objects : anew.2.toObjects = ended.2.toObjects
  calls : anew.2.calls = ended.2.calls
  removed : anew.2.removed = ended.2.removed

/-- Lookups in lockstep on states with the same objects have the same outcome. -/
theorem SameOutcome.of_lockstep {classes : Classes} {fresh : Nat}
    {Q : Value → Prop} {E : LookupError → Prop} {work other : Lookup Value} {world : World}
    (lockstep : Lockstep (SameObjects classes cache fresh) Q E work other)
    (same : SameObjects classes cache fresh world world) :
    SameOutcome (work.run.run world) (other.run.run world) := by
  obtain ⟨result, after, -⟩ := lockstep.run_eq same
  exact ⟨result.symm, after.known'.trans after.known.symm, after.objects, after.calls,
    after.removed⟩

/-- After any history, a lookup does the same as through a fresh resolver. -/
theorem History.anew {world : World} {log : List PropertyKey}
    (history : History cache start log world) (unused : start.Unused cache)
    (shares : resolver.Shares cache) {fresh : Nat} (empty : world.Unused fresh) (model : Model)
    (property : String) :
    SameOutcome ((resolver.getValue model property).run.run world)
        (((resolver.renewed fresh).getValue model property).run.run world) ∧
      SameOutcome ((resolver.requireValue model property).run.run world)
        (((resolver.renewed fresh).requireValue model property).run.run world) := by
  have same : SameObjects world.classes cache fresh world world :=
    ⟨rfl, rfl, rfl, rfl, rfl, history.coherent unused, World.coherent_of_unused empty⟩
  exact ⟨.of_lockstep (getValue_renewed SameObjects.objectsAgree shares model property) same,
    .of_lockstep (requireValue_renewed SameObjects.objectsAgree shares model property) same⟩

end Inside

end Stencil
