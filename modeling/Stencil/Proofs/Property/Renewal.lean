/-
Module: Stencil.Proofs.Property.Renewal
Purpose: Lookups through a resolver and through the same resolver with another cache: they go in
  lockstep if those of the object resolvers do, and do the same where both caches are coherent.
Main exports: Resolver.Shares, Resolver.renewed, getValue_renewed, SameObjects, objectsAgree
-/
import Stencil.Proofs.Property.Lookups
import Stencil.Proofs.Property.Settling

namespace Stencil

/-- A user's way to look properties up, which has nothing to do with what object resolvers remember,
and leaves the classes alone. -/
def Indifferent (look : Model → String → Lookup Value) : Prop :=
  ∀ (model : Model) (property : String) (world : World),
    ((look model property).run.run world).2.classes = world.classes ∧
      ∀ accessors, (look model property).run.run { world with accessors } =
        (((look model property).run.run world).1,
          { ((look model property).run.run world).2 with accessors })

namespace Resolver

/-- All object resolvers inside a resolver remember accessors in one cache, and what the user has put
into it has nothing to do with them. -/
def Shares (cache : Nat) : Resolver → Prop
  | object own => own = cache
  | atomic mappings objects => mappings.Shares cache ∧ objects.Shares cache
  | dotted segments => segments.Shares cache
  | custom look => Indifferent look
  | mapping => True

/-- The same resolver with another cache for the object resolvers inside it. -/
def renewed (fresh : Nat) : Resolver → Resolver
  | object _ => object fresh
  | atomic mappings objects => atomic (mappings.renewed fresh) (objects.renewed fresh)
  | dotted segments => dotted (segments.renewed fresh)
  | mapping => mapping
  | custom look => custom look

end Resolver

/-! ### Resolvers around object resolvers -/

section Around

variable {cache fresh : Nat} {R : World → World → Prop}

/-- Lookups through an object resolver go in lockstep with those through another one, and those through
a user's resolver that has nothing to do with them go in lockstep with themselves. -/
structure ObjectsAgree (cache fresh : Nat) (R : World → World → Prop) : Prop where
  object : ∀ (model : Model) (property : String),
    Lockstep R (fun _ => True) (fun _ => True) ((Resolver.object cache).getValue model property)
      ((Resolver.object fresh).getValue model property)
  custom : ∀ (look : Model → String → Lookup Value), Indifferent look →
    ∀ (model : Model) (property : String),
      Lockstep R (fun _ => True) (fun _ => True) (look model property) (look model property)

variable (agree : ObjectsAgree cache fresh R)

include agree

theorem ofValue_renewed (resolver : Resolver) (shares : resolver.Shares cache) (subject : Value)
    (property : String) :
    Lockstep R (fun _ => True) (fun _ => True) (resolver.ofValue subject property)
      ((resolver.renewed fresh).ofValue subject property) := by
  induction resolver generalizing subject property with
  | mapping =>
      unfold Resolver.renewed Resolver.ofValue
      refine Lockstep.bind (requireArguments_lockstep _ _ trivial trivial) fun _ _ => ?_
      cases subject.entries? with
      | some entries => exact Lockstep.pure trivial
      | none => exact Lockstep.throw trivial
  | object own =>
      obtain rfl : own = cache := shares
      exact agree.object (.value subject) property
  | atomic mappings objects mappings_ih objects_ih =>
      unfold Resolver.renewed Resolver.ofValue
      refine Lockstep.bind (requireArguments_lockstep _ _ trivial trivial) fun _ _ => ?_
      split
      · exact mappings_ih shares.1 subject property
      · exact objects_ih shares.2 subject property
  | dotted segments ih =>
      unfold Resolver.renewed Resolver.ofValue
      refine Lockstep.bind (requireArguments_lockstep _ _ trivial trivial) fun _ _ => ?_
      exact followPath_lockstep (.inr trivial) (fun _ => trivial)
        (fun segment _ _ => ih shares subject segment)
        fun inner _ _ segment _ _ => ih shares inner segment
  | custom look => exact agree.custom look shares (.value subject) property

theorem LoopScope.get_renewed {engine : Resolver} (shares : engine.Shares cache)
    (scope : LoopScope) (key : String) :
    Lockstep R (fun _ => True) (fun _ => True) (scope.get engine key)
      (scope.get (engine.renewed fresh) key) := by
  have item : Lockstep R (fun _ => True) (fun _ => True) (scope.item engine key)
      (scope.item (engine.renewed fresh) key) := by
    unfold LoopScope.item
    split
    · exact Lockstep.pure trivial
    · refine Lockstep.bind (ofValue_renewed agree engine shares scope.base key) fun value _ => ?_
      split
      · exact Lockstep.throw trivial
      · exact Lockstep.pure trivial
  refine Lockstep.tryCatch (Lockstep.bind item fun _ _ => Lockstep.pure trivial) ?_
  intro failure _
  split
  · exact Lockstep.pure trivial
  · exact Lockstep.throw trivial

theorem ofScope_renewed {engine engine' : Resolver} {scope : LoopScope}
    (inside : ∀ key, Lockstep R (fun _ => True) (fun _ => True) (scope.get engine key)
      (scope.get engine' key))
    (resolver : Resolver) (shares : resolver.Shares cache) (property : String) :
    Lockstep R (fun _ => True) (fun _ => True) (Resolver.ofScope engine resolver scope property)
      (Resolver.ofScope engine' (resolver.renewed fresh) scope property) := by
  induction resolver generalizing property with
  | mapping =>
      unfold Resolver.renewed Resolver.ofScope
      refine Lockstep.bind (requireArguments_lockstep _ _ trivial trivial) fun _ _ => ?_
      exact Lockstep.bind (inside property) fun _ _ => Lockstep.pure trivial
  | object own =>
      -- An object resolver does not ask the engine's one.
      obtain rfl : own = cache := shares
      exact agree.object (.scope scope) property
  | atomic mappings objects mappings_ih objects_ih =>
      unfold Resolver.renewed Resolver.ofScope
      exact Lockstep.bind (requireArguments_lockstep _ _ trivial trivial) fun _ _ =>
        mappings_ih shares.1 property
  | dotted segments ih =>
      unfold Resolver.renewed Resolver.ofScope
      refine Lockstep.bind (requireArguments_lockstep _ _ trivial trivial) fun _ _ => ?_
      exact followPath_lockstep (.inr trivial) (fun _ => trivial)
        (fun segment _ _ => ih shares segment)
        fun inner _ _ segment _ _ => ofValue_renewed agree segments shares inner segment
  | custom look => exact agree.custom look shares (.scope scope) property

/-- Lookups through a resolver go in lockstep with those through the renewed one, if those through
the object resolvers inside them do. -/
theorem getValue_renewed {resolver : Resolver} (shares : resolver.Shares cache) (model : Model)
    (property : String) :
    Lockstep R (fun _ => True) (fun _ => True) (resolver.getValue model property)
      ((resolver.renewed fresh).getValue model property) := by
  cases model with
  | value subject => exact ofValue_renewed agree resolver shares subject property
  | scope scope =>
      exact ofScope_renewed agree (LoopScope.get_renewed agree shares scope) resolver shares
        property

theorem requireValue_renewed {resolver : Resolver} (shares : resolver.Shares cache) (model : Model)
    (property : String) :
    Lockstep R (fun _ => True) (fun _ => True) (resolver.requireValue model property)
      ((resolver.renewed fresh).requireValue model property) := by
  refine Lockstep.bind (requireArguments_lockstep _ _ trivial trivial) fun _ _ => ?_
  refine Lockstep.bind (getValue_renewed agree shares model property) fun value _ => ?_
  split
  · exact Lockstep.throw trivial
  · exact Lockstep.pure trivial

end Around

/-! ### Members -/

section Members

variable {R : World → World → Prop} {E : LookupError → Prop}
  (failures : ∀ raised, E (.raised raised))

include failures

/-- Members run in lockstep on the same objects, if counting runs and what they do to the objects keep
what the states have in common. -/
theorem runMember_lockstep (className name : String) (identity : Nat) (body : MemberBody)
    (objects : ∀ world other, R world other → other.toObjects = world.toObjects)
    (noted : ∀ world other, R world other →
      R (world.noteRun className name) (other.noteRun className name))
    (changed : ∀ world other objects, R world other →
      R { world with toObjects := objects } { other with toObjects := objects }) :
    Lockstep R (fun _ => True) E (runMember className identity name body)
      (runMember className identity name body) := by
  refine Lockstep.bind (Lockstep.update noted) fun _ _ => ?_
  refine Lockstep.get fun world other related => ?_
  rw [objects world other related]
  refine Lockstep.bind (Lockstep.update fun before before' related' => ?_) fun _ _ => ?_
  · rw [objects before before' related']
    exact changed before before' _ related'
  · apply ofRaised_lockstep
    exact (Ends.any _).mono (fun _ _ => trivial) fun raised _ => failures raised

/-- Members are read in lockstep where all values are allowed and members run in lockstep. -/
theorem members_of_runs
    (classes : ∀ world other, R world other → other.classes = world.classes)
    (objects : ∀ world other, R world other → other.toObjects = world.toObjects)
    (noted : ∀ world other className name, R world other →
      R (world.noteRun className name) (other.noteRun className name))
    (changed : ∀ world other objects, R world other →
      R { world with toObjects := objects } { other with toObjects := objects })
    (taken : ∀ world other names, R world other →
      R (world.noteTaken names) (other.noteTaken names)) :
    Members R (fun _ => True) E where
  classes := classes _ _
  objects := objects _ _
  member _ _ _ := runMember_lockstep failures _ _ _ _ objects
    (fun world other => noted world other _ _) changed
  held _ _ _ := trivial
  shared _ _ _ _ := trivial
  builtin _ _ _ := (Ends.any _).mono (fun _ _ => trivial) fun raised _ => failures raised
  taken _ _ related := taken _ _ _ related
  result _ := trivial
  null := trivial
  method := trivial
  uncalled := trivial

/-- What a loop scope has in common with other objects is read in lockstep where the classes are the
same. -/
theorem LoopScope.memberOf_lockstep
    (missing : ∀ member argument, E (.argumentMissing member argument))
    (classes : ∀ world other, R world other → other.classes = world.classes) (scope : LoopScope)
    (name : String) :
    Lockstep R (fun _ => True) E (scope.memberOf name) (scope.memberOf name) := by
  unfold LoopScope.memberOf
  split
  all_goals first | exact Lockstep.pure trivial | exact Lockstep.throw (missing _ _) | skip
  refine Lockstep.get fun world other related => ?_
  rw [classes world other related]
  split
  · exact Lockstep.pure trivial
  · rename_i member _
    have read : Lockstep R (fun _ => True) E (Lookup.ofRaised (member.run scope.parts))
        (Lookup.ofRaised (member.run scope.parts)) :=
      ofRaised_lockstep ((Ends.any _).mono (fun _ _ => trivial) fun raised _ => failures raised)
    cases member.kind with
    | call => exact read
    | data => exact (readAsData_lockstep read).bind fun _ _ => Lockstep.pure trivial

/-- Its members are read in lockstep where the same variables have been taken out of it. -/
theorem LoopScope.readMember_lockstep
    (missing : ∀ member argument, E (.argumentMissing member argument))
    (classes : ∀ world other, R world other → other.classes = world.classes)
    (removed : ∀ world other, R world other → other.removed = world.removed) (scope : LoopScope)
    (name : String) :
    Lockstep R (fun _ => True) E (scope.readMember name) (scope.readMember name) := by
  refine Lockstep.get fun world other related => ?_
  rw [removed world other related]
  exact LoopScope.memberOf_lockstep failures missing classes _ name

end Members

/-! ### Coherent caches -/

/-- The same objects, streams and counted runs in two states with given classes, in each of which a
cache is coherent. -/
structure SameObjects (classes : Classes) (cache fresh : Nat) (world other : World) : Prop where
  known : world.classes = classes
  known' : other.classes = classes
  objects : other.toObjects = world.toObjects
  calls : other.calls = world.calls
  removed : other.removed = world.removed
  coherent : world.Coherent cache
  coherent' : other.Coherent fresh

namespace SameObjects

variable {classes : Classes} {cache fresh : Nat} {world other : World}

theorem noteRun (same : SameObjects classes cache fresh world other) (className name : String) :
    SameObjects classes cache fresh (world.noteRun className name)
      (other.noteRun className name) := by
  refine ⟨same.known, same.known', same.objects, ?_, same.removed, same.coherent, same.coherent'⟩
  rw [World.noteRun, World.noteRun, same.calls]

theorem noteTaken (same : SameObjects classes cache fresh world other) (names : List String) :
    SameObjects classes cache fresh (world.noteTaken names) (other.noteTaken names) := by
  refine ⟨same.known, same.known', same.objects, same.calls, ?_, same.coherent, same.coherent'⟩
  rw [World.noteTaken, World.noteTaken, same.removed]

theorem changed (same : SameObjects classes cache fresh world other) (objects : Objects) :
    SameObjects classes cache fresh { world with toObjects := objects }
      { other with toObjects := objects } :=
  ⟨same.known, same.known', rfl, same.calls, same.removed, same.coherent, same.coherent'⟩

theorem members : Members (SameObjects classes cache fresh) (fun _ => True) (fun _ => True) :=
  members_of_runs (fun _ => trivial) (fun _ _ same => same.known'.trans same.known.symm)
    (fun _ _ => objects)
    (fun _ _ className name same => same.noteRun className name)
    (fun _ _ objects same => same.changed objects)
    fun _ _ names same => same.noteTaken names

/-- Each of two coherent caches gives the accessor that the class says. -/
theorem accessorFor (moduleName typeName property : String)
    {memberKind? : String → Option MemberKind}
    (kinds : ∀ world : World, world.classes = classes →
      memberKind? = world.classMemberKind? moduleName typeName) :
    Lockstep (SameObjects classes cache fresh) (fun _ => True) (fun _ => True)
      (Stencil.accessorFor cache moduleName typeName memberKind? property)
      (Stencil.accessorFor fresh moduleName typeName memberKind? property) := by
  intro before before' same
  obtain ⟨accessors, ran, coherent⟩ := same.coherent.accessorFor moduleName typeName property
  obtain ⟨accessors', ran', coherent'⟩ := same.coherent'.accessorFor moduleName typeName property
  rw [← kinds before same.known] at ran
  rw [← kinds before' same.known'] at ran'
  exact ⟨_, _, _, ran, ran', ⟨same.known, same.known', same.objects, same.calls, same.removed,
    coherent, coherent'⟩, trivial⟩

/-- Two states with the same objects differ in what is remembered only. -/
theorem eq_withAccessors (same : SameObjects classes cache fresh world other) :
    other = { world with accessors := other.accessors } := by
  obtain ⟨known, known', objects, calls, removed, -, -⟩ := same
  cases world
  cases other
  simp_all

/-- A user's resolver that has nothing to do with caches does the same in both states. -/
theorem custom {look : Model → String → Lookup Value} (indifferent : Indifferent look)
    (model : Model) (property : String) :
    Lockstep (SameObjects classes cache fresh) (fun _ => True) (fun _ => True)
      (look model property) (look model property) := by
  intro before before' same
  obtain ⟨classes, anyhow⟩ := indifferent model property before
  obtain ⟨⟨result, after⟩, ran⟩ :
      ∃ ended, (look model property).run.run before = ended := ⟨_, rfl⟩
  have here := anyhow before.accessors
  have there := anyhow before'.accessors
  rw [← same.eq_withAccessors] at there
  rw [ran] at classes here there
  have kept : after.accessors = before.accessors := congrArg (·.2.accessors) here
  refine ⟨result, after, _, ran, there, ?_, Ends.any _⟩
  refine ⟨classes.trans same.known, classes.trans same.known, rfl, rfl, rfl, ?_, ?_⟩
  · unfold World.Coherent
    rw [kept, World.classMemberKind?_congr classes]
    exact same.coherent
  · have kinds : after.classMemberKind? = before'.classMemberKind? := by
      apply World.classMemberKind?_congr
      exact classes.trans (same.known.trans same.known'.symm)
    exact fun entry member own => (same.coherent' entry member own).trans (by rw [← kinds]; rfl)

/-- Object resolvers with coherent caches do the same. -/
theorem objectsAgree : ObjectsAgree cache fresh (SameObjects classes cache fresh) where
  custom look indifferent model property := custom indifferent model property
  object model property := by
    cases model with
    | value subject =>
        refine Lockstep.bind (requireArguments_lockstep _ _ trivial trivial) fun _ _ => ?_
        refine readProperty_lockstep_of members property trivial fun world _ same => ?_
        refine SameObjects.accessorFor _ _ property fun before known => ?_
        rw [World.memberKind?_eq, World.classMemberKind?_congr (known.trans same.known.symm)]
    | scope scope =>
        refine Lockstep.bind (requireArguments_lockstep _ _ trivial trivial) fun _ _ => ?_
        refine Lockstep.get fun world world' same => ?_
        have kinds : world'.classMemberKind? = world.classMemberKind? :=
          World.classMemberKind?_congr (same.known'.trans same.known.symm)
        rw [kinds]
        refine Lockstep.bind (SameObjects.accessorFor _ _ property fun before known => ?_)
          fun _ _ => ?_
        · rw [World.classMemberKind?_congr (known.trans same.known.symm)]
        · apply LoopScope.readMember_lockstep
          · exact fun _ => trivial
          · exact fun _ _ => trivial
          · exact fun _ _ same => same.known'.trans same.known.symm
          · exact fun _ _ same => same.removed

end SameObjects

end Stencil
