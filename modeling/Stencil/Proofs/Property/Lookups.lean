/-
Module: Stencil.Proofs.Property.Lookups
Purpose: Lookups of the same paths in two states of the objects go in lockstep.
Main exports: World.HasMember, Members, Lookups, SimpleName, readProperty_lockstep,
  followPath_lockstep, standard_lockstep
-/
import Stencil.Proofs.Property.Lockstep
import Stencil.Proofs.Property.Overlay

namespace Stencil

/-- A class has a method or a property with this name and this body. -/
def World.HasMember (world : World) (className name : String) (body : MemberBody) : Prop :=
  ∃ info, world.class? className = some info ∧ (name, body) ∈ info.methods ++ info.properties

/-- What two states of the objects need in common, and what is said of the values that they hold, so
that members are read in them in lockstep. -/
structure Members (R : World → World → Prop) (Q : Value → Prop) (E : LookupError → Prop) :
    Prop where
  classes : ∀ {world world' : World}, R world world' → world'.classes = world.classes
  objects : ∀ {world world' : World}, R world world' → world'.toObjects = world.toObjects
  member : ∀ {world world' : World} {className name : String} {identity : Nat} {body : MemberBody},
    R world world' → Q (.object className identity) → world.HasMember className name body →
      Lockstep R Q E (runMember className identity name body)
        (runMember className identity name body)
  held : ∀ {world world' : World} {className name : String} {identity : Nat} {value : Value},
    R world world' → Q (.object className identity) →
      (world.attributesOf identity).lookup name = some value → Q value
  shared : ∀ {world world' : World} {className name : String} {identity : Nat} {info : ClassInfo}
    {value : Value}, R world world' → Q (.object className identity) →
      world.class? className = some info → info.attributes.lookup name = some value → Q value
  builtin : ∀ {world world' : World} {subject : Value} {name : String} {member : BuiltinMember},
    R world world' → Q subject → world.classes.builtinMember? subject name = some member →
      Ends Q (fun raised => E (.raised raised)) (member.run subject)
  taken : ∀ {world world' before before' : World} {subject : Value} {name : String}
    {member : BuiltinMember}, R world world' →
      world.classes.builtinMember? subject name = some member → R before before' →
        R (before.noteTaken (member.takenFrom subject))
          (before'.noteTaken (member.takenFrom subject))
  result : ∀ {value : Value}, Q (.function value) → Q value
  null : Q .null
  method : Q (.handle "builtins" "method")
  uncalled : Q (.handle "builtins" "builtin_function_or_method")

/-- The same so that lookups go in lockstep, accessors being remembered in one cache. -/
structure Lookups (cache : Nat) (R : World → World → Prop) (Q : Value → Prop)
    (E : LookupError → Prop) : Prop extends Members R Q E where
  accessor : ∀ {world world' : World} {subject : Value} (property : String), R world world' →
    Q subject → Lockstep R (fun _ => True) E
      (accessorFor cache subject.moduleName subject.typeName (world.memberKind? subject) property)
      (accessorFor cache subject.moduleName subject.typeName (world.memberKind? subject) property)
  entry : ∀ {subject : Value} {entries : List (Value × Value)} {name : String} {value : Value},
    Q subject → subject.entries? = some entries → Value.get? entries name = some value → Q value

/-- What a member gives, as it is or when it is called, is allowed. -/
def Member.Allowed (R : World → World → Prop) (Q : Value → Prop) (E : LookupError → Prop) :
    Member → Prop
  | .data value => Q value
  | .method className identity name body =>
      Lockstep R Q E (runMember className identity name body)
        (runMember className identity name body)
  | .builtin subject member =>
      Ends Q (fun raised => E (.raised raised)) (member.run subject) ∧
        ∀ {before before' : World}, R before before' →
          R (before.noteTaken (member.takenFrom subject))
            (before'.noteTaken (member.takenFrom subject))

theorem ofRaised_run {α : Type} (result : Except Raised α) (world : World) :
    (Lookup.ofRaised result).run.run world = (result.mapError .raised, world) := by
  cases result <;> rfl

/-- A run of a member is counted, and else it does what the member does to the objects. -/
theorem runMember_run (className : String) (identity : Nat) (name : String) (body : MemberBody)
    (world : World) :
    (runMember className identity name body).run.run world =
      ((body identity world.toObjects).result.mapError .raised,
        { world.noteRun className name with
          toObjects := world.toObjects.after (body identity world.toObjects) }) :=
  ofRaised_run (body identity world.toObjects).result _

variable {cache : Nat} {R : World → World → Prop} {Q : Value → Prop} {E : LookupError → Prop}

/-- Reading a property of a value when its accessor has been found. -/
def readThrough (subject : Value) (property : String) (accessor : Option Accessor) :
    Lookup Value := do
  let name := (accessor.map (·.member)).getD property
  match ← readMember subject name with
  | none => pure .null
  | some member =>
      match accessor with
      | some ⟨.call, _⟩ => member.use
      | _ => pure member.value

section Members

variable (agree : Members R Q E)

include agree

theorem Members.memberKind? {world world' : World} (related : R world world') (subject : Value) :
    world'.memberKind? subject = world.memberKind? subject := by
  funext name
  unfold World.memberKind? World.classMemberKind?
  rw [agree.classes related]

omit agree in
/-- A member that is found by its name, in a class that may be unknown, is a member of the class. -/
theorem World.hasMember_of_lookup {world : World} {className name : String} {body : MemberBody}
    (found : (world.classes.classOf className).properties.lookup name = some body ∨
      (world.classes.classOf className).methods.lookup name = some body) :
    world.HasMember className name body := by
  unfold Classes.classOf at found
  cases known : world.classes.class? className with
  | none =>
      rw [known] at found
      rcases found with found | found <;> cases found
  | some info =>
      rw [known, Option.getD_some] at found
      refine ⟨info, known, ?_⟩
      rcases found with property | method
      · exact List.mem_append_right _ (mem_of_lookup property)
      · exact List.mem_append_left _ (mem_of_lookup method)

omit agree in
theorem ofRaised_lockstep {α : Type} {A : α → Prop} {result : Except Raised α}
    (ends : Ends A (fun raised => E (.raised raised)) result) :
    Lockstep R A E (Lookup.ofRaised result) (Lookup.ofRaised result) := by
  cases result with
  | ok value => exact Lockstep.pure ends
  | error raised => exact Lockstep.throw ends

omit agree in
theorem readAsData_lockstep {read read' : Lookup Value} (reads : Lockstep R Q E read read') :
    Lockstep R (fun found => ∀ member, found = some member → member.Allowed R Q E) E
      (readAsData read) (readAsData read') := by
  refine Lockstep.tryCatch (Lockstep.bind reads ?_) ?_
  · intro value valueAllowed
    apply Lockstep.pure
    rintro member ⟨⟩
    exact valueAllowed
  · intro failure failureAllowed
    split
    · exact Lockstep.pure (by simp)
    · exact Lockstep.throw failureAllowed

theorem readObjectMember_lockstep {className : String} {identity : Nat} (name : String)
    (allowed : Q (.object className identity)) :
    Lockstep R (fun found => ∀ member, found = some member → member.Allowed R Q E) E
      (readObjectMember className identity name) (readObjectMember className identity name) := by
  refine Lockstep.get fun world world' related => ?_
  simp only [agree.classes related, agree.objects related]
  cases property : (world.classes.classOf className).properties.lookup name with
  | some body =>
      have has := World.hasMember_of_lookup (.inl property)
      exact readAsData_lockstep (agree.member related allowed has)
  | none =>
      simp only
      cases held : (world.attributesOf identity).lookup name with
      | some value =>
          apply Lockstep.pure
          rintro member ⟨⟩
          exact agree.held related allowed held
      | none =>
          simp only
          cases method : (world.classes.classOf className).methods.lookup name with
          | some body =>
              apply Lockstep.pure
              rintro member ⟨⟩
              exact agree.member related allowed (World.hasMember_of_lookup (.inr method))
          | none =>
              apply Lockstep.pure
              intro member found
              obtain ⟨value, isShared, rfl⟩ := Option.map_eq_some_iff.mp found
              unfold Classes.classOf at isShared
              cases known : world.classes.class? className with
              | none =>
                  rw [known] at isShared
                  cases isShared
              | some info =>
                  rw [known] at isShared
                  exact agree.shared related allowed known isShared

theorem readBuiltinMember_lockstep {subject : Value} (name : String) (allowed : Q subject) :
    Lockstep R (fun found => ∀ member, found = some member → member.Allowed R Q E) E
      (readBuiltinMember subject name) (readBuiltinMember subject name) := by
  refine Lockstep.get fun world world' related => ?_
  rw [agree.classes related]
  cases known : world.classes.builtinMember? subject name with
  | none => exact Lockstep.pure (by simp)
  | some member =>
      have ends := agree.builtin related allowed known
      simp only
      cases member.kind with
      | call =>
          apply Lockstep.pure
          rintro found ⟨⟩
          exact ⟨ends, fun related' => agree.taken related known related'⟩
      | data => exact readAsData_lockstep (ofRaised_lockstep ends)

theorem readMember_lockstep {subject : Value} (name : String) (allowed : Q subject) :
    Lockstep R (fun found => ∀ member, found = some member → member.Allowed R Q E) E
      (readMember subject name) (readMember subject name) := by
  cases subject with
  | object className identity => exact readObjectMember_lockstep agree name allowed
  | _ => exact readBuiltinMember_lockstep agree name allowed

theorem use_lockstep {member : Member} (allowed : member.Allowed R Q E) :
    Lockstep R Q E member.use member.use := by
  cases member with
  | method className identity name body => exact allowed
  | builtin subject member =>
      obtain ⟨ends, taken⟩ := allowed
      apply Lockstep.bind (Lockstep.update fun world world' related => taken related)
      intro _ _
      exact ofRaised_lockstep ends
  | data value =>
      cases value with
      | function result => exact Lockstep.pure (agree.result allowed)
      | _ => exact Lockstep.pure allowed

theorem Member.Allowed.value {member : Member} (allowed : member.Allowed R Q E) :
    Q member.value := by
  cases member with
  | data value => exact allowed
  | method className identity name body => exact agree.method
  | builtin subject member => exact agree.uncalled

theorem readThrough_lockstep {subject : Value} (property : String) (accessor : Option Accessor)
    (allowed : Q subject) :
    Lockstep R Q E (readThrough subject property accessor)
      (readThrough subject property accessor) := by
  refine Lockstep.bind (readMember_lockstep agree _ allowed) fun found members => ?_
  cases found with
  | none => exact Lockstep.pure agree.null
  | some member =>
      have memberAllowed := members member rfl
      simp only
      split
      · exact use_lockstep agree memberAllowed
      · exact Lockstep.pure (memberAllowed.value agree)

/-- Reading a property of a value goes in lockstep if finding the accessor does, in whatever caches. -/
theorem readProperty_lockstep_of {cache' : Nat} {subject : Value} (property : String)
    (allowed : Q subject)
    (accessor : ∀ world world', R world world' → Lockstep R (fun _ => True) E
      (accessorFor cache subject.moduleName subject.typeName (world.memberKind? subject) property)
      (accessorFor cache' subject.moduleName subject.typeName (world.memberKind? subject)
        property)) :
    Lockstep R Q E (readProperty cache subject property)
      (readProperty cache' subject property) := by
  refine Lockstep.get fun world world' related => ?_
  rw [agree.memberKind? related]
  exact Lockstep.bind (accessor world world' related) fun accessor _ =>
    readThrough_lockstep agree property accessor allowed

end Members

/-- Reading a property of a value goes in lockstep. -/
theorem readProperty_lockstep (agree : Lookups cache R Q E) {subject : Value} (property : String)
    (allowed : Q subject) :
    Lockstep R Q E (readProperty cache subject property) (readProperty cache subject property) :=
  readProperty_lockstep_of agree.toMembers property allowed fun _ _ related =>
    agree.accessor property related allowed

/-! ### Paths -/

/-- Arguments are checked in lockstep if it is allowed that they are missing. -/
theorem requireArguments_lockstep (isNull : Bool) (property : String) (noObject : E .noObject)
    (noProperty : E .noProperty) :
    Lockstep R (fun _ => True) E (requireArguments isNull property)
      (requireArguments isNull property) := by
  unfold requireArguments
  cases isNull with
  | true => exact Lockstep.bind_throw noObject
  | false =>
      simp only [Bool.false_eq_true, if_false]
      split
      · exact Lockstep.throw noProperty
      · exact Lockstep.pure trivial

/-- The later segments of a path are looked up in lockstep if each one is. -/
theorem walkPath_lockstep {step step' : Value → String → Lookup Value} {path : String}
    {rest : List String} (done : List String) {current : Value}
    (nulls : ∀ partialPath, E (.nullIntermediate partialPath path))
    (steps : ∀ subject, Q subject → subject.isNull = false → ∀ segment ∈ rest,
      Lockstep R Q E (step subject segment) (step' subject segment))
    (allowed : Q current) :
    Lockstep R Q E (walkPath step path done current rest)
      (walkPath step' path done current rest) := by
  induction rest generalizing done current with
  | nil => exact Lockstep.pure allowed
  | cons segment rest ih =>
      unfold walkPath
      cases notNull : current.isNull with
      | true =>
          exact Lockstep.bind_throw (nulls _)
      | false =>
          simp only [Bool.false_eq_true, if_false]
          refine Lockstep.bind (steps current allowed notNull segment List.mem_cons_self) ?_
          intro next nextAllowed
          refine ih (segment :: done) ?_ nextAllowed
          intro subject subjectAllowed subjectNotNull later member
          exact steps subject subjectAllowed subjectNotNull later (List.mem_cons_of_mem _ member)

/-- A path has no empty segment. -/
def Solid (path : String) : Prop :=
  ∀ segment ∈ pathSegments path, segment ≠ ""

theorem pathSegments_ne_nil (path : String) : pathSegments path ≠ [] := by
  unfold pathSegments
  simp

theorem Solid.ne_empty {path : String} (solid : Solid path) : path ≠ "" := by
  rintro rfl
  exact solid "" (by decide) rfl

/-- A name that is a path of one segment. -/
def SimpleName (name : String) : Prop :=
  name ≠ "" ∧ pathSegments name = [name]

theorem SimpleName.solid {name : String} (simple : SimpleName name) : Solid name := by
  intro segment member
  rw [simple.2] at member
  obtain rfl := List.mem_singleton.mp member
  exact simple.1

theorem any_isEmpty_iff (path : String) :
    (pathSegments path).any (·.isEmpty) = true ↔ ¬ Solid path := by
  simp [Solid]

/-- A path with an empty segment is refused. -/
theorem followPath_refused {first : String → Lookup Value} {step : Value → String → Lookup Value}
    {path : String} (empty : ¬ Solid path) :
    followPath first step path = throw (.invalidPath path) := by
  unfold followPath
  rw [if_pos ((any_isEmpty_iff path).mpr empty)]
  rfl

/-- A path without empty segments is followed from its first segment on. -/
theorem followPath_solid {first : String → Lookup Value} {step : Value → String → Lookup Value}
    {path segment : String} {rest : List String} (solid : Solid path)
    (split : pathSegments path = segment :: rest) :
    followPath first step path =
      first segment >>= fun value => walkPath step path [segment] value rest := by
  unfold followPath
  rw [if_neg fun empty => (any_isEmpty_iff path).mp empty solid, split]

/-- A path of one segment is followed by looking the segment up. -/
theorem followPath_simple {name : String} (simple : SimpleName name)
    (first : String → Lookup Value) (step : Value → String → Lookup Value) :
    followPath first step name = first name := by
  rw [followPath_solid simple.solid simple.2]
  exact bind_pure (first name)

/-- A path is looked up in lockstep if its segments are, and a path with an empty segment if it may
be refused. -/
theorem followPath_lockstep {first first' : String → Lookup Value}
    {step step' : Value → String → Lookup Value} {path : String}
    (solid : Solid path ∨ E (.invalidPath path))
    (nulls : ∀ partialPath, E (.nullIntermediate partialPath path))
    (start : ∀ segment ∈ pathSegments path, segment ≠ "" →
      Lockstep R Q E (first segment) (first' segment))
    (steps : ∀ subject, Q subject → subject.isNull = false → ∀ segment ∈ pathSegments path,
      segment ≠ "" → Lockstep R Q E (step subject segment) (step' subject segment)) :
    Lockstep R Q E (followPath first step path) (followPath first' step' path) := by
  by_cases given : Solid path
  · cases split : pathSegments path with
    | nil => exact absurd split (pathSegments_ne_nil path)
    | cons segment rest =>
        rw [followPath_solid given split, followPath_solid given split]
        unfold Solid at given
        rw [split] at start steps given
        obtain ⟨here, later⟩ := List.forall_mem_cons.mp given
        refine Lockstep.bind (start segment List.mem_cons_self here) fun value allowed => ?_
        refine walkPath_lockstep [segment] nulls ?_ allowed
        intro subject subjectAllowed notNull other member
        exact steps subject subjectAllowed notNull other (List.mem_cons_of_mem _ member)
          (later other member)
  · rw [followPath_refused given, followPath_refused given]
    exact Lockstep.throw (solid.resolve_left given)

/-! ### The usual resolver -/

/-- An accessor is found in lockstep where the same ones are remembered. -/
theorem accessorFor_lockstep {moduleName typeName property : String}
    {memberKind? : String → Option MemberKind}
    (same : ∀ world world', R world world' → world'.remembered? cache moduleName typeName property =
      world.remembered? cache moduleName typeName property)
    (keeps : ∀ world world' accessor, R world world' →
      R (world.remember ⟨cache, moduleName, typeName, property, accessor⟩)
        (world'.remember ⟨cache, moduleName, typeName, property, accessor⟩)) :
    Lockstep R (fun _ => True) E (accessorFor cache moduleName typeName memberKind? property)
      (accessorFor cache moduleName typeName memberKind? property) := by
  refine Lockstep.get fun world world' related => ?_
  rw [same world world' related]
  cases world.remembered? cache moduleName typeName property with
  | some accessor => exact Lockstep.pure trivial
  | none =>
      refine Lockstep.bind (Lockstep.update fun before before' related' => ?_) fun _ _ => ?_
      · exact keeps before before' _ related'
      · exact Lockstep.pure trivial

section Standard

variable (agree : Lookups cache R Q E)

include agree

/-- A single segment is looked up in lockstep: by key in a mapping, as a property in all else. -/
theorem segments_lockstep {subject : Value} {name : String} (allowed : Q subject)
    (notNull : subject.isNull = false) (given : name ≠ "") :
    Lockstep R Q E ((Resolver.segments cache).ofValue subject name)
      ((Resolver.segments cache).ofValue subject name) := by
  cases isMap : subject.entries? with
  | none =>
      rw [segments_property notNull isMap given]
      exact readProperty_lockstep agree name allowed
  | some entries =>
      rw [segments_entries isMap given]
      apply Lockstep.pure
      cases found : Value.get? entries name with
      | none => exact agree.null
      | some value => exact agree.entry allowed isMap found

end Standard

end Stencil
