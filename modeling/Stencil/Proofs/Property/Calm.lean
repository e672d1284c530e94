/-
Module: Stencil.Proofs.Property.Calm
Purpose: Objects whose members neither fail nor change anything, and what their properties are.
Main exports: MemberBody.Calm, Value.Calm, World.Calm, World.property, readProperty_settles,
  World.Calm.property
-/
import Stencil.Proofs.Property.Settling

namespace Stencil

/-! ### Calm values -/

/-- The value of a result that is one, else null. -/
def valueOrNull : Except Raised Value → Value
  | .ok value => value
  | .error _ => .null

/-- A member that gives a value and does nothing else, on an instance among given objects. -/
def MemberBody.Calm (body : MemberBody) (identity : Nat) (objects : Objects) : Prop :=
  (∃ value, (body identity objects).result = .ok value) ∧
    objects.after (body identity objects) = objects

/-- What a calm member gives. -/
def MemberBody.calmValue (body : MemberBody) (identity : Nat) (objects : Objects) : Value :=
  valueOrNull (body identity objects).result

/-- All members of an instance are calm. -/
def World.CalmMembers (world : World) (className : String) (identity : Nat) : Prop :=
  ∀ info, world.class? className = some info →
    ∀ member ∈ info.methods ++ info.properties, MemberBody.Calm member.2 identity world.toObjects

/-- A family of instances, each one known by its class and its identity. -/
abbrev Family := String → Nat → Prop

mutual

/-- A value that holds no streams, and no instances but those of a family.  Streams hold other items
each time they are read. -/
def Value.Calm (family : Family) : Value → Prop
  | .list items | .tuple items | .set items | .view _ items => Value.AllCalm family items
  | .map entries | .bindings entries => Value.EntriesCalm family entries
  | .function result => result.Calm family
  | .object className identity => family className identity
  | .stream _ => False
  | _ => True

def Value.AllCalm (family : Family) : List Value → Prop
  | [] => True
  | item :: rest => item.Calm family ∧ Value.AllCalm family rest

def Value.EntriesCalm (family : Family) : List (Value × Value) → Prop
  | [] => True
  | (_, value) :: rest => value.Calm family ∧ Value.EntriesCalm family rest

end

/-- The instances of a family are calm together: their members are calm, and what they and their
classes hold and give has no instances but those of the family.  So have the values that members of
other classes give, which do not fail either. -/
structure World.Calm (world : World) (family : Family) : Prop where
  members : ∀ className identity, family className identity →
    world.CalmMembers className identity
  attributes : ∀ className identity, family className identity →
    ∀ entry ∈ world.attributesOf identity, entry.2.Calm family
  shared : ∀ className identity, family className identity →
    ∀ info, world.class? className = some info →
      ∀ entry ∈ info.attributes, entry.2.Calm family
  given : ∀ className identity, family className identity →
    ∀ info, world.class? className = some info →
      ∀ member ∈ info.methods ++ info.properties,
        (MemberBody.calmValue member.2 identity world.toObjects).Calm family
  builtin : ∀ (subject : Value) name member, subject.Calm family →
    world.classes.builtinMember? subject name = some member →
      ∃ value, member.run subject = .ok value ∧ value.Calm family

variable {family : Family}

theorem Value.AllCalm.forall_mem {items : List Value} (calm : Value.AllCalm family items) :
    ∀ item ∈ items, item.Calm family := by
  induction items with
  | nil => simp
  | cons item rest ih => exact List.forall_mem_cons.mpr ⟨calm.1, ih calm.2⟩

theorem Value.EntriesCalm.get? {entries : List (Value × Value)} {key : String} {value : Value}
    (calm : Value.EntriesCalm family entries) (found : Value.get? entries key = some value) :
    value.Calm family := by
  fun_induction Value.get? entries key with
  | case1 => cases found
  | case2 =>
      cases found
      exact calm.1
  | case3 _ _ _ _ ih => exact ih calm.2 found
  | case4 _ _ _ ih => exact ih calm.2 found

theorem Value.Calm.entries {subject : Value} {entries : List (Value × Value)}
    (calm : subject.Calm family) (isMap : subject.entries? = some entries) :
    Value.EntriesCalm family entries := by
  cases subject with
  | map | bindings =>
      cases isMap
      exact calm
  | _ => cases isMap

theorem mem_of_lookup {α : Type} {entries : List (String × α)} {name : String} {value : α}
    (found : entries.lookup name = some value) : (name, value) ∈ entries := by
  obtain ⟨front, rest, rfl, -⟩ := List.lookup_eq_some_iff.mp found
  simp

/-! ### Properties of calm values -/

/-- What there is under the name of a member. -/
def World.calmMember? (world : World) (subject : Value) (name : String) : Option Member :=
  match subject with
  | .object className identity =>
      let info := world.classes.classOf className
      match info.properties.lookup name with
      | some body => some (.data (MemberBody.calmValue body identity world.toObjects))
      | none =>
          match (world.attributesOf identity).lookup name with
          | some value => some (.data value)
          | none =>
              match info.methods.lookup name with
              | some body => some (.method className identity name body)
              | none => (info.attributes.lookup name).map .data
  | _ =>
      (world.classes.builtinMember? subject name).map fun member =>
        match member.kind with
        | .call => .builtin subject member
        | .data => .data (valueOrNull (member.run subject))

/-- What a member gives when it is called, if it can be called. -/
def World.calmUse (world : World) : Member → Value
  | .data (.function result) => result
  | .data value => value
  | .method _ identity _ body => MemberBody.calmValue body identity world.toObjects
  | .builtin subject member => valueOrNull (member.run subject)

/-- A property of a value: what is at its key, or what its accessor reads; null if there is none. -/
def World.property (world : World) (subject : Value) (name : String) : Value :=
  match subject.entries? with
  | some entries => (Value.get? entries name).getD .null
  | none =>
      let accessor := chooseAccessor (world.memberKind? subject) name
      match world.calmMember? subject ((accessor.map (·.member)).getD name) with
      | none => .null
      | some member =>
          match accessor with
          | some ⟨.call, _⟩ => world.calmUse member
          | _ => member.value

/-- What is found of a calm value can be used without failing, and without changing anything. -/
def Member.Calm (member : Member) (family : Family) (world : World) : Prop :=
  match member with
  | .data value => value.Calm family
  | .method _ identity _ body =>
      MemberBody.Calm body identity world.toObjects ∧
        (MemberBody.calmValue body identity world.toObjects).Calm family
  | .builtin subject member => ∃ value, member.run subject = .ok value ∧ value.Calm family

variable {cache : Nat} {world : World}

theorem accessorFor_settles {moduleName typeName property : String}
    {memberKind? : String → Option MemberKind}
    (kinds : memberKind? = world.classMemberKind? moduleName typeName) :
    Settles cache world (accessorFor cache moduleName typeName memberKind? property)
      (.ok (chooseAccessor memberKind? property)) := by
  subst kinds
  intro before alike
  obtain ⟨accessors, ran, coherent⟩ := alike.coherent.accessorFor moduleName typeName property
  rw [alike.classMemberKind?] at ran
  exact ⟨_, ran, ⟨alike.classes, alike.objects, coherent⟩⟩

theorem ofRaised_settles {value : Value} {result : Except Raised Value} (gives : result = .ok value) :
    Settles cache world (Lookup.ofRaised result) (.ok value) := by
  rw [gives]
  exact Settles.pure value

theorem readAsData_settles {read : Lookup Value} {value : Value}
    (reads : Settles cache world read (.ok value)) :
    Settles cache world (readAsData read) (.ok (some (.data value))) :=
  Settles.tryCatch (Settles.bind reads (Settles.pure _))

theorem MemberBody.Calm.result {body : MemberBody} {identity : Nat} {objects : Objects}
    (calm : MemberBody.Calm body identity objects) :
    (body identity objects).result = .ok (MemberBody.calmValue body identity objects) := by
  obtain ⟨⟨value, gives⟩, -⟩ := calm
  rw [MemberBody.calmValue, gives]
  rfl

theorem runMember_settles {className : String} {identity : Nat} {name : String} {body : MemberBody}
    (calm : MemberBody.Calm body identity world.toObjects) :
    Settles cache world (runMember className identity name body)
      (.ok (MemberBody.calmValue body identity world.toObjects)) := by
  refine Settles.bind (Settles.update fun other alike => alike.noteRun className name) ?_
  refine Settles.get fun before alike => ?_
  rw [alike.objects]
  refine Settles.bind (Settles.update fun other alike' => ?_) (ofRaised_settles calm.result)
  rw [alike'.objects, calm.2]
  exact ⟨alike'.classes, rfl, alike'.coherent⟩

/-- The members of the class of an instance of the family are calm, whether or not the class is
there, and so is what they give. -/
theorem World.Calm.member (calm : world.Calm family) {className : String} {identity : Nat}
    {name : String} {body : MemberBody} (inside : family className identity)
    (found : (world.classes.classOf className).properties.lookup name = some body ∨
      (world.classes.classOf className).methods.lookup name = some body) :
    MemberBody.Calm body identity world.toObjects ∧
      (MemberBody.calmValue body identity world.toObjects).Calm family := by
  unfold Classes.classOf at found
  cases known : world.classes.class? className with
  | none =>
      rw [known] at found
      rcases found with found | found <;> cases found
  | some info =>
      rw [known, Option.getD_some] at found
      have member : (name, body) ∈ info.methods ++ info.properties := by
        rcases found with property | method
        · exact List.mem_append_right _ (mem_of_lookup property)
        · exact List.mem_append_left _ (mem_of_lookup method)
      exact ⟨calm.members className identity inside info known _ member,
        calm.given className identity inside info known _ member⟩

theorem World.Calm.attribute (calm : world.Calm family) {className : String} {identity : Nat}
    (inside : family className identity) {name : String} {value : Value}
    (found : (world.attributesOf identity).lookup name = some value) : value.Calm family :=
  calm.attributes className identity inside _ (mem_of_lookup found)

theorem World.Calm.shared_lookup (calm : world.Calm family) {className name : String}
    {identity : Nat} (inside : family className identity) {value : Value}
    (found : (world.classes.classOf className).attributes.lookup name = some value) :
    value.Calm family := by
  unfold Classes.classOf at found
  cases known : world.classes.class? className with
  | none =>
      rw [known] at found
      cases found
  | some info =>
      rw [known] at found
      exact calm.shared className identity inside info known _ (mem_of_lookup found)

theorem readObjectMember_settles (worldCalm : world.Calm family) {className : String}
    {identity : Nat} (name : String) (inside : family className identity) :
    Settles cache world (readObjectMember className identity name)
      (.ok (world.calmMember? (.object className identity) name)) := by
  refine Settles.get fun before alike => ?_
  rw [alike.classes, alike.objects]
  simp only [World.calmMember?]
  cases property : (world.classes.classOf className).properties.lookup name with
  | some body =>
      exact readAsData_settles (runMember_settles (worldCalm.member inside (.inl property)).1)
  | none =>
      simp only
      cases (world.attributesOf identity).lookup name with
      | some value => exact Settles.pure _
      | none =>
          simp only
          cases (world.classes.classOf className).methods.lookup name with
          | some body => exact Settles.pure _
          | none => exact Settles.pure _

theorem readBuiltinMember_settles (worldCalm : world.Calm family) {subject : Value} (name : String)
    (calm : subject.Calm family) :
    Settles cache world (readBuiltinMember subject name)
      (.ok ((world.classes.builtinMember? subject name).map fun member =>
        match member.kind with
        | .call => .builtin subject member
        | .data => .data (valueOrNull (member.run subject)))) := by
  refine Settles.get fun before alike => ?_
  rw [alike.classes]
  cases known : world.classes.builtinMember? subject name with
  | none => exact Settles.pure _
  | some member =>
      obtain ⟨value, gives, -⟩ := worldCalm.builtin subject name member calm known
      simp only [Option.map_some]
      cases member.kind with
      | call => exact Settles.pure _
      | data =>
          rw [gives]
          exact readAsData_settles (Settles.pure _)

theorem readMember_settles (worldCalm : world.Calm family) {subject : Value} (name : String)
    (calm : subject.Calm family) :
    Settles cache world (readMember subject name) (.ok (world.calmMember? subject name)) := by
  cases subject with
  | object className identity => exact readObjectMember_settles worldCalm name calm
  | _ => exact readBuiltinMember_settles worldCalm name calm

/-- What is found under a name of a calm value is calm. -/
theorem World.Calm.found (worldCalm : world.Calm family) {subject : Value}
    (calm : subject.Calm family) {name : String} {member : Member}
    (here : world.calmMember? subject name = some member) : member.Calm family world := by
  have builtin : ((world.classes.builtinMember? subject name).map fun member =>
      match member.kind with
      | .call => Member.builtin subject member
      | .data => Member.data (valueOrNull (member.run subject))) = some member →
        member.Calm family world := by
    intro found
    obtain ⟨known, isMember, rfl⟩ := Option.map_eq_some_iff.mp found
    obtain ⟨value, gives, valueCalm⟩ := worldCalm.builtin subject name known calm isMember
    cases known.kind with
    | call => exact ⟨value, gives, valueCalm⟩
    | data =>
        rw [gives]
        exact valueCalm
  cases subject with
  | object className identity =>
      unfold World.calmMember? at here
      simp only at here
      split at here
      · rename_i body isProperty
        cases here
        exact (worldCalm.member calm (.inl isProperty)).2
      · split at here
        · rename_i value isAttribute
          cases here
          exact worldCalm.attribute calm isAttribute
        · split at here
          · rename_i body isMethod
            cases here
            exact worldCalm.member calm (.inr isMethod)
          · obtain ⟨value, isShared, rfl⟩ := Option.map_eq_some_iff.mp here
            exact worldCalm.shared_lookup calm isShared
  | _ => exact builtin here

/-- A calm member gives what it is or does. -/
theorem Member.Calm.settles {member : Member} (calm : member.Calm family world) :
    Settles cache world member.use (.ok (world.calmUse member)) := by
  cases member with
  | data value =>
      cases value with
      | function result => exact Settles.pure _
      | _ => exact Settles.pure _
  | method className identity name body => exact runMember_settles calm.1
  | builtin subject member =>
      obtain ⟨value, gives, -⟩ := calm
      apply Settles.bind (Settles.update fun other alike => alike.noteTaken _)
      apply ofRaised_settles
      rw [World.calmUse, gives]
      rfl

/-- What a calm member gives is calm, and so is the member as a value. -/
theorem Member.Calm.values {member : Member} (calm : member.Calm family world) :
    (world.calmUse member).Calm family ∧ member.value.Calm family := by
  cases member with
  | data value =>
      cases value with
      | function result => exact ⟨calm, calm⟩
      | _ => exact ⟨calm, calm⟩
  | method className identity name body => exact ⟨calm.2, trivial⟩
  | builtin subject member =>
      obtain ⟨value, gives, valueCalm⟩ := calm
      rw [World.calmUse, gives]
      exact ⟨valueCalm, trivial⟩

/-- A property of a value that is no mapping. -/
theorem World.property_of_noMap {subject : Value} (noMap : subject.entries? = none)
    (name : String) :
    world.property subject name =
      match world.calmMember? subject
          (((chooseAccessor (world.memberKind? subject) name).map (·.member)).getD name) with
      | none => .null
      | some member =>
          match chooseAccessor (world.memberKind? subject) name with
          | some ⟨.call, _⟩ => world.calmUse member
          | _ => member.value := by
  rw [World.property, noMap]

/-- Reading a property of a calm value that is no mapping gives the property. -/
theorem readProperty_settles (worldCalm : world.Calm family) {subject : Value}
    (property : String) (calm : subject.Calm family) (noMap : subject.entries? = none) :
    Settles cache world (readProperty cache subject property)
      (.ok (world.property subject property)) := by
  unfold readProperty
  refine Settles.get fun before alike => ?_
  rw [alike.memberKind?]
  refine Settles.bind (accessorFor_settles rfl) ?_
  refine Settles.bind (readMember_settles worldCalm _ calm) ?_
  rw [World.property_of_noMap noMap]
  cases found : world.calmMember? subject
      (((chooseAccessor (world.memberKind? subject) property).map (·.member)).getD property) with
  | none => exact Settles.pure _
  | some member =>
      rcases chooseAccessor (world.memberKind? subject) property with _ | ⟨_ | _, name⟩
      · exact Settles.pure _
      · exact (worldCalm.found calm found).settles
      · exact Settles.pure _

/-- The properties of calm values are calm. -/
theorem World.Calm.property (worldCalm : world.Calm family) {subject : Value}
    (calm : subject.Calm family) (name : String) : (world.property subject name).Calm family := by
  cases isMap : subject.entries? with
  | some entries =>
      rw [World.property, isMap]
      simp only
      cases found : Value.get? entries name with
      | none => trivial
      | some value => exact (calm.entries isMap).get? found
  | none =>
      rw [World.property_of_noMap isMap]
      split
      · trivial
      · rename_i member here
        have memberCalm := worldCalm.found calm here
        split
        · exact memberCalm.values.1
        · exact memberCalm.values.2

end Stencil
