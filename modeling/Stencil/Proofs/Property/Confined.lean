/-
Module: Stencil.Proofs.Property.Confined
Purpose: Values that refer to instances of a given family only, and what can be read from them.
Main exports: Value.Confined, World.Confined, World.Confined.attribute, World.Confined.member
-/
import Stencil.Proofs.Property.Calm
import Stencil.Proofs.Property.Lookups

namespace Stencil

mutual

/-- Every instance that a value refers to, at any depth, belongs to a family. -/
def Value.Confined (family : Family) : Value → Prop
  | .list items | .tuple items | .set items | .view _ items => Value.AllConfined family items
  | .map entries | .bindings entries => Value.EntriesConfined family entries
  | .function result => result.Confined family
  | .object className identity => family className identity
  | _ => True

def Value.AllConfined (family : Family) : List Value → Prop
  | [] => True
  | item :: rest => item.Confined family ∧ Value.AllConfined family rest

def Value.EntriesConfined (family : Family) : List (Value × Value) → Prop
  | [] => True
  | (_, value) :: rest => value.Confined family ∧ Value.EntriesConfined family rest

end

/-- Everything that instances and streams hold is confined. -/
structure Objects.Confined (objects : Objects) (family : Family) : Prop where
  attributes : ∀ attributes ∈ objects.instances, ∀ entry ∈ attributes, entry.2.Confined family
  streamed : ∀ items ∈ objects.streams, ∀ item ∈ items, item.Confined family

/-- Everything that instances, classes and streams hold is confined, and members keep it so. -/
structure World.Confined (world : World) (family : Family) : Prop where
  objects : world.toObjects.Confined family
  shared : ∀ info ∈ world.classes.own, ∀ entry ∈ info.attributes, entry.2.Confined family
  members : ∀ info ∈ world.classes.own, ∀ member ∈ info.methods ++ info.properties,
    ∀ (identity : Nat) (objects : Objects), objects.Confined family →
      Ends (Value.Confined family) (fun _ => True) (member.2 identity objects).result ∧
        (objects.after (member.2 identity objects)).Confined family
  builtin : ∀ (subject : Value) name member, subject.Confined family →
    world.classes.builtinMember? subject name = some member →
      Ends (Value.Confined family) (fun _ => True) (member.run subject)

variable {family : Family}

theorem Value.AllConfined.forall_mem {items : List Value}
    (confined : Value.AllConfined family items) : ∀ item ∈ items, item.Confined family := by
  induction items with
  | nil => simp
  | cons item rest ih => exact List.forall_mem_cons.mpr ⟨confined.1, ih confined.2⟩

theorem Value.EntriesConfined.get? {entries : List (Value × Value)} {key : String} {value : Value}
    (confined : Value.EntriesConfined family entries)
    (found : Value.get? entries key = some value) : value.Confined family := by
  fun_induction Value.get? entries key with
  | case1 => cases found
  | case2 =>
      cases found
      exact confined.1
  | case3 _ _ _ _ ih => exact ih confined.2 found
  | case4 _ _ _ ih => exact ih confined.2 found

theorem Value.Confined.entries {subject : Value} {entries : List (Value × Value)}
    (confined : subject.Confined family) (isMap : subject.entries? = some entries) :
    Value.EntriesConfined family entries := by
  cases subject with
  | map | bindings =>
      cases isMap
      exact confined
  | _ => cases isMap

/-- What is counted and remembered holds no values. -/
theorem World.Confined.of_eq {world other : World} (confined : world.Confined family)
    (classes : other.classes = world.classes) (objects : other.toObjects = world.toObjects) :
    other.Confined family := by
  refine ⟨?_, ?_, ?_, ?_⟩
  · rw [objects]
    exact confined.objects
  · rw [classes]
    exact confined.shared
  · rw [classes]
    exact confined.members
  · rw [classes]
    exact confined.builtin

/-- A state of the objects into which a member has brought them. -/
theorem World.Confined.withObjects {world : World} (confined : world.Confined family)
    {objects : Objects} (kept : objects.Confined family) :
    ({ world with toObjects := objects } : World).Confined family :=
  ⟨kept, confined.shared, confined.members, confined.builtin⟩

theorem mem_bindName {α : Type} {bindings : List (String × α)} {name : String} {value : α}
    {entry : String × α} (member : entry ∈ bindName bindings name value) :
    entry ∈ bindings ∨ entry.2 = value := by
  induction bindings with
  | nil => exact .inr (by rw [List.mem_singleton.mp member])
  | cons first rest ih =>
      obtain ⟨present, old⟩ := first
      unfold bindName at member
      split at member
      · rcases List.mem_cons.mp member with rfl | later
        · exact .inr rfl
        · exact .inl (List.mem_cons_of_mem _ later)
      · rcases List.mem_cons.mp member with rfl | later
        · exact .inl List.mem_cons_self
        · rcases ih later with before | new
          · exact .inl (List.mem_cons_of_mem _ before)
          · exact .inr new

theorem Objects.mem_attributesOf {objects : Objects} {identity : Nat} {entry : String × Value}
    (member : entry ∈ objects.attributesOf identity) :
    ∃ attributes ∈ objects.instances, entry ∈ attributes := by
  unfold Objects.attributesOf at member
  cases known : objects.instances[identity]? with
  | none =>
      rw [known] at member
      cases member
  | some attributes =>
      rw [known, Option.getD_some] at member
      exact ⟨attributes, List.mem_of_getElem? known, member⟩

/-- The elements that a stream holds are confined, and what is left without the first is. -/
theorem World.Confined.drawn {world : World} (confined : world.Confined family) {identity : Nat}
    {item : Value} {rest : List Value} (held : world.remaining identity = item :: rest) :
    item.Confined family ∧
      ({ world with streams := world.streams.set identity rest } : World).Confined family := by
  have elements : ∀ value ∈ item :: rest, value.Confined family := by
    rw [← held, World.remaining]
    cases known : world.streams[identity]? with
    | none => simp
    | some items => exact confined.objects.streamed items (List.mem_of_getElem? known)
  obtain ⟨here, later⟩ := List.forall_mem_cons.mp elements
  refine ⟨here, ⟨confined.objects.attributes, ?_⟩, confined.shared, confined.members,
    confined.builtin⟩
  intro items member
  rcases List.mem_or_eq_of_mem_set member with before | rfl
  · exact confined.objects.streamed items before
  · exact later

theorem World.Confined.attribute {world : World} (confined : world.Confined family)
    {identity : Nat} {name : String}
    {value : Value} (found : (world.attributesOf identity).lookup name = some value) :
    value.Confined family := by
  obtain ⟨attributes, known, member⟩ := Objects.mem_attributesOf (mem_of_lookup found)
  exact confined.objects.attributes attributes known _ member

theorem World.Confined.shared_lookup {world : World} (confined : world.Confined family)
    {className name : String} {info : ClassInfo} {value : Value}
    (known : world.class? className = some info)
    (found : info.attributes.lookup name = some value) : value.Confined family :=
  confined.shared info (List.mem_of_find?_eq_some known) _ (mem_of_lookup found)

/-- What a member of a class gives is confined, and so is what it does to the objects. -/
theorem World.Confined.member {world : World} (confined : world.Confined family)
    {className name : String} {body : MemberBody} (has : world.HasMember className name body)
    (identity : Nat) {objects : Objects} (before : objects.Confined family) :
    Ends (Value.Confined family) (fun _ => True) (body identity objects).result ∧
      (objects.after (body identity objects)).Confined family := by
  obtain ⟨info, known, member⟩ := has
  exact confined.members info (List.mem_of_find?_eq_some known) _ member identity objects before

end Stencil
