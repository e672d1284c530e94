/-
Module: Stencil.Proofs.Property.Twins
Purpose: A mapping and an instance of a class without members that hold the same: lookups in one and
  in the other go in lockstep, also under loop variables.
Main exports: World.Memberless, World.Spares, Twins, TwinModels, twins_lookups, getValue_twins
-/
import Stencil.Proofs.Property.Confined
import Stencil.Proofs.Property.Lookups
import Stencil.Proofs.Property.Overlay

namespace Stencil

/-- A class has no methods, properties or attributes, if there is such a class at all. -/
def World.Memberless (world : World) (className : String) : Prop :=
  ∀ info, world.class? className = some info →
    info.methods = [] ∧ info.properties = [] ∧ info.attributes = []

/-- At most it is remembered of a class that it has nothing. -/
def World.RemembersNothing (world : World) (cache : Nat) (className : String) : Prop :=
  ∀ property accessor,
    world.remembered? cache "model" className property = some accessor → accessor = none

/-- All references to one instance name its class. -/
def oneClass (className : String) (identity : Nat) : Family :=
  fun otherClass otherIdentity => otherIdentity = identity → otherClass = className

/-- Whatever members of other instances do, one instance keeps its attributes. -/
def World.Spares (world : World) (identity : Nat) : Prop :=
  ∀ info ∈ world.classes.own, ∀ member ∈ info.methods ++ info.properties,
    ∀ (other : Nat) (objects : Objects), other ≠ identity →
      (objects.after (member.2 other objects)).attributesOf identity = objects.attributesOf identity

/-- Two states of the objects that differ in what is remembered about a class without members only.
An instance of it holds given attributes in both. -/
structure Twins (cache : Nat) (className : String) (identity : Nat)
    (attributes : List (String × Value)) (world other : World) : Prop where
  classes : other.classes = world.classes
  objects : other.toObjects = world.toObjects
  remembered : ∀ moduleName typeName property, ¬(moduleName = "model" ∧ typeName = className) →
    other.remembered? cache moduleName typeName property =
      world.remembered? cache moduleName typeName property
  nothing : world.RemembersNothing cache className
  nothing' : other.RemembersNothing cache className
  own : world.attributesOf identity = attributes
  memberless : world.Memberless className
  confined : world.Confined (oneClass className identity)
  spares : world.Spares identity

/-! ### Classes without members -/

section Memberless

variable {world : World} {className : String}

theorem World.Memberless.lookup (memberless : world.Memberless className) (name : String) :
    (world.classes.classOf className).properties.lookup name = none ∧
      (world.classes.classOf className).methods.lookup name = none ∧
      (world.classes.classOf className).attributes.lookup name = none := by
  unfold Classes.classOf
  cases known : world.classes.class? className with
  | none => exact ⟨rfl, rfl, rfl⟩
  | some info =>
      obtain ⟨methods, properties, attributes⟩ := memberless info known
      rw [Option.getD_some, methods, properties, attributes]
      exact ⟨rfl, rfl, rfl⟩

theorem World.Memberless.noMember (memberless : world.Memberless className) (name : String)
    (body : MemberBody) : ¬world.HasMember className name body := by
  rintro ⟨info, known, member⟩
  obtain ⟨methods, properties, -⟩ := memberless info known
  rw [methods, properties] at member
  cases member

/-- No value whose class has this name has a member. -/
theorem World.Memberless.memberKind? (memberless : world.Memberless className) {subject : Value}
    (model : subject.moduleName = "model") (same : subject.typeName = className) :
    world.memberKind? subject = fun _ => none := by
  funext name
  rw [World.memberKind?_eq, model, same]
  show (world.class? className).bind (·.memberKind? name) = none
  cases known : world.class? className with
  | none => rfl
  | some info =>
      obtain ⟨methods, properties, attributes⟩ := memberless info known
      simp [ClassInfo.memberKind?, methods, properties, attributes]

end Memberless

theorem chooseAccessor_none (property : String) :
    chooseAccessor (fun _ => none) property = none := by
  unfold chooseAccessor getterNames
  simp

namespace Twins

variable {cache : Nat} {className : String} {identity : Nat} {attributes : List (String × Value)}
  {world other : World}

theorem attributesOf (twins : Twins cache className identity attributes world other)
    (identity : Nat) : other.attributesOf identity = world.attributesOf identity := by
  rw [twins.objects]

theorem noteRun (twins : Twins cache className identity attributes world other)
    (ownClass member : String) :
    Twins cache className identity attributes (world.noteRun ownClass member)
      (other.noteRun ownClass member) :=
  { twins with confined := twins.confined.of_eq rfl rfl }

theorem noteTaken (twins : Twins cache className identity attributes world other)
    (names : List String) :
    Twins cache className identity attributes (world.noteTaken names) (other.noteTaken names) :=
  { twins with confined := twins.confined.of_eq rfl rfl }

/-- On both sides a member of another instance changes the objects alike. -/
theorem changed (twins : Twins cache className identity attributes world other)
    {objects : Objects} (kept : objects.attributesOf identity = world.attributesOf identity)
    (confined : objects.Confined (oneClass className identity)) :
    Twins cache className identity attributes { world with toObjects := objects }
      { other with toObjects := objects } :=
  { twins with
    objects := rfl
    own := kept.trans twins.own
    confined := twins.confined.withObjects confined }

/-- Both sides remember the same about another class. -/
theorem remember (twins : Twins cache className identity attributes world other)
    {moduleName typeName : String} (elsewhere : ¬(moduleName = "model" ∧ typeName = className))
    (property : String) (accessor : Option Accessor) :
    Twins cache className identity attributes
      (world.remember ⟨cache, moduleName, typeName, property, accessor⟩)
      (other.remember ⟨cache, moduleName, typeName, property, accessor⟩) := by
  have kept : ∀ {state : World}, state.RemembersNothing cache className →
      (state.remember ⟨cache, moduleName, typeName, property, accessor⟩).RemembersNothing cache
        className := by
    intro state nothing name found remembered
    rw [World.remembered?_remember, if_neg fun fits => elsewhere ⟨fits.2.1, fits.2.2.1⟩,
      Option.or_none] at remembered
    exact nothing name found remembered
  refine { twins with
    remembered := fun ownModule ownType name noMatch => ?_
    nothing := kept twins.nothing
    nothing' := kept twins.nothing'
    confined := twins.confined.of_eq rfl rfl }
  rw [World.remembered?_remember, World.remembered?_remember,
    twins.remembered ownModule ownType name noMatch]

theorem symm (twins : Twins cache className identity attributes world other) :
    Twins cache className identity attributes other world where
  classes := twins.classes.symm
  objects := twins.objects.symm
  remembered moduleName typeName property elsewhere :=
    (twins.remembered moduleName typeName property elsewhere).symm
  nothing := twins.nothing'
  nothing' := twins.nothing
  own := by rw [twins.attributesOf, twins.own]
  memberless info known := by
    refine twins.memberless info ?_
    rw [← known, World.class?, World.class?, twins.classes]
  confined := twins.confined.of_eq twins.classes twins.objects
  spares := by
    unfold World.Spares
    rw [twins.classes]
    exact twins.spares

theorem drawn (twins : Twins cache className identity attributes world other) {stream : Nat}
    {item : Value} {rest : List Value} (held : world.remaining stream = item :: rest) :
    item.Confined (oneClass className identity) ∧
      Twins cache className identity attributes
        { world with streams := world.streams.set stream rest }
        { other with streams := world.streams.set stream rest } := by
  obtain ⟨itemConfined, confined⟩ := twins.confined.drawn held
  refine ⟨itemConfined, { twins with objects := ?_, confined := confined }⟩
  rw [twins.objects]

theorem broken (twins : Twins cache className identity attributes world other)
    (breaks : List (Nat × Raised)) :
    Twins cache className identity attributes { world with breaks } { other with breaks } := by
  have kept : { world.toObjects with breaks }.Confined (oneClass className identity) :=
    ⟨twins.confined.objects.attributes, twins.confined.objects.streamed⟩
  have confined := twins.confined.withObjects kept
  refine { twins with objects := ?_, confined := confined }
  rw [twins.objects]

/-- A state is its own twin if it remembers what its classes say, and at an instance of a class
without members. -/
theorem start (coherent : world.Coherent cache) (memberless : world.Memberless className)
    (confined : world.Confined (oneClass className identity)) (spares : world.Spares identity) :
    Twins cache className identity (world.attributesOf identity) world world := by
  have nothing : world.RemembersNothing cache className := by
    intro property accessor remembered
    have chosen := coherent.remembered remembered
    have own : world.memberKind? (.object className identity) =
        world.classMemberKind? "model" className :=
      world.memberKind?_eq (.object className identity)
    rw [chosen, ← own, memberless.memberKind? rfl rfl, chooseAccessor_none]
  exact ⟨rfl, rfl, fun _ _ _ _ => rfl, nothing, nothing, rfl, memberless, confined, spares⟩

end Twins

/-! ### Lookups in values -/

section Values

variable {cache : Nat} {className : String} {identity : Nat} {attributes : List (String × Value)}
  {E : LookupError → Prop}

/-- A mapping, and an instance under loop variables: at each key the mapping has the variable, or
else the attribute. -/
inductive TwinModels (className : String) (identity : Nat) (attributes : List (String × Value)) :
    Model → Model → Prop where
  | outside {entries : List (Value × Value)}
      (agree : ∀ key, Value.get? entries key = attributes.lookup key) :
      TwinModels className identity attributes (.value (.map entries))
        (.value (.object className identity))
  | inside {entries : List (Value × Value)} {bindings : List (String × Value)}
      (agree : ∀ key, Value.get? entries key = (bindings.lookup key).or (attributes.lookup key))
      (confined : ∀ entry ∈ bindings, entry.2.Confined (oneClass className identity)) :
      TwinModels className identity attributes (.value (.map entries))
        (.scope ⟨.object className identity, bindings⟩)

theorem get?_ofAttributes (attributes : List (String × Value)) (key : String) :
    Value.get? (attributes.map fun entry => (.text entry.1, entry.2)) key =
      attributes.lookup key := by
  induction attributes with
  | nil => rfl
  | cons entry rest ih =>
      obtain ⟨name, value⟩ := entry
      rw [Environment.lookup_cons_eq, ← ih]
      rfl

namespace TwinModels

variable {model other : Model}

theorem isNull (models : TwinModels className identity attributes model other) :
    other.isNull = model.isNull := by
  cases models <;> rfl

theorem shadow (models : TwinModels className identity attributes model other) :
    TwinModels className identity attributes model.shadow other.shadow := by
  cases models with
  | outside agree => exact .inside agree (by simp)
  | inside agree confined => exact .inside agree confined

theorem bind (models : TwinModels className identity attributes model other) (name : String)
    {item : Value} (confined : item.Confined (oneClass className identity)) :
    TwinModels className identity attributes (model.bind name item) (other.bind name item) := by
  have bound : ∀ {entries : List (Value × Value)} {bindings : List (String × Value)},
      (∀ key, Value.get? entries key = (bindings.lookup key).or (attributes.lookup key)) →
        ∀ key, Value.get? (Value.bind entries name item) key =
          ((bindName bindings name item).lookup key).or (attributes.lookup key) := by
    intro entries bindings agree key
    rw [Environment.get?_bind, Environment.lookup_bindName, agree key]
    split <;> rfl
  cases models with
  | outside agree =>
      refine .inside (bound agree) ?_
      intro entry member
      obtain rfl := List.mem_singleton.mp member
      exact confined
  | inside agree bindingsConfined =>
      refine .inside (bound agree) ?_
      intro entry member
      rcases mem_bindName member with before | new
      · exact bindingsConfined entry before
      · exact new ▸ confined

end TwinModels

end Values

end Stencil
