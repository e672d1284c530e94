/-
Module: Stencil.Proofs.Property.Evolution
Purpose: How the objects change while properties are looked up: their own members run, the user's own
  resolvers are asked, accessors are remembered, variables are taken out of the loop under way and
  streams are drawn from, and nothing else happens to them.
Main exports: Resolver.Asks, Resolver.Restrained, World.Step, World.Evolves, World.Evolves.instances,
  World.Evolves.removed, getValue_evolves
-/
import Mathlib
import Stencil.Proofs.Property.Renewal

namespace Stencil

/-! ### What a user's own resolvers do -/

/-- A user's own way to look properties up that a resolver passes lookups on to. -/
def Resolver.Asks : Resolver → (Model → String → Lookup Value) → Prop
  | .mapping, _ | .object _, _ => False
  | .atomic mappings objects, look => mappings.Asks look ∨ objects.Asks look
  | .dotted segments, look => segments.Asks look
  | .custom own, look => look = own

/-- Whatever the user's own resolvers do, classes stay as they are, and nothing is put back into the
variables of loops. -/
def Resolver.Restrained (resolver : Resolver) : Prop :=
  ∀ look, resolver.Asks look → ∀ (model : Model) (property : String) (world : World),
    ((look model property).run.run world).2.classes = world.classes ∧
      world.removed <+: ((look model property).run.run world).2.removed

/-- A resolver with none of the user's own in it is restrained. -/
theorem Resolver.restrained_of_noUser {resolver : Resolver}
    (noUser : ∀ look, ¬ resolver.Asks look) : resolver.Restrained :=
  fun look asks => absurd asks (noUser look)

/-! ### Steps -/

/-- What can happen to the objects at once, while properties are looked up with a resolver. -/
inductive World.Step (resolver : Resolver) : World → World → Prop where
  /-- A member of a class runs on an instance. -/
  | member {world : World} {className name : String} {body : MemberBody} (identity : Nat)
      (has : world.HasMember className name body) :
      Step resolver world ((runMember className identity name body).run.run world).2
  /-- A resolver of the user's own is asked. -/
  | ask {look : Model → String → Lookup Value} (asks : resolver.Asks look) (model : Model)
      (property : String) (world : World) :
      Step resolver world ((look model property).run.run world).2
  /-- An accessor is remembered. -/
  | remember (world : World) (entry : RememberedAccessor) :
      Step resolver world (world.remember entry)
  /-- A member of a class that does not belong to the model takes variables out of the loop under
  way. -/
  | take {world : World} {subject : Value} {name : String} {member : BuiltinMember}
      (known : world.classes.builtinMember? subject name = some member) :
      Step resolver world (world.noteTaken (member.takenFrom subject))
  /-- An element is taken from a stream. -/
  | draw {world after : World} {identity : Nat} {item : Value}
      (taken : world.takeNext identity = some (item, after)) : Step resolver world after
  /-- A stream fails behind its last element. -/
  | fail {world after : World} {identity : Nat} {raised : Raised}
      (broken : world.takeBreak identity = some (raised, after)) : Step resolver world after

/-- What can happen to the objects one after another. -/
abbrev World.Evolves (resolver : Resolver) : World → World → Prop :=
  Relation.ReflTransGen (World.Step resolver)

/-! ### What a step does to instances -/

/-- How many runs of members have been counted. -/
def World.runs (world : World) : Nat :=
  (world.calls.map (·.2)).sum

theorem sum_countRun (calls : List ((String × String) × Nat)) (member : String × String) :
    ((countRun calls member).map (·.2)).sum = (calls.map (·.2)).sum + 1 := by
  fun_induction countRun calls member with
  | case1 => rfl
  | case2 =>
      simp only [List.map_cons, List.sum_cons]
      omega
  | case3 present runs rest member _ ih =>
      simp only [List.map_cons, List.sum_cons, ih]
      omega

variable {resolver : Resolver} {world after : World}

/-- Only members and the user's own resolvers change instances, and members are counted. -/
theorem World.Step.instances (step : World.Step resolver world after)
    (noUser : ∀ look, ¬ resolver.Asks look) :
    world.runs + 1 = after.runs ∨
      after.runs = world.runs ∧ after.instances = world.instances := by
  cases step with
  | member identity has =>
      rw [runMember_run]
      exact .inl (sum_countRun world.calls _).symm
  | ask asks model property world => exact absurd asks (noUser _)
  | remember entry => exact .inr ⟨rfl, rfl⟩
  | take known => exact .inr ⟨rfl, rfl⟩
  | draw taken =>
      obtain ⟨_, -, rfl⟩ := World.takeNext_eq_some_iff.mp taken
      exact .inr ⟨rfl, rfl⟩
  | fail broken =>
      obtain ⟨-, rfl⟩ := World.takeBreak_eq_some_iff.mp broken
      exact .inr ⟨rfl, rfl⟩

/-- Where no member runs and the user has no resolver of their own, instances keep all their
attributes. -/
theorem World.Evolves.instances (evolves : World.Evolves resolver world after)
    (noUser : ∀ look, ¬ resolver.Asks look) :
    world.runs ≤ after.runs ∧
      (after.runs = world.runs → after.instances = world.instances) := by
  induction evolves with
  | refl => exact ⟨Nat.le_refl _, fun _ => rfl⟩
  | @tail between after _ step ih =>
      obtain ⟨fewer, kept⟩ := ih
      rcases step.instances noUser with more | ⟨same, instances⟩
      · exact ⟨by omega, fun quiet => absurd quiet (by omega)⟩
      · rw [same, instances]
        exact ⟨fewer, kept⟩

/-! ### What a step does to the variables of loops -/

/-- Variables are taken out, but nothing is put back. -/
theorem World.Step.removed (restrained : resolver.Restrained)
    (step : World.Step resolver world after) : world.removed <+: after.removed := by
  cases step with
  | member identity has =>
      rw [runMember_run]
      exact List.prefix_rfl
  | ask asks model property world => exact (restrained _ asks model property world).2
  | remember entry => exact List.prefix_rfl
  | take known => exact List.prefix_append _ _
  | draw taken =>
      obtain ⟨_, -, rfl⟩ := World.takeNext_eq_some_iff.mp taken
      exact List.prefix_rfl
  | fail broken =>
      obtain ⟨-, rfl⟩ := World.takeBreak_eq_some_iff.mp broken
      exact List.prefix_rfl

theorem World.Evolves.removed (restrained : resolver.Restrained)
    (evolves : World.Evolves resolver world after) : world.removed <+: after.removed := by
  induction evolves with
  | refl => exact List.prefix_rfl
  | tail _ step ih => exact ih.trans (step.removed restrained)

/-- Some member takes a variable out of the mapping in which a loop scope keeps them. -/
def Classes.TakeVariables (classes : Classes) : Prop :=
  ∃ entries name member, classes.builtinMember? (.bindings entries) name = some member ∧
    member.takes entries ≠ []

/-- Variables of loops may be gone: one is gone already, or some member takes them out. -/
def World.MayTake (world : World) : Prop :=
  world.removed ≠ [] ∨ world.classes.TakeVariables

theorem Classes.takenFrom_eq_nil {classes : Classes} (keep : ¬ classes.TakeVariables)
    {subject : Value} {name : String} {member : BuiltinMember}
    (known : classes.builtinMember? subject name = some member) : member.takenFrom subject = [] := by
  cases subject with
  | bindings entries =>
      by_contra takes
      exact keep ⟨entries, name, member, known, takes⟩
  | _ => rfl

/-- Where no member takes variables out and the user has no resolver of their own, none is gone. -/
theorem World.Evolves.removed_eq (evolves : World.Evolves resolver world after)
    (noUser : ∀ look, ¬ resolver.Asks look) (keep : ¬ world.classes.TakeVariables) :
    after.removed = world.removed ∧ after.classes = world.classes := by
  induction evolves with
  | refl => exact ⟨rfl, rfl⟩
  | tail _ step ih =>
      obtain ⟨removed, classes⟩ := ih
      cases step with
      | member identity has =>
          rw [runMember_run]
          exact ⟨removed, classes⟩
      | ask asks model property world => exact absurd asks (noUser _)
      | remember entry => exact ⟨removed, classes⟩
      | take known =>
          rw [← classes] at keep
          have nothing := Classes.takenFrom_eq_nil keep known
          rw [World.noteTaken, nothing, List.append_nil]
          exact ⟨removed, classes⟩
      | draw taken =>
          obtain ⟨_, -, rfl⟩ := World.takeNext_eq_some_iff.mp taken
          exact ⟨removed, classes⟩
      | fail broken =>
          obtain ⟨-, rfl⟩ := World.takeBreak_eq_some_iff.mp broken
          exact ⟨removed, classes⟩

/-! ### Lookups -/

/-- One state of the objects, on both sides, that has come from a given one; the classes are the same. -/
def From (resolver : Resolver) (start world other : World) : Prop :=
  other = world ∧ World.Evolves resolver start world ∧ world.classes = start.classes

/-- Whatever work does to the objects is done in steps. -/
abbrev Evolving {ε α : Type} (resolver : Resolver) (start : World)
    (work : ExceptT ε (StateM World) α) : Prop :=
  Lockstep (From resolver start) (fun _ => True) (fun _ => True) work work

section Lookups

variable {start : World}

theorem From.classes {world other : World} (related : From resolver start world other) :
    other.classes = world.classes := by
  rw [related.1]

theorem requireArguments_evolves (isNull : Bool) (property : String) :
    Evolving resolver start (requireArguments isNull property) :=
  requireArguments_lockstep isNull property trivial trivial

theorem accessorFor_evolves (cache : Nat) (moduleName typeName property : String)
    (memberKind? : String → Option MemberKind) :
    Evolving resolver start (accessorFor cache moduleName typeName memberKind? property) := by
  apply accessorFor_lockstep
  · rintro world other ⟨rfl, -⟩
    rfl
  · rintro world other accessor ⟨rfl, evolves, classes⟩
    exact ⟨rfl, evolves.tail (.remember _ _), classes⟩

theorem runMember_evolves {className name : String} {identity : Nat} {body : MemberBody}
    (has : start.HasMember className name body) :
    Evolving resolver start (runMember className identity name body) := by
  apply Lockstep.alone
  rintro before ⟨evolves, classes⟩
  have present : before.HasMember className name body := by
    unfold World.HasMember World.class?
    rw [classes]
    exact has
  refine ⟨⟨evolves.tail (.member identity present), ?_⟩, Ends.any _⟩
  rw [runMember_run]
  exact classes

theorem evolving_lookups (cache : Nat) :
    Lookups cache (From resolver start) (fun _ => True) (fun _ => True) where
  classes related := related.classes
  objects related := by rw [related.1]
  accessor property _ _ := accessorFor_evolves cache _ _ property _
  member related _ has := by
    apply runMember_evolves
    unfold World.HasMember World.class?
    rw [← related.2.2]
    exact has
  held _ _ _ := trivial
  shared _ _ _ _ := trivial
  builtin _ _ _ := Ends.any _
  entry _ _ _ := trivial
  taken related known related' := by
    obtain ⟨rfl, evolves, classes⟩ := related'
    rw [related.2.2, ← classes] at known
    exact ⟨rfl, evolves.tail (.take known), classes⟩
  result _ := trivial
  null := trivial
  method := trivial
  uncalled := trivial

theorem followPath_evolves {first : String → Lookup Value} {step : Value → String → Lookup Value}
    (path : String) (starts : ∀ segment, Evolving resolver start (first segment))
    (steps : ∀ subject segment, Evolving resolver start (step subject segment)) :
    Evolving resolver start (followPath first step path) :=
  followPath_lockstep (.inr trivial) (fun _ => trivial) (fun segment _ _ => starts segment)
    fun subject _ _ segment _ _ => steps subject segment

/-- A resolver of the user's own that is restrained is asked in one step. -/
theorem look_evolves {look : Model → String → Lookup Value} (asks : resolver.Asks look)
    (restrained : resolver.Restrained) (model : Model) (property : String) :
    Evolving resolver start (look model property) := by
  apply Lockstep.alone
  rintro before ⟨evolves, classes⟩
  have kept := (restrained look asks model property before).1
  exact ⟨⟨evolves.tail (.ask asks model property before), kept.trans classes⟩, Ends.any _⟩

/-- Whom a part of a resolver asks, the resolver asks. -/
def Resolver.Within (part resolver : Resolver) : Prop :=
  ∀ look, part.Asks look → resolver.Asks look

theorem ofValue_evolves (restrained : resolver.Restrained) (part : Resolver)
    (within : part.Within resolver) (subject : Value) (property : String) :
    Evolving resolver start (part.ofValue subject property) := by
  induction part generalizing subject property with
  | mapping =>
      unfold Resolver.ofValue
      refine Lockstep.bind (requireArguments_evolves _ _) fun _ _ => ?_
      cases subject.entries? with
      | some entries => exact Lockstep.pure trivial
      | none => exact Lockstep.throw trivial
  | object cache =>
      unfold Resolver.ofValue
      refine Lockstep.bind (requireArguments_evolves _ _) fun _ _ => ?_
      exact readProperty_lockstep (evolving_lookups cache) property trivial
  | atomic mappings objects mappings_ih objects_ih =>
      unfold Resolver.ofValue
      refine Lockstep.bind (requireArguments_evolves _ _) fun _ _ => ?_
      split
      · exact mappings_ih (fun look asks => within look (.inl asks)) subject property
      · exact objects_ih (fun look asks => within look (.inr asks)) subject property
  | dotted segments ih =>
      unfold Resolver.ofValue
      refine Lockstep.bind (requireArguments_evolves _ _) fun _ _ => ?_
      exact followPath_evolves property (ih within subject) (ih within)
  | custom look => exact look_evolves (within look rfl) restrained (.value subject) property

theorem LoopScope.get_evolves (restrained : resolver.Restrained) (scope : LoopScope)
    (key : String) : Evolving resolver start (scope.get resolver key) := by
  have item : Evolving resolver start (scope.item resolver key) := by
    unfold LoopScope.item
    split
    · exact Lockstep.pure trivial
    · refine Lockstep.bind (ofValue_evolves restrained resolver (fun _ asks => asks) scope.base key) ?_
      intro value _
      split
      · exact Lockstep.throw trivial
      · exact Lockstep.pure trivial
  refine Lockstep.tryCatch (Lockstep.bind item fun _ _ => Lockstep.pure trivial) ?_
  intro failure _
  split
  · exact Lockstep.pure trivial
  · exact Lockstep.throw trivial

theorem ofScope_evolves (restrained : resolver.Restrained) (part : Resolver)
    (within : part.Within resolver) (scope : LoopScope) (property : String) :
    Evolving resolver start (Resolver.ofScope resolver part scope property) := by
  induction part generalizing property with
  | mapping =>
      unfold Resolver.ofScope
      refine Lockstep.bind (requireArguments_evolves _ _) fun _ _ => ?_
      exact Lockstep.bind (LoopScope.get_evolves restrained scope property) fun _ _ =>
        Lockstep.pure trivial
  | object cache =>
      unfold Resolver.ofScope LoopScope.readProperty
      refine Lockstep.bind (requireArguments_evolves _ _) fun _ _ => ?_
      refine Lockstep.get fun world other related => ?_
      rw [World.classMemberKind?_congr related.classes]
      refine Lockstep.bind (accessorFor_evolves cache _ _ property _) fun accessor _ => ?_
      apply LoopScope.readMember_lockstep
      · exact fun _ => trivial
      · exact fun _ _ => trivial
      · exact fun _ _ => From.classes
      · exact fun _ _ same => congrArg World.removed same.1
  | atomic mappings objects mappings_ih objects_ih =>
      unfold Resolver.ofScope
      refine Lockstep.bind (requireArguments_evolves _ _) fun _ _ => ?_
      exact mappings_ih (fun look asks => within look (.inl asks)) property
  | dotted segments ih =>
      unfold Resolver.ofScope
      refine Lockstep.bind (requireArguments_evolves _ _) fun _ _ => ?_
      exact followPath_evolves property (ih within) (ofValue_evolves restrained segments within)
  | custom look => exact look_evolves (within look rfl) restrained (.scope scope) property

/-- Whatever the resolver and the model are, a lookup does to the objects only what can happen to
them, if the user's own resolvers are restrained. -/
theorem getValue_evolves (restrained : resolver.Restrained) (model : Model) (path : String) :
    Evolving resolver start (resolver.getValue model path) := by
  cases model with
  | value subject => exact ofValue_evolves restrained resolver (fun _ asks => asks) subject path
  | scope scope => exact ofScope_evolves restrained resolver (fun _ asks => asks) scope path

/-- A lookup does to the objects what can happen to them, wherever it starts. -/
theorem World.Evolves.getValue (restrained : resolver.Restrained) {world : World}
    (evolves : World.Evolves resolver start world) (classes : world.classes = start.classes)
    (model : Model) (path : String) :
    World.Evolves resolver start ((resolver.getValue model path).run.run world).2 ∧
      ((resolver.getValue model path).run.run world).2.classes = start.classes := by
  have before : From resolver start world world := ⟨rfl, evolves, classes⟩
  obtain ⟨-, after, -⟩ := (getValue_evolves restrained model path).run_eq before
  exact after.2

end Lookups

end Stencil
