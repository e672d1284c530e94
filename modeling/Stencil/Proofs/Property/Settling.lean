/-
Module: Stencil.Proofs.Property.Settling
Purpose: Work whose result does not depend on what is counted and remembered about the objects, and
  the rules for putting such work together.
Main exports: World.memberKind?_eq, World.text_congr, World.Coherent, World.Alike, Settles, Settles.bind
-/
import Stencil.Model.Text
import Stencil.Proofs.Property.Lockstep

namespace Stencil

/-! ### Members by class -/

/-- The class of a value says how its members are used. -/
theorem World.memberKind?_eq (world : World) (subject : Value) :
    world.memberKind? subject = world.classMemberKind? subject.moduleName subject.typeName :=
  rfl

/-- Where the classes are the same, they say the same of their members. -/
theorem World.classMemberKind?_congr {world other : World}
    (classes : other.classes = world.classes) :
    other.classMemberKind? = world.classMemberKind? := by
  funext moduleName typeName name
  unfold World.classMemberKind?
  rw [classes]

/-- Values have the same texts where the classes and the objects are the same. -/
theorem World.text_congr {world other : World} (classes : other.classes = world.classes)
    (objects : other.toObjects = world.toObjects) : other.text = world.text := by
  funext value
  unfold World.text
  rw [classes, objects]

/-! ### Streams -/

/-- An element is taken from a stream if it is the first one that the stream still holds. -/
theorem World.takeNext_eq_some_iff {world after : World} {identity : Nat} {item : Value} :
    world.takeNext identity = some (item, after) ↔
      ∃ rest, world.remaining identity = item :: rest ∧
        after = { world with streams := world.streams.set identity rest } := by
  unfold World.takeNext
  cases world.remaining identity with
  | nil => simp
  | cons first rest =>
      simp only [Option.some.injEq, Prod.mk.injEq, List.cons.injEq]
      constructor
      · rintro ⟨rfl, rfl⟩
        exact ⟨rest, ⟨rfl, rfl⟩, rfl⟩
      · rintro ⟨_, ⟨rfl, rfl⟩, rfl⟩
        exact ⟨rfl, rfl⟩

theorem World.takeBreak_eq_some_iff {world after : World} {identity : Nat} {raised : Raised} :
    world.takeBreak identity = some (raised, after) ↔
      world.breaks.lookup identity = some raised ∧
        after = { world with breaks := world.breaks.filter (·.1 != identity) } := by
  unfold World.takeBreak
  cases world.breaks.lookup identity with
  | none => simp
  | some found => simp [eq_comm]

/-! ### What is remembered -/

theorem World.remembered?_remember (world : World) (entry : RememberedAccessor) (cache : Nat)
    (moduleName typeName property : String) :
    (world.remember entry).remembered? cache moduleName typeName property =
      (world.remembered? cache moduleName typeName property).or
        (if entry.cache = cache ∧ entry.moduleName = moduleName ∧ entry.typeName = typeName ∧
          entry.property = property then some entry.accessor else none) := by
  unfold World.remembered? World.remember
  rw [List.find?_append, Option.map_or]
  congr 1
  simp only [List.find?_cons, List.find?_nil, ← and_assoc]
  split <;> rename_i fits <;> simp_all

/-- Whatever a cache holds is what the class itself says. -/
def World.Coherent (world : World) (cache : Nat) : Prop :=
  ∀ entry ∈ world.accessors, entry.cache = cache →
    entry.accessor =
      chooseAccessor (world.classMemberKind? entry.moduleName entry.typeName) entry.property

/-- What a resolver has not remembered anything for is coherent. -/
theorem World.coherent_of_unused {world : World} {cache : Nat}
    (unused : ∀ entry ∈ world.accessors, entry.cache ≠ cache) : world.Coherent cache :=
  fun entry member same => absurd same (unused entry member)

/-- What is remembered in a coherent cache is what would be chosen anew. -/
theorem World.Coherent.remembered {world : World} {cache : Nat} (coherent : world.Coherent cache)
    {moduleName typeName property : String} {accessor : Option Accessor}
    (found : world.remembered? cache moduleName typeName property = some accessor) :
    accessor = chooseAccessor (world.classMemberKind? moduleName typeName) property := by
  obtain ⟨entry, present, rfl⟩ := Option.map_eq_some_iff.mp found
  have fits := List.find?_some present
  simp only [Bool.and_eq_true, beq_iff_eq] at fits
  obtain ⟨⟨⟨sameCache, rfl⟩, rfl⟩, rfl⟩ := fits
  exact coherent entry (List.mem_of_find?_eq_some present) sameCache

/-- Remembering what the class says keeps a cache coherent. -/
theorem World.Coherent.remember {world : World} {cache : Nat} (coherent : world.Coherent cache)
    (moduleName typeName property : String) :
    (world.remember ⟨cache, moduleName, typeName, property,
      chooseAccessor (world.classMemberKind? moduleName typeName) property⟩).Coherent cache := by
  intro entry member sameCache
  rcases List.mem_append.mp member with before | new
  · exact coherent entry before sameCache
  · obtain rfl := List.mem_singleton.mp new
    rfl

/-- An accessor that is found is the remembered one; a new one is remembered. -/
theorem accessorFor_run (cache : Nat) (moduleName typeName property : String)
    (memberKind? : String → Option MemberKind) (world : World) :
    (accessorFor cache moduleName typeName memberKind? property).run.run world =
      match world.remembered? cache moduleName typeName property with
      | some accessor => (.ok accessor, world)
      | none =>
          (.ok (chooseAccessor memberKind? property),
            world.remember ⟨cache, moduleName, typeName, property,
              chooseAccessor memberKind? property⟩) := by
  have seen : (get : Lookup World).run.run world = (.ok world, world) := rfl
  refine (run_bind_ok seen).trans ?_
  cases world.remembered? cache moduleName typeName property with
  | some accessor => rfl
  | none => rfl

/-- A coherent cache gives the accessor that the class says, and stays coherent. -/
theorem World.Coherent.accessorFor {world : World} {cache : Nat} (coherent : world.Coherent cache)
    (moduleName typeName property : String) :
    ∃ accessors,
      (accessorFor cache moduleName typeName (world.classMemberKind? moduleName typeName)
          property).run.run world =
        (.ok (chooseAccessor (world.classMemberKind? moduleName typeName) property),
          { world with accessors }) ∧
      ({ world with accessors } : World).Coherent cache := by
  rw [accessorFor_run]
  cases found : world.remembered? cache moduleName typeName property with
  | some accessor =>
      rw [coherent.remembered found]
      exact ⟨world.accessors, rfl, coherent⟩
  | none => exact ⟨_, rfl, coherent.remember moduleName typeName property⟩

/-- Two states of the objects that differ only in what has been counted and remembered. -/
structure World.Alike (cache : Nat) (world other : World) : Prop where
  classes : other.classes = world.classes
  objects : other.toObjects = world.toObjects
  coherent : other.Coherent cache

namespace World.Alike

variable {cache : Nat} {world other : World}

theorem refl (coherent : world.Coherent cache) : Alike cache world world :=
  ⟨rfl, rfl, coherent⟩

theorem text (alike : Alike cache world other) : other.text = world.text :=
  World.text_congr alike.classes alike.objects

theorem classMemberKind? (alike : Alike cache world other) :
    other.classMemberKind? = world.classMemberKind? :=
  World.classMemberKind?_congr alike.classes

theorem memberKind? (alike : Alike cache world other) :
    other.memberKind? = world.memberKind? := by
  funext subject name
  unfold World.memberKind?
  rw [alike.classMemberKind?]

/-- Counting a run changes nothing else. -/
theorem noteRun (alike : Alike cache world other) (className member : String) :
    Alike cache world (other.noteRun className member) :=
  ⟨alike.classes, alike.objects, alike.coherent⟩

/-- Noting what has been taken from the variables of a loop changes nothing else. -/
theorem noteTaken (alike : Alike cache world other) (names : List String) :
    Alike cache world (other.noteTaken names) :=
  ⟨alike.classes, alike.objects, alike.coherent⟩

end World.Alike

/-! ### Settled work -/

/-- Work has a result, and leaves the objects as they are, whatever has been counted and remembered
before. -/
def Settles {ε α : Type} (cache : Nat) (world : World) (work : ExceptT ε (StateM World) α)
    (result : Except ε α) : Prop :=
  ∀ before, World.Alike cache world before →
    ∃ after, work.run.run before = (result, after) ∧ World.Alike cache world after

namespace Settles

variable {ε ε' α β : Type} {cache : Nat} {world : World}

theorem pure (value : α) :
    Settles cache world (Pure.pure value : ExceptT ε (StateM World) α) (.ok value) :=
  fun before alike => ⟨before, rfl, alike⟩

theorem throw (error : ε) :
    Settles cache world (MonadExcept.throw error : ExceptT ε (StateM World) α) (.error error) :=
  fun before alike => ⟨before, rfl, alike⟩

/-- Work goes on with the result of what comes first. -/
theorem bind {work : ExceptT ε (StateM World) α} {next : α → ExceptT ε (StateM World) β}
    {value : α} {result : Except ε β} (first : Settles cache world work (.ok value))
    (second : Settles cache world (next value) result) :
    Settles cache world (work >>= next) result := by
  intro before alike
  obtain ⟨between, ran, alike'⟩ := first before alike
  obtain ⟨after, ran', alike''⟩ := second between alike'
  exact ⟨after, (run_bind_ok ran).trans ran', alike''⟩

/-- Work ends where it fails. -/
theorem bind_error {work : ExceptT ε (StateM World) α} {next : α → ExceptT ε (StateM World) β}
    {error : ε} (first : Settles cache world work (.error error)) :
    Settles cache world (work >>= next) (.error error) := by
  intro before alike
  obtain ⟨after, ran, alike'⟩ := first before alike
  exact ⟨after, run_bind_error ran, alike'⟩

/-- Work one after another has the results one after another. -/
theorem chain {work : ExceptT ε (StateM World) α} {next : α → ExceptT ε (StateM World) β}
    {first : Except ε α} {second : α → Except ε β} (here : Settles cache world work first)
    (later : ∀ value, first = .ok value → Settles cache world (next value) (second value)) :
    Settles cache world (work >>= next) (first >>= second) := by
  cases first with
  | error error => exact bind_error here
  | ok value => exact bind here (later value rfl)

/-- Looking at the objects is settled if what follows is, in whatever state they are. -/
theorem get {next : World → ExceptT ε (StateM World) β} {result : Except ε β}
    (second : ∀ before, World.Alike cache world before →
      Settles cache world (next before) result) :
    Settles cache world (MonadState.get >>= next) result := by
  intro before alike
  obtain ⟨after, ran, alike'⟩ := second before alike before alike
  exact ⟨after, ran, alike'⟩

theorem update {change : World → World}
    (keeps : ∀ before, World.Alike cache world before → World.Alike cache world (change before)) :
    Settles cache world (modify change : ExceptT ε (StateM World) PUnit) (.ok ⟨⟩) :=
  fun before alike => ⟨change before, rfl, keeps before alike⟩

/-- Work that does not fail needs no handler. -/
theorem tryCatch {work : ExceptT ε (StateM World) α} {handler : ε → ExceptT ε (StateM World) α}
    {value : α} (first : Settles cache world work (.ok value)) :
    Settles cache world (MonadExcept.tryCatch work handler) (.ok value) := by
  intro before alike
  obtain ⟨after, ran, alike'⟩ := first before alike
  exact ⟨after, run_tryCatch_ok ran, alike'⟩

/-- Work that fails goes on with its handler. -/
theorem tryCatch_error {work : ExceptT ε (StateM World) α}
    {handler : ε → ExceptT ε (StateM World) α} {error : ε} {result : Except ε α}
    (first : Settles cache world work (.error error))
    (second : Settles cache world (handler error) result) :
    Settles cache world (MonadExcept.tryCatch work handler) result := by
  intro before alike
  obtain ⟨between, ran, alike'⟩ := first before alike
  obtain ⟨after, ran', alike''⟩ := second between alike'
  exact ⟨after, (run_tryCatch_error ran).trans ran', alike''⟩

/-- Errors can be seen as errors of another kind. -/
theorem adapt {work : ExceptT ε (StateM World) α} {result : Except ε α} (as : ε → ε')
    (first : Settles cache world work result) :
    Settles cache world (ExceptT.adapt as work) (result.mapError as) := by
  intro before alike
  obtain ⟨after, ran, alike'⟩ := first before alike
  refine ⟨after, ?_, alike'⟩
  rw [ExceptT.run_adapt, StateT.run_map, ran]
  rfl

end Settles

end Stencil
