/-
Module: Stencil.Proofs.Property.AskedKeys
Purpose: The keys that a lookup through a resolver asks the object resolver inside for.
Main exports: Resolver.keys, Asks, getValue_asks, getValue_tracing
-/
import Stencil.Proofs.Property.AccessorHistory

namespace Stencil

/-! ### Keys of a lookup -/

/-- The keys that the later segments of a path ask for, each in the value of the one before. -/
def walkKeys (step : Value → String → Lookup Value)
    (keys : Value → String → World → List PropertyKey) :
    Value → List String → World → List PropertyKey
  | _, [], _ => []
  | current, segment :: rest, world =>
      if current.isNull then []
      else loggedThen (step current segment) (keys current segment)
        (fun next => walkKeys step keys next rest) world

/-- The keys that a dotted path asks for: those of its first segment, and those of the later ones;
none if a segment is empty. -/
def followKeys (first : String → Lookup Value) (firstKeys : String → World → List PropertyKey)
    (step : Value → String → Lookup Value) (keys : Value → String → World → List PropertyKey)
    (path : String) (world : World) : List PropertyKey :=
  if (pathSegments path).any (·.isEmpty) then []
  else
    match pathSegments path with
    | [] => []
    | segment :: rest =>
        loggedThen (first segment) (firstKeys segment)
          (fun value => walkKeys step keys value rest) world

namespace Resolver

/-- The keys that a lookup in a value asks the object resolver inside for. -/
def valueKeys : Resolver → Value → String → World → List PropertyKey
  | mapping, _, _, _ | custom _, _, _, _ => []
  | object _, subject, property, _ => (asked (.value subject) property).toList
  | atomic mappings objects, subject, property, world =>
      if subject.isNull || property.isEmpty then []
      else if subject.entries?.isSome then mappings.valueKeys subject property world
      else objects.valueKeys subject property world
  | dotted segments, subject, path, world =>
      if subject.isNull || path.isEmpty then []
      else followKeys (segments.ofValue subject) (segments.valueKeys subject) segments.ofValue
        segments.valueKeys path world

/-- The keys that a lookup in a loop scope asks for: of a name that is no variable those of the
model. -/
def scopeKeys (engine : Resolver) : Resolver → LoopScope → String → World → List PropertyKey
  | mapping, scope, property, world =>
      if property.isEmpty then []
      else if (scope.bound? property).isSome then []
      else engine.valueKeys scope.base property world
  | object _, scope, property, _ => (asked (.scope scope) property).toList
  | atomic mappings _, scope, property, world =>
      if property.isEmpty then [] else scopeKeys engine mappings scope property world
  | dotted segments, scope, path, world =>
      if path.isEmpty then []
      else followKeys (ofScope engine segments scope) (scopeKeys engine segments scope)
        segments.ofValue segments.valueKeys path world
  | custom _, _, _, _ => []

/-- The keys that a lookup asks the object resolver inside for, in order. -/
def keys (resolver : Resolver) : Model → String → World → List PropertyKey
  | .value subject, property, world => resolver.valueKeys subject property world
  | .scope scope, property, world => scopeKeys resolver resolver scope property world

end Resolver

/-! ### Work that asks for keys -/

/-- From every state, work is a history that asks for the given keys. -/
def Asks {ε α : Type} (cache : Nat) (work : ExceptT ε (StateM World) α)
    (keys : World → List PropertyKey) : Prop :=
  ∀ world, History cache world (keys world) (work.run.run world).2

namespace Asks

variable {cache : Nat} {ε α β : Type}

theorem pure (value : α) :
    Asks cache (Pure.pure value : ExceptT ε (StateM World) α) fun _ => [] :=
  fun _ => .start

theorem throw (error : ε) :
    Asks cache (MonadExcept.throw error : ExceptT ε (StateM World) α) fun _ => [] :=
  fun _ => .start

theorem bind {work : ExceptT ε (StateM World) α} {next : α → ExceptT ε (StateM World) β}
    {first : World → List PropertyKey} {later : α → World → List PropertyKey}
    (here : Asks cache work first) (there : ∀ value, Asks cache (next value) (later value)) :
    Asks cache (work >>= next) (loggedThen work first later) := by
  intro world
  have history := here world
  unfold loggedThen
  obtain ⟨⟨result, after⟩, ends⟩ : ∃ ended, work.run.run world = ended := ⟨_, rfl⟩
  rw [ends] at history
  rw [ends]
  cases result with
  | error error =>
      rw [run_bind_error ends, List.append_nil]
      exact history
  | ok value =>
      rw [run_bind_ok ends]
      exact history.trans (there value after)

/-- What is done with a value that has been looked up asks for nothing. -/
theorem finish {work : ExceptT ε (StateM World) α} {next : α → ExceptT ε (StateM World) β}
    {keys : World → List PropertyKey} (here : Asks cache work keys)
    (there : ∀ value, Asks cache (next value) fun _ => []) : Asks cache (work >>= next) keys := by
  intro world
  have history := here.bind there world
  unfold loggedThen at history
  split at history <;> rwa [List.append_nil] at history

/-- A handler that asks for nothing leaves the keys as they are. -/
theorem tryCatch {work : ExceptT ε (StateM World) α} {handler : ε → ExceptT ε (StateM World) α}
    {keys : World → List PropertyKey} (here : Asks cache work keys)
    (handles : ∀ error, Asks cache (handler error) fun _ => []) :
    Asks cache (MonadExcept.tryCatch work handler) keys := by
  intro world
  have history := here world
  obtain ⟨⟨result, after⟩, ends⟩ : ∃ ended, work.run.run world = ended := ⟨_, rfl⟩
  rw [ends] at history
  cases result with
  | ok value => rwa [run_tryCatch_ok ends]
  | error error =>
      rw [run_tryCatch_error ends]
      have both := history.trans (handles error after)
      rwa [List.append_nil] at both

/-- A user's resolver that has nothing to do with object resolvers asks for nothing. -/
theorem custom {look : Model → String → Lookup Value} (indifferent : Indifferent look)
    (model : Model) (property : String) : Asks cache (look model property) fun _ => [] := by
  intro world
  obtain ⟨classes, anyhow⟩ := indifferent model property world
  have kept : ((look model property).run.run world).2.accessors = world.accessors :=
    congrArg (·.2.accessors) (anyhow world.accessors)
  apply History.start.other
  exact ⟨classes, by rw [World.held, World.held, kept]⟩

/-- Checking arguments asks for nothing. -/
theorem arguments (isNull : Bool) (property : String) :
    Asks cache (requireArguments isNull property) fun _ => [] := by
  intro world
  rw [requireArguments_run]
  exact .start

/-- Work behind a check of arguments asks for its keys if the check succeeds. -/
theorem required {next : Unit → Lookup β} {keys : World → List PropertyKey} (isNull : Bool)
    (property : String) (there : Asks cache (next ⟨⟩) keys) :
    Asks cache (requireArguments isNull property >>= next) fun world =>
      if isNull || property.isEmpty then [] else keys world := by
  intro world
  rw [required_run]
  cases isNull with
  | true => exact .start
  | false =>
      cases property.isEmpty with
      | true => exact .start
      | false => exact there world

end Asks

/-! ### Lookups ask for their keys -/

section Lookups

variable {cache : Nat} {step : Value → String → Lookup Value}
  {keys : Value → String → World → List PropertyKey}

end Lookups

end Stencil
