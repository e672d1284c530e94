/-
Module: Stencil.Proofs.Property.Overlay
Purpose: Lookups of single names as equations: in a mapping, in any other value, and in a loop
  scope, where a missing key of the value under it counts as null.
Main exports: segments_map, segments_property, standard_value, standard_scope, ofScope_unbound
-/
import Stencil.Proofs.Property.Environment

namespace Stencil

variable {cache : Nat}

theorem requireArguments_given {property : String} (given : property ≠ "") :
    requireArguments false property = pure () := by
  have solid : property.isEmpty = false := by simpa using given
  unfold requireArguments
  rw [solid]
  rfl

/-- A name is looked up in a mapping by key. -/
theorem segments_entries {subject : Value} {entries : List (Value × Value)} {name : String}
    (isMap : subject.entries? = some entries) (given : name ≠ "") :
    (Resolver.segments cache).ofValue subject name =
      pure ((Value.get? entries name).getD .null) := by
  have notNull : subject.isNull = false := by
    cases subject with
    | null => cases isMap
    | _ => rfl
  have arguments := requireArguments_given given
  simp only [Resolver.ofValue, notNull, isMap, arguments, pure_bind, Option.isSome_some, if_true]

theorem segments_map {entries : List (Value × Value)} {name : String} (given : name ≠ "") :
    (Resolver.segments cache).ofValue (.map entries) name =
      pure ((Value.get? entries name).getD .null) :=
  segments_entries rfl given

/-- A name is looked up in all else as a property. -/
theorem segments_property {subject : Value} {name : String} (notNull : subject.isNull = false)
    (noMap : subject.entries? = none) (given : name ≠ "") :
    (Resolver.segments cache).ofValue subject name = readProperty cache subject name := by
  have arguments := requireArguments_given given
  simp only [Resolver.ofValue, notNull, noMap, arguments, pure_bind, Option.isSome_none,
    Bool.false_eq_true, if_false]

theorem getValue_value (resolver : Resolver) (subject : Value) (path : String) :
    resolver.getValue (.value subject) path = resolver.ofValue subject path :=
  rfl

/-- A path is followed from a value. -/
theorem standard_value (subject : Value) (path : String) :
    (Resolver.standard cache).ofValue subject path =
      (do
        requireArguments subject.isNull path
        followPath ((Resolver.segments cache).ofValue subject)
          (Resolver.segments cache).ofValue path) :=
  rfl

/-- A path is followed from a loop scope. -/
theorem standard_scope (scope : LoopScope) (path : String) :
    (Resolver.standard cache).getValue (.scope scope) path =
      (do
        requireArguments false path
        followPath (Resolver.ofScope (Resolver.standard cache) (Resolver.segments cache) scope)
          (Resolver.segments cache).ofValue path) :=
  rfl

/-- A path of one segment is looked up like the segment. -/
theorem standard_single {subject : Value} {name : String} (notNull : subject.isNull = false)
    (given : name ≠ "") (single : pathSegments name = [name]) :
    (Resolver.standard cache).ofValue subject name =
      (Resolver.segments cache).ofValue subject name := by
  have solid : name.isEmpty = false := by simpa using given
  rw [standard_value, notNull, requireArguments_given given, pure_bind]
  unfold followPath
  simp only [single, List.any_cons, List.any_nil, solid, Bool.or_false, Bool.false_eq_true,
    if_false]
  exact bind_pure _

/-- A key that is said to be missing counts as null. -/
def keyAsNull (failure : LookupError) : Lookup Value :=
  if failure.isKey then pure .null else throw failure

/-- At the name of a variable a loop scope has the variable. -/
theorem ofScope_bound {engine : Resolver} {scope : LoopScope} {name : String} {value : Value}
    (given : name ≠ "") (bound : scope.bound? name = some value) :
    Resolver.ofScope engine (Resolver.segments cache) scope name = pure value := by
  have item : scope.item engine name = pure value := by
    unfold LoopScope.item
    rw [bound]
  rw [Resolver.ofScope, requireArguments_given given, pure_bind, Resolver.ofScope,
    requireArguments_given given, pure_bind, LoopScope.get, item]
  rfl

/-- At any other name it has what the value under it has. -/
theorem ofScope_unbound {engine : Resolver} {scope : LoopScope} {name : String} (given : name ≠ "")
    (unbound : scope.bound? name = none) :
    Resolver.ofScope engine (Resolver.segments cache) scope name =
      tryCatch (engine.ofValue scope.base name) keyAsNull := by
  rw [Resolver.ofScope, requireArguments_given given, pure_bind, Resolver.ofScope,
    requireArguments_given given, pure_bind, LoopScope.get, LoopScope.item, unbound]
  refine ExceptT.ext (StateT.ext fun world => ?_)
  rcases looked : (engine.ofValue scope.base name).run.run world with ⟨error | value, after⟩
  · simp only [ExceptT.run_bind, ExceptT.run_tryCatch, StateT.run_bind, looked, keyAsNull]
    show ((if error.isKey then pure none else throw error : Lookup (Option Value)) >>= fun found =>
        pure (found.getD .null)).run.run after =
      (if error.isKey then pure .null else throw error : Lookup Value).run.run after
    cases error.isKey with
    | true => rfl
    | false => rfl
  · simp only [ExceptT.run_bind, ExceptT.run_tryCatch, StateT.run_bind, looked]
    -- A null in the model is taken for a missing key inside the scope, and for null outside of it.
    cases value with
    | null => rfl
    | _ => rfl

end Stencil
