/-
Module: Stencil.Property.Resolver
Purpose: The ways to look a property up in a model.
Main exports: Resolver, Resolver.getValue, Resolver.requireValue, LoopScope.item, LoopScope.get
-/
import Stencil.Property.Member
import Stencil.Property.Scope
import Stencil.Text.LetterCase

namespace Stencil

/-- A way to look properties up.  Each object resolver remembers accessors in a cache of its own. -/
inductive Resolver where
  /-- By key, in mappings. -/
  | mapping
  /-- By getters and attributes. -/
  | object (cache : Nat)
  /-- Mappings in one way, all else in another. -/
  | atomic (mappings objects : Resolver)
  /-- Dotted paths, segment by segment. -/
  | dotted (segments : Resolver)
  /-- In a way of its own, which the user of the engine has written.  What it remembers for itself is
  an instance. -/
  | custom (look : Model → String → Lookup Value)
deriving Inhabited

/-- The segments of a dotted path. -/
def pathSegments (path : String) : List String :=
  (path.toList.splitOn '.').map String.ofList

/-- The segments joined by dots. -/
def joinPath (segments : List String) : String :=
  ".".intercalate segments

/-- The getters that serve a property, the preferred one first: `getName` and `get_name` for
`name`. -/
def getterNames (property : String) : List String :=
  let capitalised :=
    match property.toList with
    | first :: rest => Text.upperCharacter first ++ rest
    | [] => []
  ["get" ++ String.ofList capitalised, "get_" ++ property]

/-- Choose an accessor for a property, given how the class uses its members: a getter that can be
called, else the member of that name. -/
def chooseAccessor (memberKind? : String → Option MemberKind) (property : String) :
    Option Accessor :=
  match (getterNames property).find? fun getter => memberKind? getter == some .call with
  | some getter => some ⟨.call, getter⟩
  | none => (memberKind? property).map fun kind => ⟨kind, property⟩

/-- The accessor for a property of a class: the remembered one, else a new one, which is
remembered. -/
def accessorFor (cache : Nat) (moduleName typeName : String)
    (memberKind? : String → Option MemberKind) (property : String) :
    Lookup (Option Accessor) := do
  match (← get).remembered? cache moduleName typeName property with
  | some accessor => pure accessor
  | none => do
      let accessor := chooseAccessor memberKind? property
      modify (·.remember ⟨cache, moduleName, typeName, property, accessor⟩)
      pure accessor

/-- Read a property of a value through its accessor.  Without an accessor the property is looked for
among the attributes of the instance.  What is absent is null. -/
def readProperty (cache : Nat) (subject : Value) (property : String) : Lookup Value := do
  let world ← get
  let accessor ←
    accessorFor cache subject.moduleName subject.typeName (world.memberKind? subject) property
  let name := (accessor.map (·.member)).getD property
  match ← readMember subject name with
  | none => pure .null
  | some member =>
      match accessor with
      | some ⟨.call, _⟩ => member.use
      | _ => pure member.value

/-- A loop scope as what the members are read from that it has in common with other objects. -/
def LoopScope.parts (scope : LoopScope) : Value :=
  .tuple [scope.base, .map scope.entries]

/-- The members of a loop scope as an object, methods being called. -/
def LoopScope.memberOf (scope : LoopScope) (name : String) : Lookup Value :=
  match name with
  | "base" => pure scope.base
  | "bindings" => pure (.bindings scope.entries)
  | "resolver" => pure (.handle "resolver" "PropertyResolver")
  | "child" => pure (.handle "elt.template.compiler" "LoopScope")
  | "keys" => pure (.view "KeysView" (scope.names.map .text))
  | "values" => pure (.view "ValuesView" (scope.bindings.map (·.2)))
  | "items" =>
      pure (.view "ItemsView"
        (scope.bindings.map fun binding => .tuple [.text binding.1, binding.2]))
  | "get" => throw (.argumentMissing "Mapping.get" "key")
  | _ => do
      match (← get).classes.builtin "elt.template.compiler.LoopScope" |>.members.lookup name with
      | none => pure .null
      | some member =>
          let read := Lookup.ofRaised (member.run scope.parts)
          match member.kind with
          | .call => read
          | .data => do pure (((← readAsData read).map (·.value)).getD .null)

/-- The members of a loop scope as it is now. -/
def LoopScope.readMember (scope : LoopScope) (name : String) : Lookup Value := do
  (scope.without (← get).removed).memberOf name

/-- Look a property of a loop scope up as if it were any object.  Loop scopes have no getters, so that
the accessor for a property is the member of its name. -/
def LoopScope.readProperty (cache : Nat) (scope : LoopScope) (property : String) :
    Lookup Value := do
  let memberKind? := (← get).classMemberKind? "elt.template.compiler" "LoopScope"
  let _ ← accessorFor cache "elt.template.compiler" "LoopScope" memberKind? property
  scope.readMember property

/-- Look the later segments of a path up, each in the value of the one before.  `done` are the
segments that led to `current`, in reverse. -/
def walkPath (step : Value → String → Lookup Value) (path : String) :
    List String → Value → List String → Lookup Value
  | _, current, [] => pure current
  | done, current, segment :: rest => do
      if current.isNull then throw (.nullIntermediate (joinPath done.reverse) path)
      let next ← step current segment
      walkPath step path (segment :: done) next rest

/-- Look a dotted path up: `first` looks the first segment up, `step` each later one.  A path with an
empty segment is refused before any lookup. -/
def followPath (first : String → Lookup Value) (step : Value → String → Lookup Value)
    (path : String) : Lookup Value := do
  let segments := pathSegments path
  if segments.any (·.isEmpty) then throw (.invalidPath path)
  match segments with
  | [] => throw (.invalidPath path)
  | segment :: rest => do
      let value ← first segment
      walkPath step path [segment] value rest

namespace Resolver

/-- Look a property up in a value.  Null stands for a property that is absent. -/
def ofValue : Resolver → Value → String → Lookup Value
  | mapping, subject, property => do
      requireArguments subject.isNull property
      match subject.entries? with
      | some entries => pure ((Value.get? entries property).getD .null)
      | none => throw (.notMapping subject.typeName)
  | object cache, subject, property => do
      requireArguments subject.isNull property
      readProperty cache subject property
  | atomic mappings objects, subject, property => do
      requireArguments subject.isNull property
      if subject.entries?.isSome then mappings.ofValue subject property
      else objects.ofValue subject property
  | dotted segments, subject, path => do
      requireArguments subject.isNull path
      followPath (segments.ofValue subject) segments.ofValue path
  | custom look, subject, property => look (.value subject) property

end Resolver

/-- What a loop scope has at a key: a variable, else what the model has.  Null in the model counts as
absent. -/
def LoopScope.item (engine : Resolver) (scope : LoopScope) (key : String) : Lookup Value := do
  match scope.bound? key with
  | some value => pure value
  | none => do
      let value ← engine.ofValue scope.base key
      if value.isNull then throw (.noKey key) else pure value

/-- As `LoopScope.item`, but a missing key gives nothing, whoever says that it is missing. -/
def LoopScope.get (engine : Resolver) (scope : LoopScope) (key : String) :
    Lookup (Option Value) :=
  tryCatch (do pure (some (← scope.item engine key)))
    fun failure => if failure.isKey then pure none else throw failure

namespace Resolver

/-- Look a property up in a loop scope, which counts as a mapping.  `engine` is the resolver that the
scope itself looks the model's names up with. -/
def ofScope (engine : Resolver) : Resolver → LoopScope → String → Lookup Value
  | mapping, scope, property => do
      requireArguments false property
      pure ((← scope.get engine property).getD .null)
  | object cache, scope, property => do
      requireArguments false property
      scope.readProperty cache property
  | atomic mappings _, scope, property => do
      requireArguments false property
      ofScope engine mappings scope property
  | dotted segments, scope, path => do
      requireArguments false path
      followPath (ofScope engine segments scope) segments.ofValue path
  | custom look, scope, property => look (.scope scope) property

/-- Look a property up in a model. -/
def getValue (resolver : Resolver) : Model → String → Lookup Value
  | .value subject, property => resolver.ofValue subject property
  | .scope scope, property => resolver.ofScope resolver scope property

/-- As `getValue`, but null is a failure. -/
def requireValue (resolver : Resolver) (model : Model) (property : String) : Lookup Value := do
  requireArguments model.isNull property
  let value ← resolver.getValue model property
  if value.isNull then throw (.missingValue model.typeName property) else pure value

/-- Whether a resolver looks into loop scopes by key, as it does with mappings.  Other resolvers may get
at the mapping in which a scope keeps its variables. -/
def seesVariables : Resolver → Bool
  | mapping => true
  | atomic mappings _ => mappings.seesVariables
  | dotted segments => segments.seesVariables
  | object _ | custom _ => false

/-- The cache of the object resolver that a resolver passes plain objects to. -/
def objectCache? : Resolver → Option Nat
  | object cache => some cache
  | atomic _ objects => objects.objectCache?
  | dotted segments => segments.objectCache?
  | _ => none

/-- The usual resolver: dotted paths, mappings by key, and all else as objects. -/
def standard (cache : Nat) : Resolver :=
  dotted (atomic mapping (object cache))

end Resolver

end Stencil
