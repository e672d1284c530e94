/-
Module: Stencil.Property.Scope
Purpose: Loop variables laid over a model that is no mapping.
Main exports: LoopScope, LoopScope.child, LoopScope.bind, Model, Model.shadow, Model.bind
-/
import Stencil.Model.World
import Stencil.Value.Equality

namespace Stencil

/-- The variables of the enclosing loops over a model that is no mapping.  A name is looked up among
the variables first, and then in the model. -/
structure LoopScope where
  base : Value
  bindings : List (String × Value) := []
deriving Repr, Inhabited, BEq

namespace LoopScope

/-- The scope of a loop inside this one.  It starts with the same variables; from then on neither
sees what is bound in the other. -/
def child (scope : LoopScope) : LoopScope :=
  scope

/-- Bind a variable. -/
def bind (scope : LoopScope) (name : String) (value : Value) : LoopScope :=
  { scope with bindings := bindName scope.bindings name value }

/-- The value of a variable. -/
def bound? (scope : LoopScope) (name : String) : Option Value :=
  scope.bindings.lookup name

/-- The names of the variables, in the order in which they were first bound. -/
def names (scope : LoopScope) : List String :=
  scope.bindings.map (·.1)

/-- The variables as entries of a mapping. -/
def entries (scope : LoopScope) : List (Value × Value) :=
  scope.bindings.map fun binding => (.text binding.1, binding.2)

/-- The scope when variables have been taken out. -/
def without (scope : LoopScope) (removed : List String) : LoopScope :=
  { scope with bindings := scope.bindings.filter fun binding => !removed.contains binding.1 }

end LoopScope

/-- What properties are looked up in: a value, or loop variables over a value. -/
inductive Model where
  | value (value : Value)
  | scope (scope : LoopScope)
deriving Repr, Inhabited, BEq

namespace Model

/-- The name of the class of a model. -/
def typeName : Model → String
  | value subject => subject.typeName
  | scope _ => "LoopScope"

/-- Whether there is no model. -/
def isNull : Model → Bool
  | value subject => subject.isNull
  | scope _ => false

/-- The model when variables of the loop have been taken out. -/
def without : Model → List String → Model
  | value subject, _ => value subject
  | scope outer, removed => scope (outer.without removed)

/-- The model inside a loop: a copy of a mapping, a child of a loop scope, and over anything else a
new loop scope. -/
def shadow : Model → Model
  | value (.map entries) => value (.map entries)
  | value base => scope ⟨base, []⟩
  | scope outer => scope outer.child

/-- Bind a loop variable in the model of a loop. -/
def bind (model : Model) (name : String) (item : Value) : Model :=
  match model with
  | value (.map entries) => value (.map (Value.bind entries name item))
  | value base => scope (LoopScope.bind ⟨base, []⟩ name item)
  | scope inner => scope (inner.bind name item)

end Model

end Stencil
