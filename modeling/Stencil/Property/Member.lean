/-
Module: Stencil.Property.Member
Purpose: Reading and running the members of objects and of built-in values.
Main exports: runMember, readMember, Member.value, Member.use, World.classMemberKind?,
  World.memberKind?
-/
import Stencil.Property.Error

namespace Stencil

/-- What is found at the name of a member: plain data, or something that has not been called yet. -/
inductive Member where
  | data (value : Value)
  | method (className : String) (identity : Nat) (name : String) (body : MemberBody)
  | builtin (subject : Value) (member : BuiltinMember)
deriving Inhabited

/-- Run a member of a class on an instance.  The run is counted whether or not it fails. -/
def runMember (className : String) (identity : Nat) (name : String) (body : MemberBody) :
    Lookup Value := do
  modify (·.noteRun className name)
  let effect := body identity (← get).toObjects
  modify fun world => { world with toObjects := world.toObjects.after effect }
  .ofRaised effect.result

/-- What a read comes to.  A failure that says that an attribute is missing counts as absent. -/
def readAsData (read : Lookup Value) : Lookup (Option Member) :=
  tryCatch (do pure (some (.data (← read))))
    fun failure => if failure.isAttribute then pure none else throw failure

/-- What an instance has under a name: a property of its class, else an attribute of its own, else a
method or attribute of its class. -/
def readObjectMember (className : String) (identity : Nat) (name : String) :
    Lookup (Option Member) := do
  let world ← get
  let info := world.classes.classOf className
  match info.properties.lookup name with
  | some body => readAsData (runMember className identity name body)
  | none =>
      match (world.attributesOf identity).lookup name with
      | some value => pure (some (.data value))
      | none =>
          match info.methods.lookup name with
          | some body => pure (some (.method className identity name body))
          | none => pure ((info.attributes.lookup name).map .data)

/-- What a value of a class that does not belong to the model has under a name. -/
def readBuiltinMember (subject : Value) (name : String) : Lookup (Option Member) := do
  match (← get).classes.builtinMember? subject name with
  | none => pure none
  | some member =>
      match member.kind with
      | .call => pure (some (.builtin subject member))
      | .data => readAsData (.ofRaised (member.run subject))

/-- What a value has under a name. -/
def readMember (subject : Value) (name : String) : Lookup (Option Member) :=
  match subject with
  | .object className identity => readObjectMember className identity name
  | _ => readBuiltinMember subject name

namespace Member

/-- A member as a value, without calling it. -/
def value : Member → Value
  | data value => value
  | method _ _ _ _ => .handle "builtins" "method"
  | builtin _ _ => .handle "builtins" "builtin_function_or_method"

/-- Call a member if it can be called; other data stands for itself. -/
def use : Member → Lookup Value
  | data (.function result) => pure result
  | data value => pure value
  | method className identity name body => runMember className identity name body
  | builtin subject member => do
      modify (·.noteTaken (member.takenFrom subject))
      .ofRaised (member.run subject)

end Member

/-- How a class says that a member is used.  An attribute that is null counts as absent. -/
def ClassInfo.memberKind? (info : ClassInfo) (name : String) : Option MemberKind :=
  if (info.properties.lookup name).isSome then some .data
  else if (info.methods.lookup name).isSome then some .call
  else
    match info.attributes.lookup name with
    | some .null | none => none
    | some (.function _) => some .call
    | some _ => some .data

/-- The methods of a loop scope that the engine itself has given it. -/
def LoopScope.memberKind? (name : String) : Option MemberKind :=
  if ["child", "get", "items", "keys", "values"].contains name then some .call else none

/-- How a class says that a member is used, given the module and the name of the class. -/
def Classes.memberKind? (classes : Classes) (moduleName typeName name : String) :
    Option MemberKind :=
  if moduleName = "model" then (classes.class? typeName).bind (·.memberKind? name)
  else
    let builtin? := (classes.builtin (moduleName ++ "." ++ typeName)).members.lookup name
    if moduleName = "elt.template.compiler" ∧ typeName = "LoopScope" then
      (LoopScope.memberKind? name).or (builtin?.map (·.kind))
    else builtin?.map (·.kind)

/-- How a class says that a member is used, given the module and the name of the class. -/
def World.classMemberKind? (world : World) (moduleName typeName name : String) :
    Option MemberKind :=
  world.classes.memberKind? moduleName typeName name

/-- How the class of a value says that a member is used. -/
def World.memberKind? (world : World) (subject : Value) (name : String) : Option MemberKind :=
  world.classMemberKind? subject.moduleName subject.typeName name

end Stencil
