/-
Module: Stencil.Model.World
Purpose: Classes, their instances, streams, and everything about them that changes.
Main exports: Raised, Objects, MemberBody, ClassInfo, BuiltinClass, Classes, World
-/
import Stencil.Number.DigitLimit
import Stencil.Value.Basic

namespace Stencil

/-- An exception from outside the engine: a member of a class raises it, or the conversion of a number.
It is told apart by its class and the classes above it. -/
structure Raised where
  /-- The names of the class and of those above it, the nearest one first. -/
  lineage : List String
  text : String
deriving Repr, Inhabited, DecidableEq

namespace Raised

/-- The name of the class of an exception. -/
def className (raised : Raised) : String :=
  raised.lineage.headD "Exception"

/-- Whether an exception belongs to a class. -/
def isA (raised : Raised) (className : String) : Bool :=
  raised.lineage.contains className

end Raised

/-- The exception that too many digits are. -/
def DigitFault.raised (fault : DigitFault) : Raised where
  lineage := ["ValueError", "Exception"]
  text := fault.message

/-- What can change about the objects of a model.  Instances and streams are known by their place in
the list. -/
structure Objects where
  /-- The attributes of each instance. -/
  instances : List (List (String × Value)) := []
  /-- The elements that each stream still holds. -/
  streams : List (List Value) := []
  /-- The streams that fail behind their last element, with what they raise. -/
  breaks : List (Nat × Raised) := []
deriving Repr, Inhabited

/-- What a run of a member comes to: it gives a value or raises an exception, and it may change
instances, take elements from streams and make new streams. -/
structure Effect where
  result : Except Raised Value
  /-- The attributes of each instance afterwards. -/
  instances : List (List (String × Value))
  /-- How many elements have been taken from each stream. -/
  taken : Nat → Nat := fun _ => 0
  /-- The new streams, behind those that there are. -/
  made : List (List Value) := []
  /-- What new streams raise behind their last elements. -/
  failing : List (Nat × Raised) := []
deriving Inhabited

/-- What a member of a class does when it runs on the instance with a given identity. -/
abbrev MemberBody := Nat → Objects → Effect

/-- A class: methods run when they are called, properties run when they are read, and attributes
are plain data shared by all instances. -/
structure ClassInfo where
  name : String
  methods : List (String × MemberBody) := []
  properties : List (String × MemberBody) := []
  attributes : List (String × Value) := []
  /-- The text of an instance where it stands alone. -/
  text : Nat → Objects → Except Raised String := fun _ _ => .ok ("<" ++ name ++ ">")
  /-- The form of an instance inside a collection. -/
  shown : Nat → Objects → Except Raised String := text
deriving Inhabited

/-- How a member is used: called, or read as it is. -/
inductive MemberKind where
  | call
  | data
deriving Repr, Inhabited, DecidableEq

/-- A member of a class that does not belong to the model, and what it does with a value of the
class. -/
structure BuiltinMember where
  kind : MemberKind
  run : Value → Except Raised Value
  /-- The names that it takes out of the variables of a loop if it runs on them. -/
  takes : List (Value × Value) → List String := fun _ => []
deriving Inhabited

/-- The names of the variables that a member takes out of a value.  It takes nothing out of values
that are no variables of a loop. -/
def BuiltinMember.takenFrom (member : BuiltinMember) : Value → List String
  | .bindings entries => member.takes entries
  | _ => []

/-- A class that does not belong to the model: its members, and the forms of its values if the engine
knows none. -/
structure BuiltinClass where
  members : List (String × BuiltinMember) := []
  /-- The text of a value where it stands alone. -/
  text : Value → Except Raised String := fun value => .ok ("<" ++ value.typeName ++ ">")
  /-- The form of a value inside a collection. -/
  shown : Value → Except Raised String := text
deriving Inhabited

/-- The classes of the model, and all others by the names of their modules and their own. -/
structure Classes where
  own : List ClassInfo := []
  builtin : String → BuiltinClass := fun _ => {}
deriving Inhabited

/-- How a property is read from all instances of a class. -/
structure Accessor where
  kind : MemberKind
  member : String
deriving Repr, Inhabited, DecidableEq

/-- An accessor that an object resolver remembers, or that it found none.  A class is known by its
module and its name. -/
structure RememberedAccessor where
  cache : Nat
  moduleName : String
  typeName : String
  property : String
  accessor : Option Accessor
deriving Repr, Inhabited, DecidableEq

/-- The state that lookups work on.  Classes are fixed.  Every run of a member is counted. -/
structure World extends Objects where
  classes : Classes := {}
  calls : List ((String × String) × Nat) := []
  accessors : List RememberedAccessor := []
  /-- The names that have been taken out of the variables of the loop under way. -/
  removed : List String := []
deriving Inhabited

/-- Put a value at a name, keeping the place of a name that is there. -/
def bindName {α : Type} : List (String × α) → String → α → List (String × α)
  | [], name, value => [(name, value)]
  | (present, old) :: rest, name, value =>
      if present = name then (present, value) :: rest
      else (present, old) :: bindName rest name value

/-- Count one more run of a member. -/
def countRun : List ((String × String) × Nat) → String × String → List ((String × String) × Nat)
  | [], member => [(member, 1)]
  | (present, runs) :: rest, member =>
      if present = member then (present, runs + 1) :: rest
      else (present, runs) :: countRun rest member

namespace Objects

/-- The attributes of an instance. -/
def attributesOf (objects : Objects) (identity : Nat) : List (String × Value) :=
  objects.instances[identity]?.getD []

/-- The instances when an attribute of one of them has been stored. -/
def storing (objects : Objects) (identity : Nat) (name : String) (value : Value) :
    List (List (String × Value)) :=
  objects.instances.set identity (bindName (objects.attributesOf identity) name value)

/-- The objects after a run of a member. -/
def after (objects : Objects) (effect : Effect) : Objects where
  instances := effect.instances
  streams := (objects.streams.mapIdx fun identity items => items.drop (effect.taken identity))
    ++ effect.made
  breaks := objects.breaks ++ effect.failing

end Objects

namespace Effect

/-- A value, and nothing else. -/
def giving (value : Value) (objects : Objects) : Effect :=
  ⟨.ok value, objects.instances, fun _ => 0, [], []⟩

/-- An exception, and nothing else. -/
def raising (raised : Raised) (objects : Objects) : Effect :=
  ⟨.error raised, objects.instances, fun _ => 0, [], []⟩

end Effect

namespace Classes

/-- The class of the model with a name. -/
def class? (classes : Classes) (name : String) : Option ClassInfo :=
  classes.own.find? (·.name == name)

/-- The class of the model with a name; one that is not there has no members. -/
def classOf (classes : Classes) (name : String) : ClassInfo :=
  (classes.class? name).getD { name }

/-- The member of a value of a class that does not belong to the model. -/
def builtinMember? (classes : Classes) (subject : Value) (name : String) : Option BuiltinMember :=
  (classes.builtin subject.qualifiedName).members.lookup name

end Classes

namespace World

/-- The class of the model with a name. -/
def class? (world : World) (name : String) : Option ClassInfo :=
  world.classes.class? name

/-- Add an instance; its identity is returned with the new world. -/
def addInstance (world : World) (attributes : List (String × Value)) : Nat × World :=
  (world.instances.length, { world with instances := world.instances ++ [attributes] })

/-- Add a stream; its identity is returned with the new world. -/
def addStream (world : World) (items : List Value) : Nat × World :=
  (world.streams.length, { world with streams := world.streams ++ [items] })

/-- Count one more run of a member. -/
def noteRun (world : World) (className member : String) : World :=
  { world with calls := countRun world.calls (className, member) }

/-- The elements that a stream still holds. -/
def remaining (world : World) (identity : Nat) : List Value :=
  world.streams[identity]?.getD []

/-- Take the next element of a stream. -/
def takeNext (world : World) (identity : Nat) : Option (Value × World) :=
  match world.remaining identity with
  | [] => none
  | item :: rest => some (item, { world with streams := world.streams.set identity rest })

/-- What a stream raises behind its last element, if it fails there.  It fails once and is at its end
from then on. -/
def takeBreak (world : World) (identity : Nat) : Option (Raised × World) :=
  (world.breaks.lookup identity).map fun raised =>
    (raised, { world with breaks := world.breaks.filter (·.1 != identity) })

/-- What is remembered about a property of a class: nothing yet, or an accessor, or that there is
none. -/
def remembered? (world : World) (cache : Nat) (moduleName typeName property : String) :
    Option (Option Accessor) :=
  (world.accessors.find? fun entry =>
    entry.cache == cache && entry.moduleName == moduleName && entry.typeName == typeName
      && entry.property == property).map (·.accessor)

/-- Note what has been taken out of the variables of the loop under way. -/
def noteTaken (world : World) (names : List String) : World :=
  { world with removed := world.removed ++ names }

/-- Remember an accessor. -/
def remember (world : World) (entry : RememberedAccessor) : World :=
  { world with accessors := world.accessors ++ [entry] }

end World

end Stencil
