/-
Module: Stencil.Proofs.Property.BuiltIn
Purpose: Values that are made of built-in classes: what can be read from them, and how they are written
  down.
Main exports: Value.BuiltIn, World.Obliging, World.Obliging.text, builtin_lookups
-/
import Stencil.Proofs.Property.Lookups
import Stencil.Proofs.Property.Texts

namespace Stencil

mutual

/-- A value without instances of a model's classes in it, at any depth. -/
def Value.BuiltIn : Value → Prop
  | .list items | .tuple items | .set items | .view _ items => Value.AllBuiltIn items
  | .map entries | .bindings entries => Value.EntriesBuiltIn entries
  | .function result => result.BuiltIn
  | .object _ _ => False
  | _ => True

def Value.AllBuiltIn : List Value → Prop
  | [] => True
  | item :: rest => item.BuiltIn ∧ Value.AllBuiltIn rest

def Value.EntriesBuiltIn : List (Value × Value) → Prop
  | [] => True
  | (key, value) :: rest => key.BuiltIn ∧ value.BuiltIn ∧ Value.EntriesBuiltIn rest

end

theorem Value.EntriesBuiltIn.get? {entries : List (Value × Value)} {key : String} {value : Value}
    (builtin : Value.EntriesBuiltIn entries) (found : Value.get? entries key = some value) :
    value.BuiltIn := by
  fun_induction Value.get? entries key with
  | case1 => cases found
  | case2 =>
      cases found
      exact builtin.2.1
  | case3 _ _ _ _ ih => exact ih builtin.2.2 found
  | case4 _ _ _ ih => exact ih builtin.2.2 found

theorem Value.BuiltIn.entries {subject : Value} {entries : List (Value × Value)}
    (builtin : subject.BuiltIn) (isMap : subject.entries? = some entries) :
    Value.EntriesBuiltIn entries := by
  cases subject with
  | map | bindings =>
      cases isMap
      exact builtin
  | _ => cases isMap

/-- An exception that is about the digits of an integer. -/
def Raised.OfDigits (raised : Raised) : Prop :=
  ∃ fault : DigitFault, raised = fault.raised

/-- In the classes that do not belong to the model, members of values made of such classes give such
values, and the values are written down. -/
structure World.Obliging (world : World) : Prop where
  members : ∀ (subject : Value) name member, subject.BuiltIn →
    world.classes.builtinMember? subject name = some member →
      ∃ value, member.run subject = .ok value ∧ value.BuiltIn
  texts : ∀ (className : String) (value : Value), value.BuiltIn →
    Writes Raised.OfDigits ((world.classes.builtin className).text value)
  forms : ∀ (className : String) (value : Value), value.BuiltIn →
    Writes Raised.OfDigits ((world.classes.builtin className).shown value)

/-! ### Texts -/

theorem Value.AllBuiltIn.mem {items : List Value} (builtin : Value.AllBuiltIn items) :
    ∀ item ∈ items, item.BuiltIn := by
  induction items with
  | nil => exact List.forall_mem_nil _
  | cons item rest ih => exact List.forall_mem_cons.mpr ⟨builtin.1, ih builtin.2⟩

theorem Value.EntriesBuiltIn.mem {entries : List (Value × Value)}
    (builtin : Value.EntriesBuiltIn entries) :
    ∀ entry ∈ entries, entry.1.BuiltIn ∧ entry.2.BuiltIn := by
  induction entries with
  | nil => exact List.forall_mem_nil _
  | cons entry rest ih =>
      exact List.forall_mem_cons.mpr ⟨⟨builtin.1, builtin.2.1⟩, ih builtin.2.2⟩

/-- Values of built-in classes are written down, unless an integer in them has too many digits. -/
theorem World.Obliging.writing {world : World} (obliging : world.Obliging) :
    world.classes.Writing world.toObjects Value.BuiltIn Raised.OfDigits where
  digits fault := ⟨fault, rfl⟩
  own impossible := impossible.elim
  builtin className _ kind := ⟨obliging.texts className _ kind, obliging.forms className _ kind⟩
  list kind := kind.mem
  tuple kind := kind.mem
  set kind := kind.mem
  map kind := kind.mem
  bindings kind := kind.mem

theorem World.Obliging.text {world : World} (obliging : world.Obliging) {value : Value}
    (builtin : value.BuiltIn) : Writes Raised.OfDigits (world.text value) :=
  obliging.writing.text builtin

/-! ### Lookups -/

end Stencil
