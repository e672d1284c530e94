/-
Module: Stencil.Proofs.Property.Texts
Purpose: Values are written down if their classes write theirs, but for integers with too many digits.
Main exports: Classes.Writing, Classes.Writing.display, Classes.Writing.text
-/
import Stencil.Model.Text
import Stencil.Proofs.Property.Lockstep

namespace Stencil

/-- Something is written down, or an exception is raised that `E` allows. -/
abbrev Writes {α : Type} (E : Raised → Prop) (result : Except Raised α) : Prop :=
  Ends (fun _ => True) E result

/-- All classes write their values that are of a kind `P`, and raise only what `E` allows.  What is in
collections of the kind is of the kind itself. -/
structure Classes.Writing (classes : Classes) (objects : Objects) (P : Value → Prop)
    (E : Raised → Prop) : Prop where
  digits : ∀ fault : DigitFault, E fault.raised
  own : ∀ {className identity}, P (.object className identity) →
    Writes E ((classes.classOf className).text identity objects) ∧
      Writes E ((classes.classOf className).shown identity objects)
  builtin : ∀ (className : String) {value : Value}, P value →
    Writes E ((classes.builtin className).text value) ∧
      Writes E ((classes.builtin className).shown value)
  list : ∀ {items}, P (.list items) → ∀ item ∈ items, P item
  tuple : ∀ {items}, P (.tuple items) → ∀ item ∈ items, P item
  set : ∀ {items}, P (.set items) → ∀ item ∈ items, P item
  map : ∀ {entries}, P (.map entries) → ∀ entry ∈ entries, P entry.1 ∧ P entry.2
  bindings : ∀ {entries}, P (.bindings entries) → ∀ entry ∈ entries, P entry.1 ∧ P entry.2

section Numbers

variable {E : Raised → Prop} (digits : ∀ fault : DigitFault, E fault.raised)

include digits

theorem writtenInteger_writes (value : Int) : Writes E (writtenInteger value) := by
  unfold writtenInteger
  split
  · trivial
  · exact digits .writing

theorem fractionText_writes (numerator : Int) (denominator : Nat) :
    Writes E (fractionText numerator denominator) := by
  refine (writtenInteger_writes digits numerator).bind fun above _ => ?_
  split
  · trivial
  · exact (writtenInteger_writes digits denominator).bind fun _ _ => trivial

end Numbers

namespace Classes.Writing

variable {classes : Classes} {objects : Objects} {P : Value → Prop} {E : Raised → Prop}

mutual

/-- A value is written down inside a collection. -/
theorem display (writing : classes.Writing objects P E) :
    ∀ value : Value, P value → Writes E (classes.display objects value)
  | .integer value, _ => writtenInteger_writes writing.digits value
  | .fraction numerator denominator, _ =>
      (writtenInteger_writes writing.digits numerator).bind fun _ _ =>
        (writtenInteger_writes writing.digits denominator).bind fun _ _ => trivial
  | .list items, kind =>
      (writing.displayAll items (writing.list kind)).bind fun _ _ => trivial
  | .tuple items, kind =>
      (writing.displayAll items (writing.tuple kind)).bind fun _ _ => trivial
  | .set items, kind => (writing.displayAll items (writing.set kind)).bind fun _ _ => trivial
  | .map entries, kind =>
      (writing.displayEntries entries (writing.map kind)).bind fun _ _ => trivial
  | .bindings entries, kind =>
      (writing.displayEntries entries (writing.bindings kind)).bind fun _ _ => trivial
  | .object _ _, kind => (writing.own kind).2
  | .null, _ | .boolean _, _ | .double _, _ | .text _, _ | .bytes _, _ | .decimal _ _, _
  | .complex _ _, _ | .date _ _ _, _ => trivial
  | .foreignInteger _, kind | .foreignReal _, kind | .derivedDouble _ _, kind
  | .function _, kind | .stream _, kind | .view _ _, kind | .handle _ _, kind =>
      (writing.builtin _ kind).2

theorem displayAll (writing : classes.Writing objects P E) :
    ∀ items : List Value, (∀ item ∈ items, P item) → Writes E (classes.displayAll objects items)
  | [], _ => trivial
  | item :: rest, kinds =>
      (writing.display item (kinds item List.mem_cons_self)).bind fun _ _ =>
        (writing.displayAll rest fun other member =>
          kinds other (List.mem_cons_of_mem _ member)).bind fun _ _ => trivial

theorem displayEntries (writing : classes.Writing objects P E) :
    ∀ entries : List (Value × Value), (∀ entry ∈ entries, P entry.1 ∧ P entry.2) →
      Writes E (classes.displayEntries objects entries)
  | [], _ => trivial
  | (key, value) :: rest, kinds =>
      (writing.display key (kinds (key, value) List.mem_cons_self).1).bind fun _ _ =>
        (writing.display value (kinds (key, value) List.mem_cons_self).2).bind fun _ _ =>
          (writing.displayEntries rest fun other member =>
            kinds other (List.mem_cons_of_mem _ member)).bind fun _ _ => trivial

end

/-- A value is written down by itself. -/
theorem text (writing : classes.Writing objects P E) {value : Value} (kind : P value) :
    Writes E (classes.text objects value) := by
  cases value with
  | object className identity => exact (writing.own kind).1
  | fraction numerator denominator => exact fractionText_writes writing.digits numerator denominator
  | integer | double | list | tuple | set | map | bindings | bytes | complex =>
      exact writing.display _ kind
  | null | boolean | text | decimal | date => trivial
  | foreignInteger | foreignReal | derivedDouble | function | stream | view | handle =>
      exact (writing.builtin _ kind).1

end Classes.Writing

end Stencil
