/-
Module: Stencil.Proofs.Property.Bare
Purpose: Where there are no classes, the usual resolver fails only because of what it is asked for: an
  argument is missing, or a path has an empty segment or leads through null.
Main exports: World.Bare, World.Bare.text, LookupError.IsPlain, getValue_bare
-/
import Stencil.Proofs.Property.Lookups
import Stencil.Proofs.Property.Texts

namespace Stencil

/-- There are no classes of a model, members of all other classes do not fail, their values are written
down but for what `raises` allows, and streams neither give anything nor fail. -/
structure World.Bare (raises : Raised → Prop) (world : World) : Prop where
  own : world.classes.own = []
  builtin : ∀ (subject : Value) name member,
    world.classes.builtinMember? subject name = some member → ∃ value, member.run subject = .ok value
  written : ∀ (className : String) (value : Value),
    Writes raises ((world.classes.builtin className).text value) ∧
      Writes raises ((world.classes.builtin className).shown value)
  streams : world.streams = []
  breaks : world.breaks = []

/-- The failures that no model has a part in but by a null inside a path. -/
def LookupError.IsPlain : LookupError → Prop
  | .noObject | .noProperty | .invalidPath _ | .nullIntermediate _ _ => True
  | _ => False

/-- One state without classes, on both sides. -/
def BareAlike (raises : Raised → Prop) (world other : World) : Prop :=
  other = world ∧ world.Bare raises

section Written

variable {raises : Raised → Prop} {world : World} (bare : world.Bare raises)
  (digits : ∀ fault : DigitFault, raises fault.raised)

include bare digits

/-- Where there are no classes, all values are written down, but for what is allowed. -/
theorem World.Bare.writing : world.classes.Writing world.toObjects (fun _ => True) raises where
  digits := digits
  own _ := by
    unfold Classes.classOf Classes.class?
    rw [bare.own]
    exact ⟨trivial, trivial⟩
  builtin className value _ := bare.written className value
  list _ _ _ := trivial
  tuple _ _ _ := trivial
  set _ _ _ := trivial
  map _ _ _ := ⟨trivial, trivial⟩
  bindings _ _ _ := ⟨trivial, trivial⟩

theorem World.Bare.text (value : Value) : Writes raises (world.text value) :=
  (bare.writing digits).text trivial

end Written

variable {cache : Nat} {raises : Raised → Prop}

/-- Without classes there are no members that could fail. -/
theorem bare_lookups : Lookups cache (BareAlike raises) (fun _ => True) LookupError.IsPlain where
  classes related := by rw [related.1]
  objects related := by rw [related.1]
  accessor property _ _ := by
    refine accessorFor_lockstep ?_ ?_
    · rintro world other ⟨rfl, -⟩
      rfl
    · rintro world other accessor ⟨rfl, bare⟩
      exact ⟨rfl, bare.own, bare.builtin, bare.written, bare.streams, bare.breaks⟩
  member related _ has := by
    obtain ⟨info, known, -⟩ := has
    rw [World.class?, Classes.class?, related.2.own] at known
    cases known
  held _ _ _ := trivial
  shared _ _ _ _ := trivial
  builtin related _ known := by
    obtain ⟨value, gives⟩ := related.2.builtin _ _ _ known
    rw [gives]
    trivial
  entry _ _ _ := trivial
  taken _ _ related := by
    obtain ⟨rfl, bare⟩ := related
    exact ⟨rfl, bare.own, bare.builtin, bare.written, bare.streams, bare.breaks⟩
  result _ := trivial
  null := trivial
  method := trivial
  uncalled := trivial

/-- Paths from any value are looked up with plain failures. -/
theorem ofValue_bare (subject : Value) (path : String) :
    Lockstep (BareAlike raises) (fun _ => True) LookupError.IsPlain
      ((Resolver.standard cache).ofValue subject path)
      ((Resolver.standard cache).ofValue subject path) := by
  cases isNull : subject.isNull with
  | true =>
      rw [standard_value, isNull]
      exact Lockstep.bind_throw trivial
  | false =>
      rw [standard_value, isNull]
      refine Lockstep.bind (requireArguments_lockstep false path trivial trivial) fun _ _ => ?_
      refine followPath_lockstep (.inr trivial) (fun _ => trivial) ?_ ?_
      · intro segment _ given
        exact segments_lockstep bare_lookups trivial isNull given
      · intro inner _ notNull segment _ given
        exact segments_lockstep bare_lookups trivial notNull given

/-- So are paths from a loop scope, where a failure that is plain is no missing key. -/
theorem ofScope_bare (scope : LoopScope) (path : String) :
    Lockstep (BareAlike raises) (fun _ => True) LookupError.IsPlain
      ((Resolver.standard cache).getValue (.scope scope) path)
      ((Resolver.standard cache).getValue (.scope scope) path) := by
  rw [standard_scope]
  refine Lockstep.bind (requireArguments_lockstep false path trivial trivial) fun _ _ => ?_
  refine followPath_lockstep (.inr trivial) (fun _ => trivial) ?_ ?_
  · intro segment _ given
    cases bound : scope.bound? segment with
    | some value =>
        rw [ofScope_bound given bound]
        exact Lockstep.pure trivial
    | none =>
        rw [ofScope_unbound given bound]
        refine Lockstep.tryCatch (ofValue_bare scope.base segment) fun failure plain => ?_
        unfold keyAsNull
        split
        · exact Lockstep.pure trivial
        · exact Lockstep.throw plain
  · intro inner _ notNull segment _ given
    exact segments_lockstep bare_lookups trivial notNull given

/-- Where there are no classes, every lookup by the usual resolver fails plainly if at all, and there
are no classes afterwards. -/
theorem getValue_bare (model : Model) (path : String) :
    Lockstep (BareAlike raises) (fun _ => True) LookupError.IsPlain
      ((Resolver.standard cache).getValue model path)
      ((Resolver.standard cache).getValue model path) := by
  cases model with
  | value subject => exact ofValue_bare subject path
  | scope scope => exact ofScope_bare scope path

end Stencil
