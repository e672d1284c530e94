/-
Module: Stencil.Proofs.CommandLine.Hosts
Purpose: What the program relies on in its host, and that the host that it knows keeps to it.
Main exports: Host.Decodes, Host.Encodes, Host.Reliable, Host.world_bare, commonHost_reliable
-/
import Stencil.Host.Common
import Stencil.Proofs.CommandLine.Messages

namespace Stencil

/-- In every encoding, bytes that are no text raise an exception about a value. -/
def Host.Decodes (host : Host) : Prop :=
  ∀ {name codec octets text error}, host.codec name = .ok codec →
    codec.decode octets = (text, some error) → error.AboutValue

/-- In every encoding, a text without bytes raises an exception about a value. -/
def Host.Encodes (host : Host) : Prop :=
  ∀ {name codec before piece error}, host.codec name = .ok codec →
    codec.encode before piece = .error error → error.AboutValue

/-- What the program relies on: texts without bytes and bytes without text raise exceptions about
values, what documents without a value raise has a text, members of classes do not fail, and their
values are written down. -/
structure Host.Reliable (host : Host) : Prop where
  decodes : host.Decodes
  encodes : host.Encodes
  documents : ∀ {text error}, host.document text = .error (.raised error) → Visible error.text
  members : ∀ {className name member}, (host.builtin className).members.lookup name = some member →
    ∀ subject, ∃ value, member.run subject = .ok value
  written : ∀ className value,
    Writes Raised.AboutValue ((host.builtin className).text value) ∧
      Writes Raised.AboutValue ((host.builtin className).shown value)

/-- The program starts without classes of a model. -/
theorem Host.world_bare {host : Host} (reliable : host.Reliable) :
    host.world.Bare Raised.AboutValue where
  own := rfl
  builtin subject _ _ known := reliable.members known subject
  written := reliable.written
  streams := rfl
  breaks := rfl

/-! ### The host that the program knows -/

theorem Yaml.Fault.message_visible (fault : Yaml.Fault) : Visible fault.message := by
  cases fault with
  | noYear | noInteger | noDouble => exact .right _ (by decide)
  | tooManyDigits count => exact DigitFault.message_visible (.reading count)
  | _ => decide

theorem Text.DecodeError.aboutValue (error : Text.DecodeError) : error.raised.AboutValue :=
  ⟨rfl, error.message_visible⟩

theorem Text.EncodeError.aboutValue (error : Text.EncodeError) : error.raised.AboutValue :=
  ⟨rfl, error.message_visible⟩

/-- The encodings that the program knows are those with names. -/
theorem commonCodec_eq_ok_iff {name : String} {codec : Codec} :
    commonCodec name = .ok codec ↔
      ∃ encoding, Text.Encoding.ofName? name = some encoding ∧ codec = encoding.codec := by
  unfold commonCodec
  cases Text.Encoding.ofName? name with
  | none => simp
  | some encoding => simp [eq_comm]

theorem Text.Encoding.encodeText_fails {encoding : Text.Encoding} {text : String} {error : Raised}
    (failed : encoding.encodeText text = .error error) : error.AboutValue := by
  unfold Text.Encoding.encodeText at failed
  cases encoded : encoding.encode text.toList with
  | ok octets =>
      rw [encoded] at failed
      cases failed
  | error fault =>
      rw [encoded] at failed
      cases failed
      exact fault.aboutValue

theorem commonDocument_raises {text : List Char} {error : Raised}
    (failed : commonDocument text = .error (.raised error)) : error.AboutValue := by
  unfold commonDocument at failed
  cases read : Yaml.readDocument text with
  | ok value =>
      rw [read] at failed
      cases failed
  | error fault =>
      rw [read] at failed
      simp only [Except.mapError] at failed
      split at failed
      · cases failed
      · cases failed
        exact ⟨rfl, fault.message_visible⟩

/-- The members of the classes that the program knows do not fail. -/
theorem commonClasses_members {className name : String} {member : BuiltinMember}
    (known : (commonClasses className).members.lookup name = some member) (subject : Value) :
    ∃ value, member.run subject = .ok value := by
  have each : ∀ entry ∈ (commonClasses className).members, ∃ value,
      entry.2.run subject = .ok value := by
    unfold commonClasses
    split
    all_goals simp [textClass, integerClass, doubleClass, listClass, foreignIntegerClass,
      foreignRealClass, BuiltinMember.calling, BuiltinMember.reading]
  obtain ⟨front, rest, split, -⟩ := List.lookup_eq_some_iff.mp known
  exact each (name, member) (by simp [split])

theorem commonClasses_written (className : String) (value : Value) :
    Writes Raised.AboutValue ((commonClasses className).text value) ∧
      Writes Raised.AboutValue ((commonClasses className).shown value) := by
  have integers := writtenInteger_writes DigitFault.aboutValue value.asInteger
  unfold commonClasses
  split
  all_goals first
    | exact ⟨trivial, trivial⟩
    | exact ⟨integers, integers⟩

theorem commonHost_reliable : commonHost.Reliable where
  decodes {name codec octets text error} known failed := by
    obtain ⟨encoding, -, rfl⟩ := commonCodec_eq_ok_iff.mp known
    obtain ⟨fault, -, rfl⟩ := Option.map_eq_some_iff.mp (congrArg Prod.snd failed)
    exact fault.aboutValue
  encodes {name codec before piece error} known failed := by
    obtain ⟨encoding, -, rfl⟩ := commonCodec_eq_ok_iff.mp known
    exact Text.Encoding.encodeText_fails failed
  documents failed := (commonDocument_raises failed).visible
  members := commonClasses_members
  written := commonClasses_written

end Stencil
