/-
Module: Stencil.Proofs.CommandLine.Messages
Purpose: The texts of all errors that a command can report show something.
Main exports: Visible, Raised.AboutValue, CommandError.Proper, CommandError.report_visible
-/
import Mathlib.Data.List.DropRight
import Stencil.CommandLine.Run
import Stencil.Proofs.Property.Bare
import Stencil.Proofs.Template.SideBySide

namespace Stencil

/-- A text shows something: not all of it is blank. -/
def Visible (text : String) : Prop :=
  ∃ character ∈ text.toList, Text.isBlank character = false

instance (text : String) : Decidable (Visible text) :=
  decidable_of_iff (text.toList.any (fun character => !Text.isBlank character) = true)
    (by simp [Visible])

theorem Visible.left {text : String} (visible : Visible text) (rest : String) :
    Visible (text ++ rest) := by
  obtain ⟨character, member, shown⟩ := visible
  refine ⟨character, ?_, shown⟩
  rw [String.toList_append]
  exact List.mem_append_left _ member

theorem Visible.right {text : String} (front : String) (visible : Visible text) :
    Visible (front ++ text) := by
  obtain ⟨character, member, shown⟩ := visible
  refine ⟨character, ?_, shown⟩
  rw [String.toList_append]
  exact List.mem_append_right _ member

/-- What shows something still does without the blanks at its end. -/
theorem Visible.trimEnd {text : String} (visible : Visible text) :
    Visible (String.ofList (Text.trimEnd text.toList)) := by
  obtain ⟨character, member, shown⟩ := visible
  have kept : text.toList.rdropWhile Text.isBlank ≠ [] := by
    intro empty
    rw [List.rdropWhile_eq_nil_iff] at empty
    rw [empty character member] at shown
    cases shown
  refine ⟨(text.toList.rdropWhile Text.isBlank).getLast kept, ?_, ?_⟩
  · rw [String.toList_ofList]
    exact List.getLast_mem kept
  · simpa using List.rdropWhile_last_not Text.isBlank text.toList kept

/-! ### Parts of messages -/

theorem Text.DecodeError.message_visible (error : Text.DecodeError) : Visible error.message :=
  .left (.right _ (by decide)) _

theorem Text.EncodeError.message_visible (error : Text.EncodeError) : Visible error.message :=
  .right _ (by decide)

theorem File.FileFault.message_visible (path : File.Path) (fault : File.FileFault) :
    Visible (fault.message path) := by
  cases fault with
  | badPath =>
      show Visible "embedded null byte"
      decide
  | _ => exact .left (by decide) _

theorem DigitFault.message_visible (fault : DigitFault) : Visible fault.message :=
  .left (.left (.left (.left (by decide) _) _) _) _

/-- An exception about a value, with a text that shows something. -/
structure Raised.AboutValue (error : Raised) : Prop where
  value : error.isA "ValueError" = true
  visible : Visible error.text

theorem DigitFault.aboutValue (fault : DigitFault) : fault.raised.AboutValue :=
  ⟨rfl, fault.message_visible⟩

theorem Expr.SyntaxFault.message_visible_of_not_isSyntax {fault : Expr.SyntaxFault}
    (other : fault.isSyntax = false) : Visible fault.message := by
  cases fault with
  | tooManyDigits count => exact DigitFault.message_visible (.reading count)
  | _ => cases other

theorem Expr.SyntaxError.message_visible (error : Expr.SyntaxError) : Visible error.message := by
  unfold Expr.SyntaxError.message
  split
  · exact .left (.right _ (by decide)) _
  · rename_i other
    exact Expr.SyntaxFault.message_visible_of_not_isSyntax (Bool.eq_false_iff.mpr other)

theorem Expr.EvaluationError.message_visible (error : Expr.EvaluationError) :
    Visible error.message := by
  cases error with
  | orOnNull | andOnNull | compareNull | addToNull | addNull | multiplyNull
  | integerDivisionByZero => decide
  | noModel | integerOutOfRange | invalidType => exact .left (by decide) _
  | unaryOnNull | convertNull | convertKind => exact .right _ (by decide)
  | _ => exact .left (.right _ (by decide)) _

theorem Template.locatedMessage_visible (line : Nat) (uri : Option String) (bare : String) :
    Visible (Template.locatedMessage line uri bare) :=
  .left (.right _ (by decide)) _

theorem Template.CompileError.message_visible (error : Template.CompileError) :
    Visible error.message := by
  obtain ⟨fault, line, uri⟩ := error
  unfold Template.CompileError.message
  cases fault with
  | tooManyDigits count => exact DigitFault.message_visible (.reading count)
  | _ => exact Template.locatedMessage_visible _ _ _

theorem LookupError.IsPlain.message_visible {error : LookupError} (plain : error.IsPlain) :
    Visible error.message := by
  cases error with
  | noObject | noProperty => decide
  | invalidPath path => exact .right _ (by decide)
  | nullIntermediate partialPath path => exact .left (.right _ (by decide)) _
  | _ => cases plain

/-- The failures that a command reports: no model has a part in them, or they are about values. -/
def LookupError.IsAnswered (error : LookupError) : Prop :=
  error.IsPlain ∨ ∃ raised : Raised, error = .raised raised ∧ raised.AboutValue

/-! ### Errors of commands -/

namespace CommandLine

/-- An error that is reported, with a text that shows something. -/
structure CommandError.Proper (error : CommandError) : Prop where
  reported : error.isReported = true
  visible : Visible error.message

/-- An exception from outside that is reported, with a text that shows something. -/
structure Tells (error : Raised) : Prop where
  reported : isReportedException error = true
  visible : Visible error.text

/-- Exceptions about values are reported. -/
theorem Tells.of_value {error : Raised} (about : error.AboutValue) : Tells error where
  reported := by simp [isReportedException, about.value]
  visible := about.visible

namespace CommandError

theorem raised_proper {error : Raised} (tells : Tells error) : (raised error).Proper :=
  ⟨tells.reported, tells.visible⟩

/-- The errors of settings are proper, but for exceptions from outside. -/
theorem settings_proper {error : Config.SettingsError}
    (told : ∀ raised, error = .raised raised → Tells raised) : (settings error).Proper := by
  cases error with
  | raised error =>
      have tells := told error rfl
      exact ⟨tells.reported, tells.visible⟩
  | missing path => exact ⟨rfl, .left (by decide) _⟩
  | file path fault => exact ⟨rfl, fault.message_visible path⟩
  | decoding error => exact ⟨rfl, error.message_visible⟩
  | malformed path text => exact ⟨rfl, .left (.right _ (by decide)) _⟩
  | rejected path reason => exact ⟨rfl, .left (.right _ (by decide)) _⟩

/-- The errors of templates are proper, but for encodings that there are not. -/
theorem source_proper {error : Template.SourceError}
    (known : ∀ text, error ≠ .unknownEncoding text)
    (told : ∀ raised, error = .decoding raised → Tells raised) : (source error).Proper := by
  cases error with
  | unknownEncoding text => exact absurd rfl (known text)
  | decoding error =>
      have tells := told error rfl
      exact ⟨tells.reported, tells.visible⟩
  | file path fault => exact ⟨rfl, fault.message_visible path⟩
  | badEncodingName => exact ⟨rfl, by decide⟩
  | compilation error => exact ⟨rfl, error.message_visible⟩

theorem isReported_of_answered {error : LookupError} (answered : error.IsAnswered) :
    isReportedLookup error = true := by
  obtain plain | ⟨raised, rfl, about⟩ := answered
  · cases error with
    | noObject | noProperty | invalidPath | nullIntermediate => rfl
    | _ => cases plain
  · exact (Tells.of_value about).reported

theorem message_visible_of_answered {error : LookupError} (answered : error.IsAnswered) :
    Visible error.message := by
  obtain plain | ⟨raised, rfl, about⟩ := answered
  · exact plain.message_visible
  · exact about.visible

theorem evaluation_proper {failure : Expr.Failure}
    (within : failure.Within LookupError.IsAnswered) : (evaluation failure).Proper := by
  cases failure with
  | operation error => exact ⟨rfl, error.message_visible⟩
  | lookup error => exact ⟨isReported_of_answered within, message_visible_of_answered within⟩

theorem rendering_proper {error : Template.RenderError}
    (within : error.Within LookupError.IsAnswered) : (rendering error).Proper := by
  cases error with
  | located fault line uri => exact ⟨rfl, Template.locatedMessage_visible _ _ _⟩
  | lookup error => exact ⟨isReported_of_answered within, message_visible_of_answered within⟩

/-- The report of an error shows something if its text does. -/
theorem report_visible {error : CommandError} (visible : Visible error.message) :
    Visible error.report := by
  unfold report
  split
  · exact visible.left _
  · exact visible.trimEnd.left _

end CommandError

end CommandLine

end Stencil
