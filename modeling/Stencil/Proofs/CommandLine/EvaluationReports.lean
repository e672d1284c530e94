/-
Module: Stencil.Proofs.CommandLine.EvaluationReports
Purpose: The report on an evaluation as JSON is one JSON text on one line, and tells the expression
  and its value.
Main exports: Value.unified, reportLine, recovered?, report_lossless
-/
import Stencil.CommandLine.Run
import Stencil.Host.Common
import Stencil.Proofs.Expr.Safety
import Stencil.Proofs.Json.Printing

namespace Stencil

/-- The number with one pattern for "not a number". -/
def Double.unified (x : Double) : Double :=
  if x.isNaN then nan else x

/-- The value, with one pattern for "not a number". -/
def Value.unified : Value → Value
  | .double x => .double x.unified
  | value => value

namespace Double

theorem unified_of_isFinite {x : Double} (finite : x.isFinite) : x.unified = x := by
  have code : x.magnitudeCode < infinityCode := of_decide_eq_true finite
  exact if_neg (by simp [isNaN]; omega)

/-- A number that is not finite is read from its written form. -/
theorem readDouble?_text_of_not_isFinite {x : Double} (infinite : x.isFinite = false) :
    readDouble? x.text.toList = some x.unified := by
  unfold unified
  cases noNumber : x.isNaN with
  | true =>
      rw [text_of_isNaN noNumber, if_pos rfl]
      decide +kernel
  | false =>
      have code : x.magnitudeCode = infinityCode := by
        have above := of_decide_eq_false infinite
        have below := of_decide_eq_false noNumber
        omega
      rw [← signedInfinity_of_isInfinite (beq_iff_eq.mpr code), text_signedInfinity]
      cases x.isNegative <;> decide +kernel

end Double

namespace CommandLine

open Json (Document SpellsElement)

/-! ### Reading a report -/

/-- The member of a document with a name. -/
def member? (name : String) : Document → Option Document
  | .object members => (members.find? fun member => member.1 == name).map Prod.snd
  | _ => none

/-- The value that a document stands for, given its kind.  A text of the kind of double-precision
numbers is the name of one. -/
def heldValue? (kind : String) : Document → Option Value
  | .null => some .null
  | .boolean flag => some (.boolean flag)
  | .integer value => some (.integer value)
  | .double value => some (.double value)
  | .text characters =>
      if kind == "double" then (readDouble? characters.toList).map .double
      else some (.text characters)
  | _ => none

/-- The value that a report tells: its members `kind` and `value` are read, and no other one. -/
def recovered? (report : Document) : Option Value :=
  match member? "kind" report, member? "value" report with
  | some (.text kind), some held => heldValue? kind held
  | _, _ => none

/-! ### Writing a report -/

/-- The line that reports on the value of an expression. -/
def reportLine (expression : String) (value : Value) : String :=
  documentLine (EvaluationReport.document ⟨expression, value⟩)

theorem ofDouble_isFinite (x : Double) : (Document.ofDouble x).IsFinite := by
  unfold Document.ofDouble
  split
  · assumption
  · trivial

theorem document_isFinite (report : EvaluationReport) : report.document.IsFinite := by
  have held : (EvaluationReport.valueDocument report.value).IsFinite := by
    cases report.value with
    | double x => exact ofDouble_isFinite x
    | _ => trivial
  exact ⟨trivial, held, trivial, trivial, trivial⟩

theorem heldValue?_ofDouble (x : Double) :
    heldValue? "double" (Document.ofDouble x) = some (.double x.unified) := by
  unfold Document.ofDouble
  cases finite : x.isFinite with
  | true => simp [heldValue?, Double.unified_of_isFinite finite]
  | false => simp [heldValue?, Double.readDouble?_text_of_not_isFinite finite]

/-- What a report holds is the value, up to the pattern of "not a number". -/
theorem recovered?_document {expression : String} {value : Value} (canonical : value.IsCanonical) :
    recovered? (EvaluationReport.document ⟨expression, value⟩) = some value.unified := by
  cases value with
  | double x => exact heldValue?_ofDouble x
  | null | boolean | integer | text => rfl
  | _ => exact canonical.elim

/-- The text of a report spells the document of the report, and no other one. -/
theorem spells_reportLine (expression : String) (value : Value) (document : Document) :
    SpellsElement (EvaluationReport.document ⟨expression, value⟩).print document ↔
      document = EvaluationReport.document ⟨expression, value⟩ :=
  Json.spellsElement_print_iff (document_isFinite _)

/-- Reports of different expressions or of different values are different lines. -/
theorem reportLine_injective {expression expression' : String} {value value' : Value}
    (canonical : value.IsCanonical) (canonical' : value'.IsCanonical)
    (same : reportLine expression value = reportLine expression' value') :
    expression = expression' ∧ value.unified = value'.unified := by
  have texts : (EvaluationReport.document ⟨expression, value⟩).print =
      (EvaluationReport.document ⟨expression', value'⟩).print := by
    have lines := congrArg String.toList same
    simpa [reportLine, documentLine] using lines
  have documents : EvaluationReport.document ⟨expression, value⟩ =
      EvaluationReport.document ⟨expression', value'⟩ := by
    rw [← spells_reportLine, ← texts, spells_reportLine]
  constructor
  · have members := congrArg (member? "expression") documents
    exact Document.text.inj (Option.some.inj members)
  · have values := congrArg recovered? documents
    rw [recovered?_document canonical, recovered?_document canonical'] at values
    exact Option.some.inj values

/-- The report on a value is one line, which is one JSON text.  The document that it spells tells
the expression, the text of the value and the value itself, so that reports of different values
differ.  The command for an evaluation writes this line. -/
theorem report_lossless (expression : String) {value : Value} (canonical : value.IsCanonical) :
    (∃ body document, reportLine expression value = String.ofList body ++ "\n" ∧ '\n' ∉ body ∧
      (∀ other, SpellsElement body other ↔ other = document) ∧
      member? "expression" document = some (.text expression) ∧
      member? "text" document = some (.text value.toText) ∧
      recovered? document = some value.unified) ∧
    (∀ expression' (value' : Value), value'.IsCanonical →
      reportLine expression value = reportLine expression' value' →
      expression = expression' ∧ value.unified = value'.unified) ∧
    ∀ host settings tree model parameters,
      evaluateExpression host tree expression model parameters = .ok value →
      Command.run host settings tree (.evaluate expression model parameters true) =
        { ending := .exit 0, output := reportLine expression value, tree } := by
  refine ⟨⟨_, _, rfl, ?_, spells_reportLine expression value, rfl, rfl, ?_⟩, ?_, ?_⟩
  · exact Json.newline_notMem_print (document_isFinite _)
  · exact recovered?_document canonical
  · exact fun _ _ canonical' same => reportLine_injective canonical canonical' same
  · intro host settings tree model parameters evaluated
    simp only [Command.run, evaluated]
    rfl

/-- The text "inf" is reported as a text, with the quotes of the expression escaped, and not as the
infinity is. -/
theorem report_of_inf :
    (Value.text "inf").IsCanonical ∧ (Value.double Double.infinity).IsCanonical ∧
      evaluateExpression commonHost default "\"inf\"" none [] = .ok (.text "inf") ∧
      Command.run commonHost {} default (.evaluate "\"inf\"" none [] true) =
        { ending := .exit 0, tree := default,
          output := "\x7b\"expression\": \"\\\"inf\\\"\", \"value\": \"inf\", "
            ++ "\"kind\": \"string\", \"text\": \"inf\"\x7d\n" } ∧
      reportLine "\"inf\"" (.text "inf") ≠ reportLine "\"inf\"" (.double Double.infinity) := by
  have lossless := @report_lossless "\"inf\"" (.text "inf") trivial
  have evaluated : evaluateExpression commonHost default "\"inf\"" none [] = .ok (.text "inf") := by
    cbv
  have line : reportLine "\"inf\"" (.text "inf") =
      "\x7b\"expression\": \"\\\"inf\\\"\", \"value\": \"inf\", "
        ++ "\"kind\": \"string\", \"text\": \"inf\"\x7d\n" := by
    decide +kernel
  refine ⟨trivial, trivial, evaluated, ?_, ?_⟩
  · rw [lossless.2.2 commonHost {} default none [] evaluated, line]
  · intro same
    obtain ⟨-, values⟩ := lossless.2.1 "\"inf\"" (.double Double.infinity) trivial same
    cases values

end CommandLine

end Stencil
