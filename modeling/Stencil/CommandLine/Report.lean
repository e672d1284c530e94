/-
Module: Stencil.CommandLine.Report
Purpose: The reports of the commands, as text and as JSON.
Main exports: EvaluationReport, TemplateCheck, CheckReport
-/
import Stencil.Json.Document

namespace Stencil.CommandLine

open Json (Document)

/-- The report on the evaluation of an expression. -/
structure EvaluationReport where
  expression : String
  value : Value
deriving Repr, Inhabited

namespace EvaluationReport

/-- A value of the expression language as JSON. -/
def valueDocument : Value → Document
  | .null => .null
  | .boolean flag => .boolean flag
  | .integer value => .integer value
  | .double value => Document.ofDouble value
  | other => .text other.toText

/-- The report as JSON. -/
def document (report : EvaluationReport) : Document :=
  .object [("expression", .text report.expression), ("value", valueDocument report.value),
    ("kind", .text report.value.kindName), ("text", .text report.value.toText)]

end EvaluationReport

/-- The result of checking one template: the number of its lines, or why it does not compile. -/
structure TemplateCheck where
  path : String
  result : Except String Nat
deriving Repr, Inhabited

namespace TemplateCheck

/-- Whether the template compiles. -/
def isOk (check : TemplateCheck) : Bool :=
  match check.result with
  | .ok _ => true
  | .error _ => false

/-- The check as JSON. -/
def document (check : TemplateCheck) : Document :=
  let (lines, error) := match check.result with
    | .ok lines => ((lines : Int), Document.null)
    | .error message => (0, .text message)
  .object [("path", .text check.path), ("ok", .boolean check.isOk), ("lines", .integer lines),
    ("error", error)]

/-- The check as a line of text. -/
def line (check : TemplateCheck) : String :=
  match check.result with
  | .ok lines => "OK    " ++ check.path ++ " (" ++ integerText lines ++ " lines)\n"
  | .error message => "FAIL  " ++ message ++ "\n"

end TemplateCheck

/-- The report on the checks of several templates. -/
structure CheckReport where
  checks : List TemplateCheck
deriving Repr, Inhabited

namespace CheckReport

/-- Whether all templates compile. -/
def isOk (report : CheckReport) : Bool :=
  report.checks.all (·.isOk)

/-- The report as JSON. -/
def document (report : CheckReport) : Document :=
  .object [("templates", .array (report.checks.map (·.document)))]

/-- The report as lines of text. -/
def text (report : CheckReport) : String :=
  String.join (report.checks.map (·.line))

end CheckReport

/-- A document as a line of output. -/
def documentLine (document : Document) : String :=
  String.ofList document.print ++ "\n"

end Stencil.CommandLine
