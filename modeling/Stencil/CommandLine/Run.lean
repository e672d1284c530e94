/-
Module: Stencil.CommandLine.Run
Purpose: Running the program on arguments and files.
Main exports: CommandError, Ending, Outcome, Invocation.run, run
-/
import Stencil.CommandLine.Invocation
import Stencil.CommandLine.Report
import Stencil.Config.SettingsFile
import Stencil.Template.Renderer
import Stencil.Template.Source

namespace Stencil.CommandLine

open Config File Text

/-- Why a command failed. -/
inductive CommandError where
  | settings (error : SettingsError)
  | modelMissing (path : Path)
  | modelMalformed (path : Path) (text : String)
  | modelDecoding (error : DecodeError)
  | source (error : Template.SourceError)
  | expression (error : Expr.SyntaxError)
  | evaluation (failure : Expr.Failure)
  | rendering (error : Template.RenderError)
  | file (path : Path) (fault : FileFault)
  /-- There is no encoding for a file; this is what is said about it. -/
  | unknownEncoding (text : String)
  /-- An exception from outside: a document has no value, or a text no bytes. -/
  | raised (error : Raised)
deriving Repr, Inhabited, DecidableEq

/-- Whether an exception from outside is reported to the user. -/
def isReportedException (error : Raised) : Bool :=
  error.isA "ELTUserError" || error.isA "ValueError" || error.isA "OSError"

/-- Whether a failed lookup is reported to the user.  Failures inside the model are not, but for the
exceptions that are reported wherever they come from. -/
def isReportedLookup : LookupError → Bool
  | .notMapping _ | .noKey _ | .argumentMissing _ _ => false
  | .raised error => isReportedException error
  | _ => true

namespace CommandError

/-- The text of an error. -/
def message : CommandError → String
  | settings error => error.message
  | modelMissing path => "Model file not found: " ++ path.text
  | modelMalformed path text => "Failed to parse model file " ++ path.text ++ ": " ++ text
  | modelDecoding error => error.message
  | source error => error.message
  | expression error => error.message
  | evaluation failure => failure.message
  | rendering error => error.message
  | file path fault => fault.message path
  | unknownEncoding text => text
  | raised error => error.text

/-- Whether the user sees the text of an error.  All others break the program off. -/
def isReported : CommandError → Bool
  | settings (.raised error) | source (.decoding error) | raised error => isReportedException error
  | source (.unknownEncoding _) | unknownEncoding _ => false
  | evaluation (.lookup error) => isReportedLookup error
  | rendering (.lookup error) => isReportedLookup error
  | _ => true

/-- Whether an error says that a file cannot be opened or used. -/
def isFileFault : CommandError → Bool
  | source (.file _ fault) | file _ fault | settings (.file _ fault) => fault != .badPath
  | settings (.raised error) | source (.decoding error) | raised error
  | evaluation (.lookup (.raised error)) | rendering (.lookup (.raised error)) =>
      !(error.isA "ELTUserError" || error.isA "ValueError")
  | _ => false

/-- The line that reports an error.  Blanks at the end of a text are dropped, but not behind the name
of a file that cannot be opened. -/
def report (error : CommandError) : String :=
  if error.isFileFault then error.message ++ "\n"
  else String.ofList (trimEnd error.message.toList) ++ "\n"

end CommandError

/-- How a run of the program ends. -/
inductive Ending where
  /-- With an exit code. -/
  | exit (code : Nat)
  /-- Before any command, because of the arguments. -/
  | stopped (stop : Stop)
  /-- Broken off by an error that is not reported. -/
  | broken (error : CommandError)
deriving Repr, Inhabited

/-- What a run of the program leaves behind. -/
structure Outcome where
  ending : Ending
  output : String := ""
  errors : String := ""
  tree : Tree
deriving Repr, Inhabited

/-- The end of a run by an error. -/
def failWith (tree : Tree) (error : CommandError) : Outcome :=
  if error.isReported then { ending := .exit 2, errors := error.report, tree }
  else { ending := .broken error, tree }

section Running

variable (host : Host)

/-- The settings that an invocation asks for. -/
def Invocation.settings (invocation : Invocation) (tree : Tree) :
    Except CommandError Settings := do
  let settings ←
    match invocation.config with
    | none => pure {}
    | some path => (Settings.loadFile host tree (Path.ofText path)).mapError .settings
  match invocation.command with
  | .render _ _ _ (some name) =>
      match LineTerminator.read name with
      | .ok lineTerminator => pure { settings with lineTerminator }
      | .error _ => pure settings
  | _ => pure settings

/-- Load a model from a file of YAML or JSON.  Without a file there is no model. -/
def loadModel (tree : Tree) : Option String → Except CommandError Value
  | none => .ok .null
  | some written =>
      let path := Path.ofText written
      match tree.read path with
      | .error .nameTooLong => .error (.file path .nameTooLong)
      | .error _ => .error (.modelMissing path)
      | .ok octets =>
          match Encoding.utf8.decode octets with
          | .error error => .error (.modelDecoding error)
          | .ok text =>
              match host.document (withLineFeeds text) with
              | .ok value => .ok value
              | .error (.malformed reason) => .error (.modelMalformed path reason)
              | .error (.raised error) => .error (.raised error)

/-- Read a parameter as YAML.  What is no YAML stands for itself. -/
def readParameter (written : String) : Except CommandError Value :=
  match host.document written.toList with
  | .ok value => .ok value
  | .error (.malformed _) => .ok (.text written)
  | .error (.raised error) => .error (.raised error)

/-- The resolver of the program. -/
def programResolver : Resolver :=
  Resolver.standard 0

/-- Evaluate an expression on a model and parameters. -/
def evaluateExpression (tree : Tree) (written : String) (model : Option String)
    (parameters : List String) : Except CommandError Value := do
  let model ← loadModel host tree model
  let values ← parameters.mapM (readParameter host)
  let expression ← (Expr.Expression.parse written).mapError .expression
  let setting : Expr.Setting := ⟨programResolver, .value model, values⟩
  ((expression.evaluate setting).run host.world).1.mapError .evaluation

/-- A template and a model, ready to be rendered. -/
def prepareRendering (settings : Settings) (tree : Tree) (template : String)
    (model : Option String) : Except CommandError (Template.CompiledTemplate × Value) := do
  let compiled ←
    (Template.compileFile host tree settings.encoding (Path.ofText template)).mapError .source
  let value ← loadModel host tree model
  pure (compiled, value)

/-- The bytes of pieces of text that are written behind others, up to the first piece that has
none. -/
def encodePieces (codec : Codec) (before : List String) (done : List UInt8) :
    List String → List UInt8 × Option Raised
  | [] => (done, none)
  | piece :: rest =>
      match codec.encode before piece with
      | .ok octets => encodePieces codec (before ++ [piece]) (done ++ octets) rest
      | .error error => (done, some error)

/-- Render a template to the standard output, where nothing appears unless all of it can be
rendered. -/
def renderToOutput (settings : Settings) (tree : Tree) (template : Template.CompiledTemplate)
    (model : Value) : Outcome :=
  let (result, state) := template.render programResolver settings.lineTerminator.text
    settings.acceptsText model host.world
  match result with
  | .ok () => { ending := .exit 0, output := state.output, tree }
  | .error error => failWith tree (.rendering error)

/-- Render a template to a file.  What was written before an error stays in the file. -/
def renderToFile (settings : Settings) (tree : Tree) (template : Template.CompiledTemplate)
    (model : Value) (path : Path) : Outcome :=
  match tree.openPlace path with
  | .error fault => failWith tree (.file path fault)
  | .ok place =>
      match host.codec settings.encoding with
      | .error text => failWith (tree.put place []) (.unknownEncoding text)
      | .ok codec =>
          let (result, state) := template.render programResolver settings.lineTerminator.text
            settings.acceptsText model host.world
          let (octets, error?) := encodePieces codec [] [] state.written.toList
          let written := tree.put place octets
          match error?, result with
          | some error, _ => failWith written (.raised error)
          | none, .error error => failWith written (.rendering error)
          | none, .ok () => { ending := .exit 0, tree := written }

/-- Whether the report on a template tells why it cannot be compiled.  Other errors end the
command. -/
def isNoted : Template.SourceError → Bool
  | .file _ fault => fault != .badPath
  | .compilation error => error.fault.isLocated
  | .decoding error => error.isA "ELTUserError" || error.isA "OSError"
  | .unknownEncoding _ | .badEncodingName => false

/-- Check one template.  Errors in the template and files that cannot be opened are part of the
report; others end the command. -/
def checkTemplate (settings : Settings) (tree : Tree) (written : String) :
    Except CommandError TemplateCheck :=
  match Template.compileFile host tree settings.encoding (Path.ofText written) with
  | .ok template => .ok ⟨written, .ok template.lineCount⟩
  | .error error =>
      if isNoted error then .ok ⟨written, .error error.message⟩ else .error (.source error)

/-- Run a command with its settings. -/
def Command.run (settings : Settings) (tree : Tree) : Command → Outcome
  | .evaluate expression model parameters asJson =>
      match evaluateExpression host tree expression model parameters with
      | .error error => failWith tree error
      | .ok value =>
          let output :=
            if asJson then documentLine (EvaluationReport.document ⟨expression, value⟩)
            else value.toText ++ "\n"
          { ending := .exit 0, output, tree }
  | .render template model output _ =>
      match prepareRendering host settings tree template model with
      | .error error => failWith tree error
      | .ok (compiled, value) =>
          match output with
          | none => renderToOutput host settings tree compiled value
          | some path => renderToFile host settings tree compiled value (Path.ofText path)
  | .check templates asJson =>
      match templates.mapM (checkTemplate host settings tree) with
      | .error error => failWith tree error
      | .ok checks =>
          let report : CheckReport := ⟨checks⟩
          let output := if asJson then documentLine report.document else report.text
          { ending := .exit (if report.isOk then 0 else 2), output, tree }

/-- Run an invocation of the program. -/
def Invocation.run (invocation : Invocation) (tree : Tree) : Outcome :=
  match invocation.settings host tree with
  | .error error => failWith tree error
  | .ok settings => invocation.command.run host settings tree

/-- The line that shows the version. -/
def versionLine : String := "elt 0.3.0\n"

/-- Run the program on its arguments. -/
def run (arguments : List String) (tree : Tree) : Outcome :=
  match Invocation.read arguments with
  | .ok invocation => invocation.run host tree
  | .error .showVersion => { ending := .stopped .showVersion, output := versionLine, tree }
  | .error stop => { ending := .stopped stop, tree }

end Running

end Stencil.CommandLine
