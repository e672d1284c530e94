/-
Module: Stencil.Proofs.CommandLine.Endings
Purpose: How runs of the program end: every error is reported, but for an unknown encoding, for keys of
  settings that have no order, and for what a document raises that is no exception about a value.
Main exports: Command.Reads, Invocation.Escapes, Outcome.Answers, run_answers
-/
import Mathlib
import Stencil.Proofs.CommandLine.Checks
import Stencil.Proofs.Config.Loading

namespace Stencil

/-! ### Renderings without classes -/

/-- The state that the program works in, on both sides: there are no classes of a model, and nothing
but exceptions about values is raised. -/
abbrev Plainly (world other : World) : Prop :=
  BareAlike Raised.AboutValue world other

/-- Without classes, lookups fail with what a command reports. -/
theorem getValue_answered (cache : Nat) (model : Model) (path : String) :
    Lockstep Plainly (fun _ => True) LookupError.IsAnswered
      ((Resolver.standard cache).getValue model path)
      ((Resolver.standard cache).getValue model path) :=
  Lockstep.mono (getValue_bare model path) (fun _ => id) fun _ => .inl

theorem text_answered {world other : World} (related : Plainly world other) (value : Value) :
    other.text value = world.text value ∧
      Ends (fun _ => True) (fun raised => LookupError.IsAnswered (.raised raised))
        (world.text value) := by
  obtain ⟨rfl, bare⟩ := related
  refine ⟨rfl, ?_⟩
  exact (bare.text DigitFault.aboutValue value).mono (fun _ => id) fun raised about =>
    .inr ⟨raised, rfl, about⟩

theorem digits_answered (fault : DigitFault) : LookupError.IsAnswered (.raised fault.raised) :=
  .inr ⟨_, rfl, fault.aboutValue⟩

namespace Template

/-- Where there are no classes, a rendering stops at a line of the template or at a failure that is
reported. -/
theorem bare_sideBySide (cache : Nat) (uri : Option String) (terminator : String)
    (acceptsText : Bool) :
    SideBySide ⟨Resolver.standard cache, uri, terminator, acceptsText⟩ Plainly Eq (fun _ => True)
      LookupError.IsAnswered where
  toTakenAlike := .of_sees rfl
  isNull same := by rw [same]
  lookup path same _ := by
    subst same
    exact getValue_answered _ _ path
  items _ _ _ _ := trivial
  texts related value _ := text_answered related value
  digits := digits_answered
  shadow same := by rw [same]
  bind name same _ := by rw [same]
  streams related := by rw [related.1]
  drawn related held := by
    rw [World.remaining, related.2.streams] at held
    cases held
  breaks related := by rw [related.1]
  broken related found := by
    rw [related.2.breaks] at found
    cases found

theorem render_answered {host : Host} (reliable : host.Reliable) (template : CompiledTemplate)
    (cache : Nat) (terminator : String) (acceptsText : Bool) (model : Value) :
    Ends (fun _ => True) (RenderError.Within LookupError.IsAnswered)
      (template.render (Resolver.standard cache) terminator acceptsText model host.world).1 := by
  have both := bare_sideBySide cache template.uri terminator acceptsText
  have start : Rendering.Related Plainly Eq ⟨host.world, .value model, #[]⟩
      ⟨host.world, .value model, #[]⟩ := ⟨⟨rfl, host.world_bare reliable⟩, rfl, rfl⟩
  exact ((renderAll_lockstep both template.actions).run_eq start).2.2

end Template

namespace CommandLine

open Config File Text

variable {host : Host} {tree : Tree} {settings : Settings}

/-! ### Inputs -/

/-- A file holds the text of a document. -/
def HoldsDocument (tree : Tree) (path : Path) (document : List Char) : Prop :=
  ∃ octets text, tree.read path = .ok octets ∧ Encoding.utf8.decode octets = .ok text ∧
    document = withLineFeeds text

/-- A document has no value, and what is raised instead is not reported. -/
def Stumbles (host : Host) (document : List Char) : Prop :=
  ∃ error, host.document document = .error (.raised error) ∧ isReportedException error = false

theorem tells_or_stumbles (reliable : host.Reliable) {document : List Char} {error : Raised}
    (failed : host.document document = .error (.raised error)) :
    Tells error ∨ Stumbles host document := by
  cases reported : isReportedException error with
  | true => exact .inl ⟨reported, reliable.documents failed⟩
  | false => exact .inr ⟨error, failed, reported⟩

/-- A document is a mapping with keys that are no settings, two of which have no order. -/
def UnorderedKeys (host : Host) (document : List Char) : Prop :=
  ∃ entries, host.document document = .ok (.map entries) ∧
    ¬ Ordered (unknownKeys settingNames entries)

/-- A mismatch of settings is an exception about a value. -/
theorem refusal_isValueError (reliable : host.Reliable) (path : String) (fault : Mismatch) :
    ((refusal host.world.classes {} path fault).exception host.world.classes {}).isA
      "ValueError" = true := by
  have bare := host.world_bare reliable
  have writes := fault.text_writes (bare.writing DigitFault.aboutValue)
  cases written : fault.text host.world.classes {} with
  | ok text =>
      rw [refusal_of_text written]
      unfold LoadError.exception LoadError.text
      rw [written]
      rfl
  | error raised =>
      have about : raised.AboutValue := writes.error written
      unfold refusal
      rw [written]
      unfold LoadError.exception LoadError.text
      exact about.value

/-- Errors of settings are exceptions about values, but for keys without an order. -/
theorem load_isValueError (reliable : host.Reliable) (value : Value) :
    Ends (fun _ => True)
      (fun error => (error.exception host.world.classes {}).isA "ValueError" = true ∨
        ∃ entries, value = .map entries ∧ ¬ Ordered (unknownKeys settingNames entries))
      (Settings.load host.world.classes value) := by
  refine (Settings.load_ends ?_ ?_ value ?_).bind fun _ _ => trivial
  · exact fun path fault => .inl (refusal_isValueError reliable path fault)
  · intro refused
    left
    unfold LoadError.exception LoadError.text
    rfl
  · exact fun entries same unordered _ _ => .inr ⟨entries, same, unordered⟩

theorem SettingsError.ofRaised_proper {path : Path} {error : Raised}
    (value : error.isA "ValueError" = true) :
    (CommandError.settings (.ofRaised path error)).Proper := by
  apply CommandError.settings_proper
  intro raised same
  unfold SettingsError.ofRaised at same
  split at same
  · cases same
  · cases same

/-- A file of settings fails with an error that is reported, but for keys without an order and for
what a document raises. -/
theorem loadFile_proper (reliable : host.Reliable) (path : Path) :
    Ends (fun _ => True)
      (fun error => (CommandError.settings error).Proper ∨ ∃ document,
        HoldsDocument tree path document ∧ (UnorderedKeys host document ∨ Stumbles host document))
      (Settings.loadFile host tree path) := by
  unfold Settings.loadFile
  split
  · exact .inl (CommandError.settings_proper (by simp))
  · exact .inl (CommandError.settings_proper (by simp))
  · rename_i octets found
    split
    · exact .inl (CommandError.settings_proper (by simp))
    · rename_i text decoded
      have holds : HoldsDocument tree path (withLineFeeds text) := ⟨octets, text, found, decoded, rfl⟩
      split
      · exact .inl (CommandError.settings_proper (by simp))
      · rename_i raised failed
        rcases tells_or_stumbles reliable failed with tells | stumbles
        · refine .inl (CommandError.settings_proper ?_)
          rintro _ ⟨⟩
          exact tells
        · exact .inr ⟨_, holds, .inr stumbles⟩
      · rename_i value document
        simp only
        split
        · trivial
        · rename_i error refused
          rcases (load_isValueError reliable _).error refused with about | ⟨entries, same, unordered⟩
          · exact .inl (SettingsError.ofRaised_proper about)
          · refine .inr ⟨_, holds, .inl ⟨entries, ?_, unordered⟩⟩
            split at same
            · cases same
              exact absurd .nil unordered
            · rw [document, same]

/-- A model fails with an error that is reported, but for what its document raises. -/
theorem loadModel_ends (reliable : host.Reliable) (model : Option String) :
    Ends (fun _ => True)
      (fun error => error.Proper ∨ ∃ written document, model = some written ∧
        HoldsDocument tree (Path.ofText written) document ∧ Stumbles host document)
      (loadModel host tree model) := by
  cases model with
  | none => trivial
  | some written =>
      unfold loadModel
      simp only
      split
      · exact .inl ⟨rfl, .left (by decide) _⟩
      · exact .inl ⟨rfl, .left (by decide) _⟩
      · rename_i octets found
        split
        · rename_i error _
          exact .inl ⟨rfl, error.message_visible⟩
        · rename_i text decoded
          split
          · trivial
          · exact .inl ⟨rfl, .left (.left (.left (by decide) _) _) _⟩
          · rename_i failed
            refine (tells_or_stumbles reliable failed).imp CommandError.raised_proper fun stumbles => ?_
            exact ⟨written, _, rfl, ⟨octets, text, found, decoded, rfl⟩, stumbles⟩

theorem loadModel_stumbles {written : String} {document : List Char}
    (holds : HoldsDocument tree (Path.ofText written) document) (stumbles : Stumbles host document) :
    ∃ raised, loadModel host tree (some written) = .error (.raised raised) ∧
      isReportedException raised = false := by
  obtain ⟨octets, text, found, decoded, rfl⟩ := holds
  obtain ⟨error, failed, unreported⟩ := stumbles
  refine ⟨error, ?_, unreported⟩
  simp [loadModel, found, decoded, failed]

/-- A parameter fails with an error that is reported, but for what it raises as a document. -/
theorem readParameter_ends (reliable : host.Reliable) (written : String) :
    Ends (fun _ => True) (fun error => error.Proper ∨ Stumbles host written.toList)
      (readParameter host written) := by
  unfold readParameter
  split
  · trivial
  · trivial
  · rename_i failed
    exact (tells_or_stumbles reliable failed).imp CommandError.raised_proper id

/-! ### Commands -/

/-- The documents that a command reads: a model and, if it has a value, the parameters up to the first
one that has none.  A rendering reads its model behind the template. -/
inductive Command.Reads (host : Host) (settings : Settings) (tree : Tree) :
    Command → List Char → Prop
  | evaluatedModel {expression written : String} {parameters : List String} {asJson : Bool}
      {document : List Char} (holds : HoldsDocument tree (Path.ofText written) document) :
      Reads host settings tree (.evaluate expression (some written) parameters asJson) document
  | parameter {expression written : String} {model : Option String} {before after : List String}
      {asJson : Bool} {value : Value} (loaded : loadModel host tree model = .ok value)
      (earlier : ∀ parameter ∈ before, ∃ value, readParameter host parameter = .ok value) :
      Reads host settings tree (.evaluate expression model (before ++ written :: after) asJson)
        written.toList
  | renderedModel {template written : String} {output terminator : Option String}
      {compiled : Template.CompiledTemplate} {document : List Char}
      (ready : Template.compileFile host tree settings.encoding (Path.ofText template) = .ok compiled)
      (holds : HoldsDocument tree (Path.ofText written) document) :
      Reads host settings tree (.render template (some written) output terminator) document

/-- Without classes of a model, the evaluation of an expression fails with an error that is reported. -/
theorem evaluated_ends (reliable : host.Reliable) (expression : Expr.Expression) (model : Value)
    (values : List Value) :
    Ends (fun _ => True) CommandError.Proper
      (((expression.evaluate ⟨programResolver, .value model, values⟩).run host.world).1.mapError
        .evaluation) := by
  have evaluated : Lockstep Plainly (fun _ => True) (Expr.Failure.Within LookupError.IsAnswered)
      (expression.evaluate ⟨programResolver, .value model, values⟩)
      (expression.evaluate ⟨programResolver, .value model, values⟩) :=
    expression.evaluate_lockstep rfl rfl (fun path _ => getValue_answered _ _ path)
      (fun _ _ related value _ => text_answered related value) digits_answered
  have start : Plainly host.world host.world := ⟨rfl, host.world_bare reliable⟩
  exact (evaluated.run_eq start).2.2.mapError _ fun _ => CommandError.evaluation_proper

/-- An evaluation fails with an error that is reported, but for what the documents raise that it
reads. -/
theorem evaluateExpression_ends (reliable : host.Reliable) (written : String)
    (model : Option String) (parameters : List String) (asJson : Bool) :
    Ends (fun _ => True)
      (fun error => error.Proper ∨ ∃ document,
        (Command.evaluate written model parameters asJson).Reads host settings tree document ∧
          Stumbles host document)
      (evaluateExpression host tree written model parameters) := by
  unfold evaluateExpression
  cases loaded : loadModel host tree model with
  | error error =>
      refine ((loadModel_ends reliable model).error loaded).imp id ?_
      rintro ⟨path, document, rfl, holds, stumbles⟩
      exact ⟨document, .evaluatedModel holds, stumbles⟩
  | ok value =>
      cases given : parameters.mapM (readParameter host) with
      | error error =>
          obtain ⟨before, parameter, after, rfl, earlier, failed⟩ := exists_first_of_mapM given
          refine ((readParameter_ends reliable parameter).error failed).imp id fun stumbles => ?_
          exact ⟨_, .parameter loaded earlier, stumbles⟩
      | ok values =>
          refine ((Ends.any (Expr.Expression.parse written)).mapError _ fun error _ => ?_).bind
            fun expression _ => ?_
          · exact .inl ⟨rfl, error.message_visible⟩
          · exact (evaluated_ends reliable expression value values).mono (fun _ => id) fun _ => .inl

/-- An error of the pieces of a text is one of the encoding of a piece. -/
theorem encodePieces_raises {codec : Codec} (before : List String) (done : List UInt8)
    (pieces : List String) {error : Raised}
    (failed : (encodePieces codec before done pieces).2 = some error) :
    ∃ before piece, codec.encode before piece = .error error := by
  induction pieces generalizing before done with
  | nil => cases failed
  | cons piece rest ih =>
      unfold encodePieces at failed
      split at failed
      · exact ih _ _ failed
      · rename_i raised
        cases failed
        exact ⟨before, piece, raised⟩

/-- How a run ends that lets no error escape: with exit code 0; with exit code 2, a message and no
output; or with exit code 2 and a report on templates. -/
inductive Outcome.Answers (command : Command) (outcome : Outcome) : Prop
  | success (ending : outcome.ending = .exit 0)
  | refusal (ending : outcome.ending = .exit 2) (output : outcome.output = "")
      (errors : Visible outcome.errors)
  | badReport {templates : List String} {asJson : Bool} (check : command = .check templates asJson)
      (ending : outcome.ending = .exit 2)

theorem Outcome.Answers.of_proper {command : Command} {error : CommandError}
    (proper : error.Proper) : (failWith tree error).Answers command := by
  rw [failWith_proper proper]
  exact .refusal rfl rfl (CommandError.report_visible proper.visible)

/-- A command opens a template, at the latest behind templates whose files cannot be opened. -/
def Command.OpensTemplate (tree : Tree) : Command → Prop
  | .evaluate _ _ _ _ => False
  | .render template _ _ _ => ∃ octets, tree.read (Path.ofText template) = .ok octets
  | .check templates _ => ∃ before written after, templates = before ++ written :: after ∧
      (∀ earlier ∈ before, ∃ fault, tree.read (Path.ofText earlier) = .error fault ∧
        fault ≠ .badPath) ∧
      ∃ octets, tree.read (Path.ofText written) = .ok octets

/-- What lets an error escape from a command: a template that is opened with an encoding that does not
exist, or a document that is read and raises what is not reported. -/
inductive Command.Escapes (host : Host) (settings : Settings) (tree : Tree) (command : Command) : Prop
  | encoding (unknown : UnknownEncoding host settings.encoding)
      (opens : command.OpensTemplate tree)
  | document {document : List Char} (reads : command.Reads host settings tree document)
      (stumbles : Stumbles host document)

theorem compileFile_unknown {octets : List UInt8} {path : Path}
    (unknown : UnknownEncoding host settings.encoding) (found : tree.read path = .ok octets) :
    ∃ text, Template.compileFile host tree settings.encoding path =
      .error (.unknownEncoding text) := by
  obtain ⟨noNull, text, notFound⟩ := unknown
  refine ⟨text, ?_⟩
  unfold Template.compileFile
  rw [noNull, if_neg Bool.false_ne_true, found]
  simp only [notFound]

/-- A file that cannot be opened is not compiled, whatever the encoding. -/
theorem compileFile_unread {fault : FileFault} {path : Path}
    (noNull : settings.encoding.toList.contains (Char.ofNat 0) = false)
    (unread : tree.read path = .error fault) :
    Template.compileFile host tree settings.encoding path = .error (.file path fault) := by
  unfold Template.compileFile
  rw [noNull, if_neg Bool.false_ne_true, unread]

section Reliable

variable (reliable : host.Reliable)

include reliable

/-- The errors of template files are proper, but for an encoding that does not exist. -/
theorem compileFile_proper (path : Path) :
    Ends (fun _ => ∃ codec, host.codec settings.encoding = .ok codec)
      (fun error => (CommandError.source error).Proper ∨
        UnknownEncoding host settings.encoding ∧ ∃ octets, tree.read path = .ok octets)
      (Template.compileFile host tree settings.encoding path) := by
  refine (compileFile_ends host tree settings.encoding path).mono (fun _ => id) ?_
  rintro error (⟨rfl, -⟩ | ⟨fault, rfl⟩ | ⟨-, escapes⟩ | ⟨_, _, _, raised, known, decoded, rfl⟩ |
    ⟨fault, rfl⟩)
  · exact .inl (CommandError.source_proper (by simp) (by simp))
  · exact .inl (CommandError.source_proper (by simp) (by simp))
  · exact .inr escapes
  · refine .inl (CommandError.source_proper (by simp) ?_)
    rintro _ ⟨⟩
    exact .of_value (reliable.decodes known decoded)
  · exact .inl (CommandError.source_proper (by simp) (by simp))

/-- A rendering fails before it starts with an error that is reported, but for what lets an error
escape. -/
theorem prepareRendering_ends (template : String) (model output terminator : Option String) :
    Ends (fun _ => ∃ codec, host.codec settings.encoding = .ok codec)
      (fun error => error.Proper ∨
        (Command.render template model output terminator).Escapes host settings tree)
      (prepareRendering host settings tree template model) := by
  have ends := @compileFile_proper host tree settings reliable (Path.ofText template)
  unfold prepareRendering
  cases compiled : Template.compileFile host tree settings.encoding (Path.ofText template) with
  | error error =>
      refine (ends.error compiled).imp id ?_
      rintro ⟨unknown, found⟩
      exact .encoding unknown found
  | ok ready =>
      rw [compiled] at ends
      cases loaded : loadModel host tree model with
      | error error =>
          refine ((loadModel_ends reliable model).error loaded).imp id ?_
          rintro ⟨written, document, rfl, holds, stumbles⟩
          exact .document (.renderedModel compiled holds) stumbles
      | ok value => exact ends

variable {command : Command}

theorem renderToOutput_answers (template : Template.CompiledTemplate) (model : Value) :
    (renderToOutput host settings tree template model).Answers command := by
  have ends := Template.render_answered reliable template 0 settings.lineTerminator.text
    settings.acceptsText model
  unfold renderToOutput programResolver
  generalize template.render (Resolver.standard 0) settings.lineTerminator.text settings.acceptsText
    model host.world = rendered at ends ⊢
  obtain ⟨error | finished, state⟩ := rendered
  · exact .of_proper (CommandError.rendering_proper ends)
  · exact .success rfl

theorem renderToFile_answers {codec : Codec} (known : host.codec settings.encoding = .ok codec)
    (template : Template.CompiledTemplate) (model : Value) (path : Path) :
    (renderToFile host settings tree template model path).Answers command := by
  have ends := Template.render_answered reliable template 0 settings.lineTerminator.text
    settings.acceptsText model
  unfold renderToFile programResolver
  rw [known]
  cases tree.openPlace path with
  | error fault => exact .of_proper ⟨rfl, fault.message_visible path⟩
  | ok place =>
      simp only
      generalize template.render (Resolver.standard 0) settings.lineTerminator.text
        settings.acceptsText model host.world = rendered at ends ⊢
      obtain ⟨result, state⟩ := rendered
      cases pieced : encodePieces codec [] [] state.written.toList with
      | mk octets error? =>
          cases error? with
          | some error =>
              obtain ⟨before, piece, unwritten⟩ := encodePieces_raises [] [] _
                (congrArg Prod.snd pieced)
              exact .of_proper (CommandError.raised_proper
                (.of_value (reliable.encodes known unwritten)))
          | none =>
              cases result with
              | ok finished => exact .success rfl
              | error error => exact .of_proper (CommandError.rendering_proper ends)

omit reliable in
/-- With an encoding that does not exist, the checks of templates fail at the first one that can be
opened. -/
theorem checkTemplate_unknown {written : String} {octets : List UInt8}
    (unknown : UnknownEncoding host settings.encoding)
    (found : tree.read (Path.ofText written) = .ok octets) :
    ∃ text, checkTemplate host settings tree written = .error (.source (.unknownEncoding text)) := by
  obtain ⟨text, failed⟩ := compileFile_unknown unknown found
  refine ⟨text, ?_⟩
  unfold checkTemplate
  rw [failed]
  rfl

omit reliable in
/-- What cannot be opened is noted, unless its path cannot be one. -/
theorem checkTemplate_unread {written : String} {fault : FileFault}
    (noNull : settings.encoding.toList.contains (Char.ofNat 0) = false)
    (unread : tree.read (Path.ofText written) = .error fault) :
    (∃ check, checkTemplate host settings tree written = .ok check) ↔ fault ≠ .badPath := by
  unfold checkTemplate
  rw [compileFile_unread noNull unread]
  cases fault with
  | badPath => exact iff_of_false nofun fun other => other rfl
  | _ => exact iff_of_true ⟨_, rfl⟩ nofun

theorem checkTemplate_proper (written : String) :
    Ends (fun _ => True)
      (fun error => error.Proper ∨ UnknownEncoding host settings.encoding ∧
        ∃ octets, tree.read (Path.ofText written) = .ok octets)
      (checkTemplate host settings tree written) := by
  have ends := @compileFile_proper host tree settings reliable (Path.ofText written)
  unfold checkTemplate
  split
  · trivial
  · rename_i failed
    split
    · trivial
    · exact ends.error failed

theorem check_answers {templates : List String} {asJson : Bool}
    (stays : ¬ (Command.check templates asJson).Escapes host settings tree) :
    (Command.run host settings tree (.check templates asJson)).Answers
      (.check templates asJson) := by
  cases checked : templates.mapM (checkTemplate host settings tree) with
  | ok checks =>
      rw [run_check checked]
      cases bad : checks.all (·.isOk) with
      | true => exact .success (by rw [reportOutcome, bad]; rfl)
      | false => exact .badReport rfl (by rw [reportOutcome, bad]; rfl)
  | error error =>
      rw [run_check_error checked]
      obtain ⟨before, written, after, rfl, each, failed⟩ := exists_first_of_mapM checked
      rcases (checkTemplate_proper reliable written).error failed with proper | ⟨unknown, found⟩
      · exact .of_proper proper
      · refine absurd (.encoding unknown ⟨before, written, after, rfl, fun earlier member => ?_, found⟩)
          stays
        have passed := each earlier member
        cases unread : tree.read (Path.ofText earlier) with
        | error fault =>
            exact ⟨fault, rfl, (checkTemplate_unread unknown.noNull unread).mp passed⟩
        | ok octets =>
            obtain ⟨text, broken⟩ := checkTemplate_unknown unknown unread
            obtain ⟨check, checked⟩ := passed
            cases checked.symm.trans broken

/-- But for what lets an error escape, a command ends as it should. -/
theorem Command.answers (stays : ¬ command.Escapes host settings tree) :
    (command.run host settings tree).Answers command := by
  cases command with
  | evaluate expression model parameters asJson =>
      have ends := @evaluateExpression_ends host tree settings reliable expression model parameters
        asJson
      unfold Command.run
      simp only
      cases evaluated : evaluateExpression host tree expression model parameters with
      | ok value => exact .success rfl
      | error error =>
          rcases ends.error evaluated with proper | ⟨document, reads, stumbles⟩
          · exact .of_proper proper
          · exact absurd (.document reads stumbles) stays
  | render template model output terminator =>
      have ends := @prepareRendering_ends host tree settings reliable template model output terminator
      unfold Command.run
      simp only
      cases prepared : prepareRendering host settings tree template model with
      | error error =>
          rcases ends.error prepared with proper | escapes
          · exact .of_proper proper
          · exact absurd escapes stays
      | ok ready =>
          rw [prepared] at ends
          obtain ⟨codec, known⟩ := ends
          cases output with
          | none => exact renderToOutput_answers reliable _ _
          | some path => exact renderToFile_answers reliable known _ _ _
  | check templates asJson => exact check_answers reliable stays

end Reliable

/-- A command that opens a template with an encoding that does not exist is broken off. -/
theorem Command.breaks_of_encoding {command : Command} (unknown : UnknownEncoding host settings.encoding)
    (opens : command.OpensTemplate tree) :
    ∃ error, (command.run host settings tree).ending = .broken error := by
  cases command with
  | evaluate => cases opens
  | render template model output terminator =>
      obtain ⟨octets, found⟩ := opens
      obtain ⟨text, failed⟩ := compileFile_unknown unknown found
      have stopped : prepareRendering host settings tree template model =
          .error (.source (.unknownEncoding text)) := by
        unfold prepareRendering
        rw [failed]
        rfl
      unfold Command.run
      simp only [stopped]
      exact ⟨_, rfl⟩
  | check templates asJson =>
      obtain ⟨before, written, after, rfl, unread, octets, found⟩ := opens
      obtain ⟨text, broken⟩ := checkTemplate_unknown unknown found
      have failed : (before ++ written :: after).mapM (checkTemplate host settings tree) =
          .error (.source (.unknownEncoding text)) := by
        refine mapM_of_first (fun earlier member => ?_) broken
        obtain ⟨fault, missing, notBad⟩ := unread earlier member
        exact (checkTemplate_unread unknown.noNull missing).mpr notBad
      rw [run_check_error failed]
      exact ⟨_, rfl⟩

/-- A command that reads a document for which something is raised that is not reported is broken
off. -/
theorem Command.breaks_of_document {command : Command} {document : List Char}
    (reads : command.Reads host settings tree document) (stumbles : Stumbles host document) :
    ∃ error, (command.run host settings tree).ending = .broken error := by
  cases reads with
  | @evaluatedModel expression written parameters asJson _ holds =>
      obtain ⟨raised, failed, unreported⟩ := loadModel_stumbles holds stumbles
      have stopped : evaluateExpression host tree expression (some written) parameters =
          .error (.raised raised) := by
        unfold evaluateExpression
        rw [failed]
        rfl
      unfold Command.run
      simp only [stopped]
      exact ⟨_, failWith_broken unreported⟩
  | @parameter expression written model before after asJson value loaded earlier =>
      obtain ⟨raised, failed, unreported⟩ := stumbles
      have here : readParameter host written = .error (.raised raised) := by
        unfold readParameter
        rw [failed]
      have stopped : evaluateExpression host tree expression model (before ++ written :: after) =
          .error (.raised raised) := by
        unfold evaluateExpression
        rw [loaded, mapM_of_first earlier here]
        rfl
      unfold Command.run
      simp only [stopped]
      exact ⟨_, failWith_broken unreported⟩
  | @renderedModel template written output terminator compiled _ ready holds =>
      obtain ⟨raised, failed, unreported⟩ := loadModel_stumbles holds stumbles
      have stopped : prepareRendering host settings tree template (some written) =
          .error (.raised raised) := by
        unfold prepareRendering
        rw [ready, failed]
        rfl
      unfold Command.run
      simp only [stopped]
      exact ⟨_, failWith_broken unreported⟩

theorem Command.breaks {command : Command} (escapes : command.Escapes host settings tree) :
    ∃ error, (command.run host settings tree).ending = .broken error := by
  cases escapes with
  | encoding unknown opens => exact Command.breaks_of_encoding unknown opens
  | document reads stumbles => exact Command.breaks_of_document reads stumbles

/-! ### Invocations -/

/-- What lets an error of the program escape: settings with keys that have no order, settings that
raise as a document what is not reported, or the command itself. -/
inductive Invocation.Escapes (host : Host) (invocation : Invocation) (tree : Tree) : Prop
  | settings {path : String} {document : List Char} (config : invocation.config = some path)
      (holds : HoldsDocument tree (Path.ofText path) document)
      (refused : UnorderedKeys host document ∨ Stumbles host document)
  | command {settings : Settings} (loaded : invocation.settings host tree = .ok settings)
      (escapes : invocation.command.Escapes host settings tree)

/-- Only the file of settings can be refused; the terminator that a command names is one. -/
theorem Invocation.settings_proper (reliable : host.Reliable) (invocation : Invocation) :
    Ends (fun _ => True)
      (fun error => error.Proper ∨ ∃ path document, invocation.config = some path ∧
        HoldsDocument tree (Path.ofText path) document ∧
          (UnorderedKeys host document ∨ Stumbles host document))
      (invocation.settings host tree) := by
  obtain ⟨config, command⟩ := invocation
  cases config with
  | none =>
      unfold Invocation.settings
      simp only [pure_bind]
      split
      · split <;> trivial
      · trivial
  | some path =>
      refine Ends.bind (Q := fun _ => True) ?_ fun settings _ => ?_
      · refine (loadFile_proper reliable (Path.ofText path)).mapError _ fun error ends => ?_
        exact ends.imp id fun ⟨document, holds, refused⟩ => ⟨path, document, rfl, holds, refused⟩
      · simp only
        split
        · split <;> trivial
        · trivial

end CommandLine

end Stencil
