/-
Module: Stencil.Proofs.CommandLine.Checks
Purpose: Several templates are checked as each would be alone, unless one of them cannot be judged.
Main exports: KnownEncoding, isJudged, ChecksEach, check_each
-/
import Stencil.Proofs.CommandLine.Hosts

namespace Stencil

namespace CommandLine

open Config File Text
open Template (SourceError compileFile)

/-! ### One template -/

/-- A name that belongs to an encoding. -/
structure KnownEncoding (host : Host) (name : String) (codec : Codec) : Prop where
  noNull : name.toList.contains (Char.ofNat 0) = false
  found : host.codec name = .ok codec

/-- An encoding that does not exist, by a name that could be one. -/
structure UnknownEncoding (host : Host) (name : String) : Prop where
  noNull : name.toList.contains (Char.ofNat 0) = false
  notFound : ∃ text, host.codec name = .error text

/-- Whether a template can be judged: its path can be one, no bytes that are no text stand behind
lines that compile, and no condition has an integer with too many digits. -/
def isJudged (host : Host) (settings : Settings) (tree : Tree) (written : String) : Bool :=
  match compileFile host tree settings.encoding (Path.ofText written) with
  | .error (.file _ .badPath) => false
  | .error (.decoding error) => error.isA "ELTUserError" || error.isA "OSError"
  | .error (.compilation error) => error.fault.isLocated
  | _ => true

variable {host : Host} {settings : Settings} {tree : Tree} {codec : Codec} {written : String}

theorem compileOctets_ends (codec : Codec) (uri : Option String) (octets : List UInt8) :
    Ends (fun _ => True) (fun error =>
      (∃ text raised, codec.decode octets = (text, some raised) ∧ error = .decoding raised) ∨
        ∃ fault, error = .compilation fault) (Template.compileOctets codec uri octets) := by
  unfold Template.compileOctets
  split
  · split
    · trivial
    · exact .inr ⟨_, rfl⟩
  · rename_i text raised decoded
    split
    · exact .inl ⟨text, raised, decoded, rfl⟩
    · exact .inr ⟨_, rfl⟩

/-- A template file is not compiled because the name of its encoding cannot be one, it cannot be
opened, its encoding does not exist, it is no text, or it is no template. -/
theorem compileFile_ends (host : Host) (tree : Tree) (name : String) (path : Path) :
    Ends (fun _ => ∃ codec, host.codec name = .ok codec)
      (fun error =>
        (error = .badEncodingName ∧ name.toList.contains (Char.ofNat 0) = true) ∨
        (∃ fault, error = .file path fault) ∨
        ((∃ text, error = .unknownEncoding text) ∧ UnknownEncoding host name ∧
          ∃ octets, tree.read path = .ok octets) ∨
        (∃ codec octets text raised, host.codec name = .ok codec ∧
          codec.decode octets = (text, some raised) ∧ error = .decoding raised) ∨
        ∃ fault, error = .compilation fault)
      (compileFile host tree name path) := by
  unfold compileFile
  split
  · rename_i null
    exact .inl ⟨rfl, null⟩
  · rename_i noNull
    split
    · exact .inr (.inl ⟨_, rfl⟩)
    · rename_i octets found
      split
      · rename_i text notFound
        have unknown : UnknownEncoding host name := ⟨by simpa using noNull, text, notFound⟩
        exact .inr (.inr (.inl ⟨⟨text, rfl⟩, unknown, octets, found⟩))
      · rename_i codec known
        refine (compileOctets_ends codec _ _).mono (fun _ _ => ⟨codec, known⟩) fun error ends => ?_
        refine .inr (.inr (.inr (ends.imp_left ?_)))
        rintro ⟨text, raised, decoded, rfl⟩
        exact ⟨codec, octets, text, raised, known, decoded, rfl⟩

theorem checkTemplate_path {check : TemplateCheck}
    (checked : checkTemplate host settings tree written = .ok check) : check.path = written := by
  unfold checkTemplate at checked
  split at checked
  · cases checked
    rfl
  · split at checked
    · cases checked
      rfl
    · cases checked

/-- A template that can be judged has a check, under the path that was given. -/
theorem checkTemplate_of_judged (known : KnownEncoding host settings.encoding codec)
    (judged : isJudged host settings tree written = true) :
    ∃ result, checkTemplate host settings tree written = .ok ⟨written, result⟩ := by
  have ends := compileFile_ends host tree settings.encoding (Path.ofText written)
  unfold isJudged at judged
  unfold checkTemplate
  cases compiled : compileFile host tree settings.encoding (Path.ofText written) with
  | ok template => exact ⟨_, rfl⟩
  | error error =>
      rw [compiled] at ends judged
      have noted : isNoted error = true := by
        rcases ends with ⟨rfl, null⟩ | ⟨fault, rfl⟩ | ⟨⟨text, rfl⟩, unknown, -⟩ |
          ⟨_, _, _, raised, -, -, rfl⟩ | ⟨fault, rfl⟩
        · rw [known.noNull] at null
          cases null
        · cases fault with
          | badPath => cases judged
          | _ => rfl
        · obtain ⟨_, notFound⟩ := unknown.notFound
          cases known.found.symm.trans notFound
        · exact judged
        · exact judged
      simp only [noted, if_true]
      exact ⟨_, rfl⟩

/-- A template that cannot be judged is an error, which is reported if what bytes without text raise is
about values. -/
theorem checkTemplate_of_unjudged (unjudged : isJudged host settings tree written = false) :
    ∃ error : CommandError, checkTemplate host settings tree written = .error error ∧
      (host.Decodes → error.Proper) := by
  have ends := compileFile_ends host tree settings.encoding (Path.ofText written)
  unfold isJudged at unjudged
  unfold checkTemplate
  cases compiled : compileFile host tree settings.encoding (Path.ofText written) with
  | ok template =>
      rw [compiled] at unjudged
      cases unjudged
  | error error =>
      rw [compiled] at ends unjudged
      rcases ends with ⟨rfl, -⟩ | ⟨fault, rfl⟩ | ⟨⟨text, rfl⟩, -, -⟩ |
        ⟨_, _, _, raised, known, decoded, rfl⟩ | ⟨fault, rfl⟩
      · cases unjudged
      · cases fault with
        | badPath => exact ⟨_, rfl, fun _ => CommandError.source_proper (by simp) (by simp)⟩
        | _ => cases unjudged
      · cases unjudged
      · have other : isNoted (.decoding raised) = false := unjudged
        simp only [other, Bool.false_eq_true, if_false]
        refine ⟨_, rfl, fun decodes => CommandError.source_proper (by simp) ?_⟩
        rintro _ ⟨⟩
        exact .of_value (decodes known decoded)
      · have other : isNoted (.compilation fault) = false := unjudged
        simp only [other, Bool.false_eq_true, if_false]
        exact ⟨_, rfl, fun _ => CommandError.source_proper (by simp) (by simp)⟩

/-! ### Several templates -/

/-- What a report on checks leaves behind. -/
def reportOutcome (asJson : Bool) (tree : Tree) (checks : List TemplateCheck) : Outcome where
  ending := .exit (if checks.all (·.isOk) then 0 else 2)
  output :=
    if asJson then documentLine (CheckReport.document ⟨checks⟩) else CheckReport.text ⟨checks⟩
  tree := tree

theorem run_check {templates : List String} {asJson : Bool} {checks : List TemplateCheck}
    (checked : templates.mapM (checkTemplate host settings tree) = .ok checks) :
    Command.run host settings tree (.check templates asJson) = reportOutcome asJson tree checks := by
  simp only [Command.run, checked]
  rfl

theorem run_check_error {templates : List String} {asJson : Bool} {error : CommandError}
    (failed : templates.mapM (checkTemplate host settings tree) = .error error) :
    Command.run host settings tree (.check templates asJson) = failWith tree error := by
  simp only [Command.run, failed]

theorem failWith_proper {error : CommandError} (proper : error.Proper) :
    failWith tree error = { ending := .exit 2, errors := error.report, tree } := by
  unfold failWith
  rw [if_pos proper.reported]

theorem failWith_broken {error : CommandError} (unreported : error.isReported = false) :
    (failWith tree error).ending = .broken error := by
  unfold failWith
  rw [unreported]
  rfl

theorem failWith_output (tree : Tree) (error : CommandError) : (failWith tree error).output = "" := by
  unfold failWith
  split <;> rfl

/-- Templates are checked each for itself: the report has one check for each of them, in order, and
it is the one that the report on this template alone has. -/
def ChecksEach (host : Host) (settings : Settings) (tree : Tree) (templates : List String)
    (asJson : Bool) : Prop :=
  ∃ checks, Command.run host settings tree (.check templates asJson) =
      reportOutcome asJson tree checks ∧
    List.Forall₂ (fun written check => check.path = written ∧
      Command.run host settings tree (.check [written] asJson) = reportOutcome asJson tree [check])
      templates checks

/-- With an encoding, templates that can be judged are checked each for itself.  The first one that
cannot be judged ends the command, as it does alone: without any report, and with its message if what
bytes without text raise is about values. -/
theorem check_each (known : KnownEncoding host settings.encoding codec) (templates : List String)
    (asJson : Bool) :
    ((∀ written ∈ templates, isJudged host settings tree written = true) →
      ChecksEach host settings tree templates asJson) ∧
    ∀ before written after, templates = before ++ written :: after →
      (∀ earlier ∈ before, isJudged host settings tree earlier = true) →
      isJudged host settings tree written = false →
        let alone := Command.run host settings tree (.check [written] asJson)
        Command.run host settings tree (.check templates asJson) = alone ∧ alone.output = "" ∧
          (host.Decodes → alone.ending = .exit 2 ∧ Visible alone.errors) := by
  have each : ∀ {paths : List String},
      (∀ written ∈ paths, isJudged host settings tree written = true) →
        ∀ written ∈ paths, ∃ check, checkTemplate host settings tree written = .ok check := by
    intro paths judged written member
    obtain ⟨result, checked⟩ := checkTemplate_of_judged known (judged written member)
    exact ⟨_, checked⟩
  constructor
  · intro judged
    obtain ⟨checks, checked, relates⟩ := mapM_of_each (each judged)
    refine ⟨checks, run_check checked, ?_⟩
    refine relates.imp fun written check here => ⟨checkTemplate_path here, ?_⟩
    have alone : [written].mapM (checkTemplate host settings tree) = .ok [check] := by
      rw [mapM_single, here]
      rfl
    exact run_check alone
  · rintro before written after rfl judged unjudged
    obtain ⟨error, failed, proper⟩ := checkTemplate_of_unjudged unjudged
    have together : (before ++ written :: after).mapM (checkTemplate host settings tree) =
        .error error := mapM_of_first (each judged) failed
    have alone : [written].mapM (checkTemplate host settings tree) = .error error := by
      rw [mapM_single, failed]
      rfl
    rw [run_check_error together, run_check_error alone]
    refine ⟨rfl, failWith_output tree error, fun decodes => ?_⟩
    rw [failWith_proper (proper decodes)]
    exact ⟨rfl, CommandError.report_visible (proper decodes).visible⟩

/-- A directory with a template that does not compile, one that does, and a file that is no text. -/
def threeFiles : Tree where
  files :=
    [(["open.tpl"], "<% if true %>\n".toUTF8.toList), (["plain.tpl"], "x\n".toUTF8.toList),
      (["bytes.tpl"], [0xff])]

theorem utf8_known : KnownEncoding commonHost "utf-8" Encoding.utf8.codec where
  noNull := by decide
  found := by
    show commonCodec "utf-8" = _
    rw [commonCodec_eq_ok_iff]
    exact ⟨.utf8, by decide +kernel, rfl⟩

/-- A missing file and an open block do not keep the last template from being checked. -/
theorem check_each_bad_files :
    KnownEncoding commonHost "utf-8" Encoding.utf8.codec ∧
      (∀ written ∈ ["none.tpl", "open.tpl", "plain.tpl"],
        isJudged commonHost {} threeFiles written = true) ∧
      ChecksEach commonHost {} threeFiles ["none.tpl", "open.tpl", "plain.tpl"] false := by
  have judged : ∀ written ∈ ["none.tpl", "open.tpl", "plain.tpl"],
      isJudged commonHost {} threeFiles written = true := by
    decide +kernel
  exact ⟨utf8_known, judged, (check_each utf8_known _ false).1 judged⟩

/-- A file that is no text leaves nothing of the report on the template behind it. -/
theorem bytes_stop_checks :
    ¬ ∀ (host : Host) (settings : Settings) (tree : Tree) (codec : Codec) (templates : List String)
      (asJson : Bool), KnownEncoding host settings.encoding codec → templates ≠ [] →
        ChecksEach host settings tree templates asJson := by
  intro every
  obtain ⟨checks, reported, -⟩ :=
    every commonHost {} threeFiles _ ["bytes.tpl", "plain.tpl"] false utf8_known (by simp)
  have shown : (Command.run commonHost {} threeFiles
      (.check ["bytes.tpl", "plain.tpl"] false)).errors ≠ "" := by
    decide +kernel
  rw [reported] at shown
  exact shown rfl

end CommandLine

end Stencil
