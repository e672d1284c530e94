/-
Module: Stencil.Proofs.Template.LiteralText
Purpose: Templates that are texts without commands and references: what is written of them, and that
  it is a template for itself.
Main exports: compile_plain, render_plain, literal_round_trip
-/
import Stencil.Proofs.Template.CompilerExactness
import Stencil.Proofs.Template.Substitutions
import Stencil.Proofs.Text.LineEnds

namespace Stencil.Template

open Stencil.Text (IsLineOf contents terminated universalLines withoutLineEnd)

/-! ### Compiling -/

/-- A line is plain if it is no command and has no references. -/
structure Plain (content : List Char) : Prop where
  noDirective : isDirective content = false
  noReference : ¬ Opens content

/-- The step of a plain line. -/
def plainAction (content : List Char) : Action :=
  .line (String.ofList content)

theorem allLines_plain (lines : List (List Char)) :
    Block.allLines (lines.map fun content => .literal ⟨[], content⟩) =
      lines.map fun content => .literal ⟨[], content⟩ := by
  induction lines with
  | nil => rfl
  | cons content rest ih => rw [List.map_cons, List.map_cons, Block.allLines, ih]; rfl

theorem allActions_plain (line : Nat) (lines : List (List Char)) :
    Block.allActions line (lines.map fun content => .literal ⟨[], content⟩) =
      lines.map plainAction := by
  induction lines generalizing line with
  | nil => rfl
  | cons content rest ih => rw [List.map_cons, List.map_cons, Block.allActions, ih]; rfl

/-- Plain lines are compiled to one step each. -/
theorem compile_plain (uri : Option String) {lines : List (List Char)}
    (plain : ∀ content ∈ lines.map withoutLineEnd, Plain content) :
    compile uri lines =
      .ok ⟨(lines.map withoutLineEnd).map plainAction, uri, lines.length⟩ := by
  have makeUp : MakeUp ((lines.map withoutLineEnd).map fun content => .literal ⟨[], content⟩)
      lines := by
    unfold MakeUp
    rw [allLines_plain, List.map_map, List.map_map]
    refine List.map_congr_left fun line member => ?_
    obtain ⟨noDirective, noReference⟩ := plain _ (List.mem_map_of_mem member)
    simp only [SourceLine.read?, noDirective, read_of_plain noReference]
    rfl
  rw [compile_of_makeUp uri makeUp, allActions_plain]

/-! ### Rendering -/

/-- The steps of plain lines write these lines, each with a terminator. -/
theorem run_plain (setting : RenderSetting) (lines : List (List Char)) (before : Rendering) :
    ∃ after, (renderAll setting (lines.map plainAction)).run.run before = (.ok (), after) ∧
      before.Wrote before.world
        (String.ofList (lines.flatMap (· ++ setting.terminator.toList))) after := by
  induction lines generalizing before with
  | nil => exact ⟨before, rfl, .nothing before before.world⟩
  | cons content rest ih =>
      obtain ⟨between, ran, wrote⟩ := run_line setting (String.ofList content) before
      obtain ⟨after, ran', wrote'⟩ := ih between
      refine ⟨after, ?_, ?_⟩
      · rw [List.map_cons, renderAll, plainAction, run_bind_ok ran, ran']
      · rw [wrote.world] at wrote'
        rw [List.flatMap_cons, String.ofList_append, String.ofList_append, String.ofList_toList]
        exact wrote.andThen wrote'

/-- With a terminator, a template writes a text on every model and does nothing to the objects. -/
def AlwaysWrites (template : CompiledTemplate) (terminator text : String) : Prop :=
  ∀ (resolver : Resolver) (acceptsText : Bool) (model : Value) (world : World), ∃ after,
    template.render resolver terminator acceptsText model world = (.ok (), after) ∧
      after.world = world ∧ after.output = text

/-- Lines that are plain make a template, which writes them with a terminator each. -/
theorem alwaysWrites_plain (uri : Option String) (terminator : String) {text : String}
    (plain : ∀ content ∈ contents text.toList, Plain content) :
    ∃ template, compileText uri text = .ok template ∧
      AlwaysWrites template terminator
        (String.ofList (terminated terminator.toList text.toList)) := by
  refine ⟨_, compile_plain uri plain, fun resolver acceptsText model world => ?_⟩
  obtain ⟨after, ran, wrote⟩ := run_plain ⟨resolver, uri, terminator, acceptsText⟩
    (contents text.toList) ⟨world, .value model, #[]⟩
  refine ⟨after, ran, wrote.world, ?_⟩
  rw [wrote.output, Text.flatMap_contents]
  exact String.empty_append

/-! ### Round trip -/

/-- The lines of a text without references and commands are plain. -/
theorem plain_contents {text : List Char} (noReference : ¬ Opens text)
    (noDirective : ∀ line, IsLineOf line text → isDirective line = false) :
    ∀ content ∈ contents text, Plain content := by
  intro content member
  have line := Text.isLineOf_of_mem_contents text content member
  refine ⟨noDirective content line, fun opens => noReference ?_⟩
  obtain ⟨before, after, rfl, -⟩ := line
  exact opens.trans ⟨before, after, rfl⟩

/-- A text without references and commands is a template that writes this text on every model, with the
terminator for all of its line ends and also behind its last line.  All other characters are as
before, and what is written is a template that writes itself. -/
theorem literal_round_trip (uri : Option String) (terminator : Config.LineTerminator)
    {text : String} (noReference : ¬ Opens text.toList)
    (noDirective : ∀ line, IsLineOf line text.toList → isDirective line = false) :
    let written := String.ofList (terminated terminator.text.toList text.toList)
    (∃ template, compileText uri text = .ok template ∧
        AlwaysWrites template terminator.text written) ∧
      written.toList.filter (!Text.isLineEnd ·) = text.toList.filter (!Text.isLineEnd ·) ∧
      ∃ again, compileText uri written = .ok again ∧ AlwaysWrites again terminator.text written := by
  intro written
  have plain := plain_contents noReference noDirective
  have unbroken : ∀ content ∈ contents text.toList, Text.Unbroken content := by
    intro content member
    obtain ⟨_, _, _, unbroken, _⟩ := Text.isLineOf_of_mem_contents text.toList content member
    exact unbroken
  -- What is written has the same lines, so it is plain, and its line ends stay what they are.
  have sameLines : contents written.toList = contents text.toList := by
    rw [String.toList_ofList, ← Text.flatMap_contents]
    exact Text.contents_flatMap terminator unbroken
  have same : terminated terminator.text.toList written.toList = written.toList := by
    rw [← Text.flatMap_contents, sameLines, Text.flatMap_contents, String.toList_ofList]
  refine ⟨alwaysWrites_plain uri terminator.text plain, ?_, ?_⟩
  · rw [String.toList_ofList]
    exact Text.filter_terminated terminator text.toList
  · have again := alwaysWrites_plain uri terminator.text (sameLines.symm ▸ plain)
    rwa [same, String.ofList_toList] at again

/-- A text with all line ends, blank lines, a form feed and no end of its last line. -/
def mixedText : String :=
  "a\r\r\nb\x0c\n\rc"

theorem literal_round_trip_mixed :
    ¬ Opens mixedText.toList ∧
      (∀ line, IsLineOf line mixedText.toList → isDirective line = false) ∧
      (∃ template, compileText none mixedText = .ok template ∧
        AlwaysWrites template "\r\n" "a\r\n\r\nb\x0c\r\n\r\nc\r\n") ∧
      ∃ again, compileText none "a\r\n\r\nb\x0c\r\n\r\nc\r\n" = .ok again ∧
        AlwaysWrites again "\r\n" "a\r\n\r\nb\x0c\r\n\r\nc\r\n" := by
  have noReference : ¬ Opens mixedText.toList := by decide +kernel
  have noDirective : ∀ line, IsLineOf line mixedText.toList →
      isDirective line = false := by
    rintro line ⟨before, after, parts, -⟩
    rw [← Bool.not_eq_true]
    intro directive
    -- A command holds an angle bracket, and the text does not.
    have marked : ['<', '%'] <+: line := by
      simp only [isDirective, Bool.and_eq_true, List.isPrefixOf_iff_prefix] at directive
      exact directive.1.2
    have member : '<' ∈ mixedText.toList := by
      rw [parts]
      exact List.mem_append_left _ (List.mem_append_right _ (marked.subset List.mem_cons_self))
    exact absurd member (by decide +kernel)
  have written : String.ofList (terminated "\r\n".toList mixedText.toList) =
      "a\r\n\r\nb\x0c\r\n\r\nc\r\n" := by
    decide +kernel
  obtain ⟨first, -, again⟩ :=
    literal_round_trip none .carriageReturnLineFeed noReference noDirective
  rw [← written]
  exact ⟨noReference, noDirective, first, again⟩

end Stencil.Template
