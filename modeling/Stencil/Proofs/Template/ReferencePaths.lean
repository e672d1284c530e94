/-
Module: Stencil.Proofs.Template.ReferencePaths
Purpose: References to paths of the expression language: they write what the expression with the
  conversion to a text behind the path is evaluated to.
Main exports: referenceTo, feed_referenceTo, reference_agrees
-/
import Stencil.Proofs.Expr.PathTexts
import Stencil.Proofs.Template.Substitutions

namespace Stencil.Template

open Stencil.Expr (Expression IsPath asText)

/-- A line that is a reference to a path. -/
def referenceTo (path : List Char) : List Char :=
  '$' :: '\x7b' :: (path ++ ['\x7d'])

section Line

variable {path : List Char}

theorem trim_of_solid (solid : ∀ character ∈ path, Text.isBlank character = false) :
    Text.trim path = path := by
  have kept {text : List Char} (solid : ∀ character ∈ text, Text.isBlank character = false) :
      text.dropWhile Text.isBlank = text :=
    List.dropWhile_eq_self_iff.mpr fun nonempty =>
      Bool.not_eq_true _ ▸ solid _ (List.getElem_mem nonempty)
  unfold Text.trim Text.trimEnd Text.trimStart
  rw [kept solid, kept fun character member => solid character (List.mem_reverse.mp member),
    List.reverse_reverse]

theorem fallsInto_referenceTo (isPath : IsPath path) :
    FallsInto (referenceTo path) [⟨[], path⟩] [] := by
  have noOpening : ¬ Opens path := fun opens =>
    isPath.not_mem (by decide) (by decide)
      (opens.subset (List.mem_cons_of_mem '$' List.mem_cons_self))
  refine ⟨by simp [referenceTo, allCharacters, WrittenReference.characters],
    List.forall_mem_singleton.mpr ?_, not_opens_nil⟩
  refine ⟨not_opens_nil, isPath.not_mem (by decide) (by decide), noOpening, ?_⟩
  rw [trim_of_solid isPath.solid]
  exact isPath.ne_nil

/-- The line is taken in as the step of the path and the end of the line. -/
theorem feed_referenceTo (uri : Option String) (state : Compilation) (isPath : IsPath path) :
    let counted := { state with lineCount := state.lineCount + 1 }
    Compilation.feed uri state (referenceTo path) =
      .ok (counted.add [.value (String.ofList path) counted.lineCount, .line ""]) := by
  have whole : Text.withoutLineEnd (referenceTo path) = referenceTo path := by
    simp [Text.withoutLineEnd, referenceTo, Text.isLineEnd]
  have literal : isDirective (referenceTo path) = false := by
    simp [isDirective, referenceTo]
  intro counted
  rw [feed_of_literal uri state (whole.symm ▸ literal), whole,
    (fallsInto_referenceTo isPath).addLiteral]
  simp [literalActions, referenceActions, WrittenReference.meant, trim_of_solid isPath.solid,
    counted, Except.mapError]

end Line

/-- What a reference to a path writes is what an expression is evaluated to, given how the lookup of the
path ended, how the evaluation did, and how the rendering of the line did. -/
structure ReadAsText (setting : RenderSetting) (line : Nat) (path : String) (before : Rendering)
    (looked : Except LookupError Value × World) (evaluated : Except Expr.Failure Value × World)
    (ran : Except RenderError Unit × Rendering) : Prop where
  /-- A value is written as the text that the expression is evaluated to. -/
  value : ∀ value text, looked.1 = .ok value → value.isNull = false →
    looked.2.text value = .ok text →
    evaluated.1 = .ok (.text text) ∧ ran.1 = .ok () ∧
      ran.2.output = before.output ++ (text ++ setting.terminator)
  /-- What a value raises that has no text passes on both sides. -/
  unwritable : ∀ value raised, looked.1 = .ok value → value.isNull = false →
    looked.2.text value = .error raised →
    evaluated.1 = .error (.lookup (.raised raised)) ∧ ran.1 = .error (.lookup (.raised raised)) ∧
      ran.2.output = before.output
  /-- At null only the expression has a value. -/
  null : ∀ value, looked.1 = .ok value → value.isNull = true →
    evaluated.1 = .ok (.text "null") ∧
      ran.1 = .error (.located (.nullVariable path) line setting.uri) ∧
      ran.2.output = before.output
  /-- A failure of resolution is told with the same words, by the line together with its place. -/
  unresolved : ∀ error, looked.1 = .error error → error.isResolution = true →
    evaluated.1 = .error (.lookup error) ∧
      ran.1 = .error (.located (.unresolved error) line setting.uri) ∧
      (RenderFault.unresolved error).message = (Expr.Failure.lookup error).message ∧
      ran.2.output = before.output
  /-- Other failures of the lookup pass. -/
  failure : ∀ error, looked.1 = .error error → error.isResolution = false →
    evaluated.1 = .error (.lookup error) ∧ ran.1 = .error (.lookup error) ∧
      ran.2.output = before.output
  once : evaluated.2 = looked.2 ∧ ran.2.world = looked.2

section Outcomes

variable {setting : RenderSetting} {before : Rendering} {path : String} {line : Nat}

/-- The steps of the line write a value and the terminator. -/
theorem Has.run_reference {value : Value} {text : String} {world : World}
    (has : Has setting.resolver before.model before.world path value text world) (line : Nat) :
    ∃ after, (renderAll setting [.value path line, .line ""]).run.run before = (.ok (), after) ∧
      before.Wrote world (text ++ setting.terminator) after := by
  obtain ⟨between, ran, wrote⟩ := has.run_value line
  obtain ⟨after, ran', wrote'⟩ := run_line setting "" between
  rw [wrote.world, String.empty_append] at wrote'
  refine ⟨after, ?_, wrote.andThen wrote'⟩
  rw [renderAll, renderAll_singleton, run_bind_ok ran, ran']

theorem Lacks.run_reference {error : RenderError} {world : World}
    (lacks : Lacks setting line before.model before.world path error world) :
    (renderAll setting [.value path line, .line ""]).run.run before =
      (.error error, { before with world }) := by
  rw [renderAll, run_bind_error lacks.run_value]

theorem text_of_isNull {value : Value} (world : World) (null : value.isNull = true) :
    world.text value = .ok "null" := by
  cases value with
  | null => rfl
  | _ => cases null

/-- A value with a text is converted to it. -/
theorem asText_written {world : World} {value : Value} {text : String}
    (written : world.text value = .ok text) : Expr.toText world value = .ok (.text text) := by
  rw [Expr.toText, written]
  rfl

/-- A value without one is not converted. -/
theorem asText_unwritten {world : World} {value : Value} {raised : Raised}
    (unwritten : world.text value = .error raised) :
    Expr.toText world value = .error (.lookup (.raised raised)) := by
  rw [Expr.toText, unwritten]
  rfl

end Outcomes

/-- The rendering of the line goes with the evaluation of the expression. -/
theorem readAsText {path : List Char} (isPath : IsPath path) (setting : RenderSetting)
    (parameters : List Value) (line : Nat) (before : Rendering)
    (present : before.model.isNull = false) :
    ReadAsText setting line (String.ofList path) before
      ((setting.resolver.getValue before.model (String.ofList path)).run.run before.world)
      ((Expr.evaluatePath ⟨setting.resolver, before.model, parameters⟩
        (String.ofList (asText path))).run.run before.world)
      ((renderAll setting [.value (String.ofList path) line, .line ""]).run.run before) := by
  obtain ⟨⟨result, world⟩, looked⟩ : ∃ ended,
    (setting.resolver.getValue before.model (String.ofList path)).run.run before.world = ended :=
      ⟨_, rfl⟩
  have evaluated := Expr.run_asText ⟨setting.resolver, before.model, parameters⟩ isPath.ne_nil present
    looked
  rw [looked, evaluated]
  cases result with
  | error error =>
      have lacks : Lacks setting line before.model before.world (String.ofList path) _ world :=
        .failed present looked
      rw [lacks.run_reference]
      constructor
      case value | unwritable =>
        intro _ _ same
        cases same
      case null =>
        intro _ same
        cases same
      case unresolved =>
        rintro _ ⟨⟩ resolution
        exact ⟨rfl, by rw [lookupStop, if_pos resolution], rfl, rfl⟩
      case failure =>
        rintro _ ⟨⟩ other
        exact ⟨rfl, by rw [lookupStop, other]; rfl, rfl⟩
      case once => exact ⟨rfl, rfl⟩
  | ok value =>
      cases null : value.isNull with
      | true =>
          have lacks : Lacks setting line before.model before.world (String.ofList path) _ world :=
            .null present looked null
          rw [lacks.run_reference]
          constructor
          case value | unwritable =>
            rintro _ _ ⟨⟩ notNull
            rw [null] at notNull
            cases notNull
          case null =>
            rintro _ ⟨⟩ -
            refine ⟨?_, rfl, rfl⟩
            exact asText_written (text_of_isNull world null)
          case unresolved | failure =>
            intro _ same
            cases same
          case once => exact ⟨rfl, rfl⟩
      | false =>
          cases written : world.text value with
          | ok text =>
              have has : Has setting.resolver before.model before.world (String.ofList path) value
                  text world := ⟨present, looked, null, written⟩
              obtain ⟨after, ran, wrote⟩ := has.run_reference line
              rw [ran]
              constructor
              case value =>
                rintro _ _ ⟨⟩ - written'
                cases written.symm.trans written'
                exact ⟨asText_written written, rfl, wrote.output⟩
              case unwritable =>
                rintro _ _ ⟨⟩ - unwritten
                cases written.symm.trans unwritten
              case null =>
                rintro _ ⟨⟩ isNull
                rw [null] at isNull
                cases isNull
              case unresolved | failure =>
                intro _ same
                cases same
              case once => exact ⟨rfl, wrote.world⟩
          | error raised =>
              have lacks : Lacks setting line before.model before.world (String.ofList path) _
                  world := .unwritable present looked null written
              rw [lacks.run_reference]
              constructor
              case value =>
                rintro _ _ ⟨⟩ - written'
                cases written.symm.trans written'
              case unwritable =>
                rintro _ _ ⟨⟩ - unwritten
                cases written.symm.trans unwritten
                exact ⟨asText_unwritten written, rfl, rfl⟩
              case null =>
                rintro _ ⟨⟩ isNull
                rw [null] at isNull
                cases isNull
              case unresolved | failure =>
                intro _ same
                cases same
              case once => exact ⟨rfl, rfl⟩

/-- A line that is a reference to a path, and the expression with the conversion to a text behind the
path, look the same path up once in any model that is there, and they agree on the result. -/
theorem reference_agrees {path : List Char} (isPath : IsPath path) (uri : Option String)
    (state : Compilation) :
    let counted := { state with lineCount := state.lineCount + 1 }
    ∃ actions expression, Compilation.feed uri state (referenceTo path) = .ok (counted.add actions) ∧
      Expression.parse (String.ofList (asText path)) = .ok expression ∧
      ∀ (setting : RenderSetting) (parameters : List Value) (before : Rendering),
        before.model.isNull = false →
        ReadAsText setting counted.lineCount (String.ofList path) before
          ((setting.resolver.getValue before.model (String.ofList path)).run.run before.world)
          ((expression.evaluate ⟨setting.resolver, before.model, parameters⟩).run.run before.world)
          ((renderAll setting actions).run.run before) := by
  intro counted
  refine ⟨_, _, feed_referenceTo uri state isPath, Expr.parse_asText isPath, ?_⟩
  intro setting parameters before present
  have evaluate := (Expr.Unary.plain (.path (String.ofList (asText path)))).evaluate_disjunction
    ⟨setting.resolver, before.model, parameters⟩
  rw [Expression.evaluate, evaluate]
  exact readAsText isPath setting parameters counted.lineCount before present

/-- A mapping in a mapping, with a name that is that of a conversion. -/
def conversionPage : Rendering where
  world := {}
  model := .value (.map [(.text "a", .map [(.text "toInt", .text "7")])])

/-- All of a path is looked up that ends like a conversion. -/
theorem reference_agrees_toInt :
    IsPath "a.toInt".toList ∧ conversionPage.model.isNull = false ∧
      ∃ actions expression,
        Compilation.feed none {} (referenceTo "a.toInt".toList) = .ok ⟨actions, [], 1⟩ ∧
          Expression.parse "a.toInt.toString" = .ok expression ∧
          ((expression.evaluate ⟨Resolver.standard 0, conversionPage.model, []⟩).run.run {}).1 =
            .ok (.text "7") ∧
          ((renderAll ⟨Resolver.standard 0, none, "\n", false⟩ actions).run.run
            conversionPage).2.output = "7\n" := by
  have isPath : IsPath "a.toInt".toList := by
    refine .dot ⟨'a', [], rfl, by decide, List.forall_mem_nil _⟩ (.last ?_)
    exact ⟨'t', "oInt".toList, rfl, by decide, List.all_eq_true.mp (by decide)⟩
  have looked : (((Resolver.standard 0).getValue conversionPage.model "a.toInt").run.run
      conversionPage.world).1 = .ok (.text "7") := rfl
  obtain ⟨actions, expression, fed, parsed, agrees⟩ := reference_agrees isPath none {}
  have same := agrees ⟨Resolver.standard 0, none, "\n", false⟩ [] conversionPage rfl
  rw [String.ofList_toList] at same
  obtain ⟨evaluated, -, output⟩ := same.value _ _ looked rfl rfl
  exact ⟨isPath, rfl, actions, expression, fed, parsed, evaluated, output⟩

end Stencil.Template
