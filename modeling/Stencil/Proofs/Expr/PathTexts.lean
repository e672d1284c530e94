/-
Module: Stencil.Proofs.Expr.PathTexts
Purpose: A path that asks for the text of its value: how it is read, and what it is evaluated to.
Main exports: IsPath.solid, asText, parse_asText, splitConversion_asText, run_asText
-/
import Stencil.Proofs.Expr.Neutral
import Stencil.Proofs.Expr.Respelling
import Stencil.Proofs.Expr.Separation
import Stencil.Proofs.Expr.Simultaneous

namespace Stencil.Expr

open Text

/-! ### Characters of paths -/

/-- There are no blanks in a path. -/
theorem IsPath.solid {path : List Char} (isPath : IsPath path) :
    ∀ character ∈ path, isBlank character = false := by
  intro character member
  rcases isPath.parts character member with part | rfl
  · refine Bool.eq_false_iff.mpr fun blank => ?_
    rw [Separates.noName (.inl blank)] at part
    cases part
  · decide

/-- A character that is in no name and no point is in no path. -/
theorem IsPath.not_mem {path : List Char} (isPath : IsPath path) {mark : Char}
    (noPart : isNamePart mark = false) (noPoint : mark ≠ '.') : mark ∉ path := by
  intro member
  rcases isPath.parts mark member with part | point
  · rw [noPart] at part
    cases part
  · exact noPoint point

theorem IsPath.ne_nil {path : List Char} (isPath : IsPath path) : path ≠ [] := by
  obtain ⟨first, body, rfl, -⟩ := isPath.length_le
  exact List.cons_ne_nil _ _

theorem IsPath.append {front back : List Char} (isPath : IsPath front) (behind : IsPath back) :
    IsPath (front ++ '.' :: back) := by
  induction isPath with
  | last name => exact .dot name behind
  | @dot segment path name _ ih =>
      rw [List.append_assoc]
      exact .dot name ih

/-! ### The conversion to a text -/

/-- A path with the conversion to a text behind it. -/
def asText (path : List Char) : List Char :=
  path ++ '.' :: Conversion.toText.name.toList

/-- With a point in it, a path is no word of the language. -/
theorem IsPath.lexes_of_point {path : List Char} (isPath : IsPath path) (point : '.' ∈ path) :
    Lexes path [.path (String.ofList path)] := by
  have other {word : String} (noPoint : '.' ∉ word.toList) : String.ofList path ≠ word := by
    rintro rfl
    rw [String.toList_ofList] at noPoint
    exact noPoint point
  refine isPath.lexes (fun word => other ?_) fun sign listed => other ?_ rfl
  · cases word <;> decide
  · have noPoints : ∀ entry ∈ operatorWords, '.' ∉ entry.1.toList := by decide
    exact noPoints _ listed

/-- A path with the conversion is an expression, whatever the path is. -/
theorem parse_asText {path : List Char} (isPath : IsPath path) :
    Expression.parse (String.ofList (asText path)) =
      .ok ⟨(Unary.plain (.path (String.ofList (asText path)))).disjunction,
        String.ofList (asText path)⟩ := by
  have conversion : IsPath Conversion.toText.name.toList :=
    .last ⟨'t', "oString".toList, rfl, by decide, List.all_eq_true.mp (by decide)⟩
  have lexes := (isPath.append conversion).lexes_of_point (by simp)
  have phrase : Lexes (String.ofList (asText path)).toList
      (UnaryPhrase.plain (.path (String.ofList (asText path)))).disjunction.tokens := by
    rw [String.toList_ofList, UnaryPhrase.tokens_disjunction]
    exact lexes
  exact phrase.parse_eq_ok_iff.mpr ⟨UnaryPhrase.inRange_disjunction.mpr trivial, rfl⟩

theorem withoutSegment?_append {path : List Char} (notNil : path ≠ []) (name : List Char) :
    withoutSegment? (path ++ '.' :: name) name = some path := by
  have front : (path ++ '.' :: name).take
      ((path ++ '.' :: name).length - ('.' :: name).length) = path := by
    rw [List.length_append, Nat.add_sub_cancel, List.take_left]
  have given : path.isEmpty = false := by simpa using notNil
  simp only [withoutSegment?, front, given, beq_self_eq_true]
  rfl

/-- What is looked up is the whole path in front of the conversion. -/
theorem splitConversion_asText {path : List Char} (notNil : path ≠ []) :
    splitConversion (String.ofList (asText path)) = (String.ofList path, some .toText) := by
  unfold splitConversion asText
  rw [String.toList_ofList]
  simp only [withoutSegment?_append notNil, Option.map_some, Option.some_or, Option.getD_some]

/-- The path is looked up once; its value is written down, and its failure is the failure of the
expression. -/
theorem run_asText {path : List Char} (setting : Setting) (notNil : path ≠ [])
    (present : setting.model.isNull = false) {world after : World}
    {result : Except LookupError Value}
    (looked : (setting.resolver.getValue setting.model (String.ofList path)).run.run world =
      (result, after)) :
    (evaluatePath setting (String.ofList (asText path))).run.run world =
      ((result.mapError .lookup).bind (toText after), after) := by
  have split := splitConversion_asText notNil
  have ran := @evaluatePath_run _ (String.ofList (asText path)) present world after result
  rw [split] at ran
  exact ran looked

end Stencil.Expr
