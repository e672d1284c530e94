/-
Module: Stencil.Proofs.Template.Stops
Purpose: What stops the interpretation of a template on calm objects.
Main exports: World.Unwritten, condition_fails, Outcome.RaisesOnly, Block.interpretAll_raises
-/
import Stencil.Proofs.Expr.Simultaneous
import Stencil.Proofs.Property.BuiltIn
import Stencil.Proofs.Template.Interpreter

namespace Stencil

/-- An exception that stops what is done with calm values: an integer in one of them has too many
digits, or one of them raises it when it is written down. -/
def World.Unwritten (world : World) (family : Family) (error : Raised) : Prop :=
  error.OfDigits ∨ ∃ value, value.Calm family ∧ world.text value = .error error

namespace Template

open Stencil.Expr (Expression)

variable {family : Family} {environment : Environment} {meaning : Interpretation}

/-! ### Calm values -/

theorem pathValue_calm {meaning : Interpretation} (worldCalm : meaning.world.Calm family)
    (calm : environment.Calm family) {path : String} {value : Value}
    (found : meaning.pathValue environment path = .ok value) : value.Calm family := by
  unfold Interpretation.pathValue at found
  split at found
  · cases found
  · split at found
    · rename_i resolved
      cases found
      exact Environment.resolve_calm worldCalm calm resolved
    · cases found

/-- The items of a loop are calm. -/
theorem items_calm {meaning : Interpretation} (worldCalm : meaning.world.Calm family)
    (calm : environment.Calm family) {path : String} {items : List Value}
    (found : meaning.items environment path = .ok items) :
    ∀ item ∈ items, item.Calm family := by
  unfold Interpretation.items at found
  split at found <;> cases found
  all_goals
    rename_i same
    have calm' := pathValue_calm worldCalm calm same
    exact Value.AllCalm.forall_mem calm'

/-! ### Conditions -/

/-- A failure of a condition, if it is none of an operation: a path cannot be followed, or a value
cannot be written down. -/
def ConditionFails (world : World) (family : Family) (failure : Expr.Failure) : Prop :=
  ∀ error, failure = .lookup error →
    error.OfPath ∨ ∃ raised, error = .raised raised ∧ World.Unwritten world family raised

theorem convert_fails {world : World} {written : String} {conversion? : Option Expr.Conversion}
    {found : Value} (calm : found.Calm family) :
    Expr.FailsOnly (ConditionFails world family)
      (Expr.convert world written conversion? found) := by
  rintro failure failed error rfl
  have fails := (Expr.convert_faults world written conversion? found).error failed
  rcases fails with ⟨fault, rfl⟩ | ⟨raised, unwritten, same⟩
  · exact .inr ⟨_, rfl, .inl ⟨fault, rfl⟩⟩
  · cases same
    exact .inr ⟨_, rfl, .inr ⟨found, calm, unwritten⟩⟩

/-- Where a path fails to be looked up in an environment, it fails to be resolved. -/
theorem denotation_path_fails (worldCalm : meaning.world.Calm family)
    (calm : environment.Calm family) (written : String) :
    Expr.FailsOnly (ConditionFails meaning.world family)
      ((meaning.denotation environment).path written) := by
  unfold Expr.Denotation.path Interpretation.denotation
  cases environment.base.isNull with
  | true =>
      rintro failure failed error rfl
      cases failed
  | false =>
      simp only [Bool.false_eq_true, if_false]
      cases resolved : environment.resolve meaning.world (Expr.splitConversion written).1 with
      | error error =>
          rintro failure failed found rfl
          cases failed
          exact .inl (Environment.resolve_fails resolved)
      | ok value => exact convert_fails (Environment.resolve_calm worldCalm calm resolved)

/-- A condition has no parameters. -/
theorem denotation_parameter_fails (index : Nat) :
    Expr.FailsOnly (ConditionFails meaning.world family)
      ((meaning.denotation environment).parameter index) := by
  rintro failure failed error rfl
  unfold Expr.Denotation.parameter Interpretation.denotation at failed
  simp only [List.getElem?_nil, Expr.Failure.stating] at failed
  split at failed
  · cases failed
  · cases failed
    exact .inr ⟨_, rfl, .inl ⟨.writing, rfl⟩⟩

/-- A condition fails in an operation, at a path, or at a value that cannot be written down. -/
theorem condition_fails (worldCalm : meaning.world.Calm family) (calm : environment.Calm family)
    (condition : Expression) :
    Expr.FailsOnly (ConditionFails meaning.world family)
      (condition.root.meaning (meaning.denotation environment)) :=
  Expr.Disjunction.meaning_fails (fun _ _ impossible => nomatch impossible)
    (denotation_path_fails worldCalm calm) denotation_parameter_fails condition.root

/-- What a condition raises is the failure of its lookup or conversion. -/
theorem Stop.eq_of_ofCondition {line : Nat} {source : String} {failure : Expr.Failure}
    {error : Raised} (stopped : Stop.ofCondition line source failure = .raised error) :
    failure = .lookup (.raised error) := by
  unfold Stop.ofCondition at stopped
  split at stopped
  · split at stopped
    · cases stopped
    · cases stopped
      rfl
  · cases stopped

/-- What raises in a condition is about digits, or is raised where a value is written down. -/
theorem decision_raises (worldCalm : meaning.world.Calm family) (calm : environment.Calm family)
    {line : Nat} {condition : Expression} {error : Raised}
    (stopped : meaning.decision environment line condition = .error (.raised error)) :
    World.Unwritten meaning.world family error := by
  unfold Interpretation.decision at stopped
  cases meant : condition.root.meaning (meaning.denotation environment) with
  | ok value =>
      simp only [meant] at stopped
      cases holds : meaning.holds condition.source value with
      | ok flag => simp [holds, Except.mapError] at stopped
      | error fault => simp [holds, Except.mapError] at stopped
  | error failure =>
      simp only [meant, Except.error.injEq] at stopped
      obtain rfl := Stop.eq_of_ofCondition stopped
      obtain ⟨_, same, unwritten⟩ :=
        (condition_fails worldCalm calm condition _ meant _ rfl).resolve_left id
      cases same
      exact unwritten

/-! ### Outcomes -/

/-- An outcome stops without a place in the template only for exceptions with a property. -/
def Outcome.RaisesOnly (Q : Raised → Prop) (outcome : Outcome) : Prop :=
  ∀ error, outcome.stop? = some (.raised error) → Q error

namespace Outcome.RaisesOnly

variable {Q : Raised → Prop}

theorem wrote (output : String) : (Outcome.wrote output).RaisesOnly Q :=
  fun _ impossible => nomatch impossible

theorem failed (line : Nat) (fault : RenderFault) : (Outcome.failed line fault).RaisesOnly Q :=
  fun _ impossible => nomatch impossible

theorem andThen {first later : Outcome} (here : first.RaisesOnly Q) (there : later.RaisesOnly Q) :
    (first.andThen later).RaisesOnly Q := by
  obtain ⟨output, stop?⟩ := first
  cases stop? with
  | none => exact there
  | some stop => exact here

theorem sequence {outcomes : List Outcome} (all : ∀ outcome ∈ outcomes, outcome.RaisesOnly Q) :
    (Outcome.sequence outcomes).RaisesOnly Q := by
  induction outcomes with
  | nil => exact wrote ""
  | cons first rest ih =>
      obtain ⟨here, later⟩ := List.forall_mem_cons.mp all
      exact here.andThen (ih later)

end Outcome.RaisesOnly

section Lines

variable (worldCalm : meaning.world.Calm family) (calm : environment.Calm family)

theorem text_raises {value : Value} (calm : value.Calm family) :
    (meaning.text value).RaisesOnly (meaning.world.Unwritten family) := by
  unfold Interpretation.text
  cases unwritten : meaning.world.text value with
  | ok content => exact .wrote content
  | error raised =>
      rintro _ ⟨⟩
      exact .inr ⟨value, calm, unwritten⟩

include worldCalm calm

theorem value_raises (line : Nat) (path : String) :
    (meaning.value environment line path).RaisesOnly (meaning.world.Unwritten family) := by
  unfold Interpretation.value
  cases found : meaning.pathValue environment path with
  | error fault => exact .failed line fault
  | ok value =>
      simp only
      split
      · exact .failed line _
      · exact text_raises (pathValue_calm worldCalm calm found)

theorem literal_raises (line : Nat) (content : SubstitutedLine) :
    (meaning.literal environment line content).RaisesOnly (meaning.world.Unwritten family) := by
  refine Outcome.RaisesOnly.andThen ?_ (Outcome.RaisesOnly.wrote _)
  apply Outcome.RaisesOnly.sequence
  intro outcome member
  obtain ⟨reference, -, rfl⟩ := List.mem_map.mp member
  exact (Outcome.RaisesOnly.wrote _).andThen (value_raises worldCalm calm line _)

end Lines

mutual

/-- What stops a block without a place in the template is about digits, or is raised where a value is
written down. -/
theorem Block.interpret_raises (worldCalm : meaning.world.Calm family) :
    ∀ (block : Block) (line : Nat) {environment : Environment}, environment.Calm family →
      (block.interpret meaning line environment).RaisesOnly (meaning.world.Unwritten family)
  | .literal content, line, _, calm => literal_raises worldCalm calm line content
  | .branch condition whenTrue, line, environment, calm => by
      unfold Block.interpret
      cases decides : meaning.decision environment line condition with
      | error stop =>
          rintro error ⟨⟩
          exact decision_raises worldCalm calm decides
      | ok flag =>
          cases flag with
          | true => exact Block.interpretAll_raises worldCalm whenTrue (line + 1) calm
          | false => exact .wrote ""
  | .branchElse condition whenTrue whenFalse, line, environment, calm => by
      unfold Block.interpret
      cases decides : meaning.decision environment line condition with
      | error stop =>
          rintro error ⟨⟩
          exact decision_raises worldCalm calm decides
      | ok flag =>
          cases flag with
          | true => exact Block.interpretAll_raises worldCalm whenTrue (line + 1) calm
          | false => exact Block.interpretAll_raises worldCalm whenFalse _ calm
  | .loop name path body, line, environment, calm => by
      unfold Block.interpret
      cases found : meaning.items environment path with
      | error fault => exact .failed line fault
      | ok items =>
          apply Outcome.RaisesOnly.sequence
          intro outcome member
          obtain ⟨item, present, rfl⟩ := List.mem_map.mp member
          have itemCalm := items_calm worldCalm calm found item present
          exact Block.interpretAll_raises worldCalm body (line + 1) (calm.bind itemCalm name)

theorem Block.interpretAll_raises (worldCalm : meaning.world.Calm family) :
    ∀ (blocks : List Block) (line : Nat) {environment : Environment}, environment.Calm family →
      (Block.interpretAll meaning line environment blocks).RaisesOnly
        (meaning.world.Unwritten family)
  | [], _, _, _ => .wrote ""
  | block :: rest, line, _, calm =>
      (Block.interpret_raises worldCalm block line calm).andThen
        (Block.interpretAll_raises worldCalm rest _ calm)

end

end Template

end Stencil
