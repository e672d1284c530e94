/-
Module: Stencil.Proofs.Template.Interpreter
Purpose: What a template means: an interpreter of blocks that changes nothing, in which every item of a
  loop has an environment of its own.
Main exports: Stop, Outcome, Interpretation, Block.interpret, Interpretation.run
-/
import Stencil.Proofs.Expr.Meaning
import Stencil.Proofs.Property.Environment
import Stencil.Proofs.Template.BlockTree

namespace Stencil.Template

open Stencil.Expr (Expression)

/-- Why an interpretation stops before its end. -/
inductive Stop where
  /-- A fault of the template at a line. -/
  | fault (line : Nat) (fault : RenderFault)
  /-- An exception from outside the engine, which has no place in the template. -/
  | raised (error : Raised)

/-- How a failed condition stops an interpretation: as a fault at its line, unless something outside
the engine has raised the failure and does not say that an expression or a path is at fault. -/
def Stop.ofCondition (line : Nat) (source : String) (failure : Expr.Failure) : Stop :=
  match failure with
  | .lookup (.raised error) =>
      if error.isA "ResolutionError" || error.isA "EvaluationError" then
        .fault line (.badCondition source failure)
      else .raised error
  | _ => .fault line (.badCondition source failure)

/-- What an interpretation writes, and why it stops, if it does not come to its end. -/
structure Outcome where
  output : String
  stop? : Option Stop

namespace Outcome

/-- Write a text. -/
def wrote (output : String) : Outcome := ⟨output, none⟩

/-- Stop. -/
def stopped (stop : Stop) : Outcome := ⟨"", some stop⟩

/-- Stop at a line. -/
def failed (line : Nat) (fault : RenderFault) : Outcome := stopped (.fault line fault)

/-- Go on, unless it has stopped. -/
def andThen (first later : Outcome) : Outcome :=
  match first.stop? with
  | some _ => first
  | none => ⟨first.output ++ later.output, later.stop?⟩

/-- One outcome after another. -/
def sequence : List Outcome → Outcome
  | [] => wrote ""
  | first :: rest => first.andThen (sequence rest)

end Outcome

/-- What stays the same while a template is interpreted. -/
structure Interpretation where
  world : World
  terminator : String
  acceptsText : Bool

namespace Interpretation

variable (setting : Interpretation) (environment : Environment)

/-- The value of a path, if there is a model. -/
def pathValue (path : String) : Except RenderFault Value :=
  if environment.base.isNull then .error (.noModel path)
  else
    match environment.resolve setting.world path with
    | .ok value => .ok value
    | .error error => .error (.unresolved error)

/-- Write the text of a value, if it has one. -/
def text (value : Value) : Outcome :=
  match setting.world.text value with
  | .ok content => .wrote content
  | .error error => .stopped (.raised error)

/-- Write the value of a path. -/
def value (line : Nat) (path : String) : Outcome :=
  match setting.pathValue environment path with
  | .error fault => .failed line fault
  | .ok value => if value.isNull then .failed line (.nullVariable path) else setting.text value

/-- Write the text in front of a reference, and its value. -/
def reference (line : Nat) (reference : Reference) : Outcome :=
  (Outcome.wrote (String.ofList reference.before)).andThen
    (setting.value environment line (String.ofList reference.path))

/-- Write the references of a line, the text behind them and the end of the line. -/
def literal (line : Nat) (content : SubstitutedLine) : Outcome :=
  (Outcome.sequence (content.references.map (setting.reference environment line))).andThen
    (.wrote (String.ofList content.tail ++ setting.terminator))

/-- Whether a value counts as true in a condition. -/
def holds (source : String) : Value → Except RenderFault Bool
  | .boolean flag => .ok flag
  | .null => .error (.nullCondition source)
  | .text content =>
      if setting.acceptsText then
        .ok (Text.lowerAscii content.toList == ['t', 'r', 'u', 'e'])
      else .error (.conditionKind source "str")
  | other => .error (.conditionKind source other.typeName)

/-- What the names in a condition stand for. -/
def denotation : Expr.Denotation where
  path? := if environment.base.isNull then none else some (environment.resolve setting.world)
  world := setting.world

/-- Whether a condition holds. -/
def decision (line : Nat) (condition : Expression) : Except Stop Bool :=
  match condition.root.meaning (setting.denotation environment) with
  | .error failure => .error (.ofCondition line condition.source failure)
  | .ok value => (setting.holds condition.source value).mapError (.fault line)

/-- The items that a loop runs over. -/
def items (path : String) : Except RenderFault (List Value) :=
  match setting.pathValue environment path with
  | .error fault => .error fault
  | .ok .null => .error (.nullList path)
  | .ok (.list items) | .ok (.tuple items) | .ok (.set items) | .ok (.view _ items) => .ok items
  | .ok other => .error (.notIterable path other.typeName)

end Interpretation

mutual

/-- Interpret a block that starts at a line.  A loop interprets its body once for each item, in the
environment of the loop with its variable bound to the item. -/
def Block.interpret (setting : Interpretation) (line : Nat) (environment : Environment) :
    Block → Outcome
  | .literal content => setting.literal environment line content
  | .branch condition whenTrue =>
      match setting.decision environment line condition with
      | .error stop => .stopped stop
      | .ok true => Block.interpretAll setting (line + 1) environment whenTrue
      | .ok false => .wrote ""
  | .branchElse condition whenTrue whenFalse =>
      match setting.decision environment line condition with
      | .error stop => .stopped stop
      | .ok true => Block.interpretAll setting (line + 1) environment whenTrue
      | .ok false =>
          Block.interpretAll setting (line + (Block.allLines whenTrue).length + 2) environment
            whenFalse
  | .loop name path body =>
      match setting.items environment path with
      | .error fault => .failed line fault
      | .ok items =>
          .sequence (items.map fun item =>
            Block.interpretAll setting (line + 1) (environment.bind name item) body)

def Block.interpretAll (setting : Interpretation) (line : Nat) (environment : Environment) :
    List Block → Outcome
  | [] => .wrote ""
  | block :: rest =>
      (block.interpret setting line environment).andThen
        (Block.interpretAll setting (line + block.lines.length) environment rest)

end

/-- Interpret the blocks of a template on a model. -/
def Interpretation.run (setting : Interpretation) (model : Value) (blocks : List Block) : Outcome :=
  Block.interpretAll setting 1 ⟨model, []⟩ blocks

end Stencil.Template
