/-
Module: Stencil.Template.Action
Purpose: Compiled templates.
Main exports: Action, CompiledTemplate
-/
import Stencil.Expr.Tree

namespace Stencil.Template

/-- A step of a rendering.  Steps that can fail know the line that they come from. -/
inductive Action where
  /-- Write a text. -/
  | text (content : String)
  /-- Write a text and end the line. -/
  | line (content : String)
  /-- Write the value of a path. -/
  | value (path : String) (line : Nat)
  /-- Choose between two lists of steps. -/
  | branch (condition : Expr.Expression) (whenTrue whenFalse : List Action) (line : Nat)
  /-- Run the steps for each item of a list. -/
  | loop (name path : String) (body : List Action) (line : Nat)
deriving Repr, Inhabited

/-- A compiled template, with the name and the number of lines of its source. -/
structure CompiledTemplate where
  actions : List Action
  uri : Option String
  lineCount : Nat
deriving Repr, Inhabited

end Stencil.Template
