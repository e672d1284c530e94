/-
Module: Stencil.Template.Compiler
Purpose: Compiling the lines of a template.
Main exports: Compilation, Compilation.feed, Compilation.finish, compile
-/
import Stencil.Template.Action
import Stencil.Template.Directive
import Stencil.Template.Error
import Stencil.Text.Lines

namespace Stencil.Template

open Stencil.Expr (Expression)

/-- What is known about an open block. -/
inductive BlockHead where
  /-- A branch before its `else`. -/
  | branch (condition : Expression)
  /-- A branch behind its `else`, with the steps that were before it. -/
  | otherwise (condition : Expression) (whenTrue : List Action)
  | loop (name path : String)
deriving Repr, Inhabited

/-- The kind of a block. -/
def BlockHead.kind : BlockHead → BlockKind
  | branch _ => .branch
  | otherwise _ _ => .branch
  | loop _ _ => .loop

/-- A block that is not closed yet, with the line that opened it and its steps so far. -/
structure OpenBlock where
  head : BlockHead
  line : Nat
  actions : List Action := []
deriving Repr, Inhabited

/-- The step that a block becomes when it is closed. -/
def OpenBlock.close (block : OpenBlock) : Action :=
  match block.head with
  | .branch condition => .branch condition block.actions [] block.line
  | .otherwise condition whenTrue => .branch condition whenTrue block.actions block.line
  | .loop name path => .loop name path block.actions block.line

/-- A template under way: the steps outside of all blocks, the open blocks from the innermost out,
and the number of lines read. -/
structure Compilation where
  outer : List Action := []
  blocks : List OpenBlock := []
  lineCount : Nat := 0
deriving Repr, Inhabited

namespace Compilation

/-- The kind of the innermost open block. -/
def innermost (state : Compilation) : Option BlockKind :=
  state.blocks.head?.map (·.head.kind)

/-- Add steps to the innermost open block. -/
def add (state : Compilation) (actions : List Action) : Compilation :=
  match state.blocks with
  | [] => { state with outer := state.outer ++ actions }
  | block :: rest =>
      { state with blocks := { block with actions := block.actions ++ actions } :: rest }

/-- Open a block at the line under way. -/
def openBlock (state : Compilation) (head : BlockHead) : Compilation :=
  { state with blocks := ⟨head, state.lineCount, []⟩ :: state.blocks }

/-- Open a branch. -/
def openBranch (state : Compilation) (condition : List Char) :
    Except CompileFault Compilation :=
  if condition.isEmpty then .error .missingCondition
  else
    match Expression.parse (String.ofList condition) with
    | .ok expression => .ok (state.openBlock (.branch expression))
    | .error error => .error (.ofCondition (String.ofList condition) error)

/-- Go over to the other side of a branch, once. -/
def switchBranch (state : Compilation) : Except CompileFault Compilation :=
  match state.blocks with
  | ⟨.branch condition, line, actions⟩ :: rest =>
      .ok { state with blocks := ⟨.otherwise condition actions, line, []⟩ :: rest }
  | _ => .error (.unexpected "else" state.innermost)

/-- Open a loop. -/
def openLoop (state : Compilation) (header : List Char) : Except CompileFault Compilation :=
  match LoopHeader.read? header with
  | none => .error (.badLoopHeader (String.ofList header))
  | some loop =>
      if loop.isSimple then .ok (state.openBlock (.loop loop.name loop.path))
      else .error (.dottedVariable loop.name)

/-- Close the innermost block, which must be of the given kind. -/
def closeBlock (state : Compilation) (kind : BlockKind) : Except CompileFault Compilation :=
  match state.blocks with
  | [] => .error (.unexpected kind.closer none)
  | block :: rest =>
      if block.head.kind = kind then .ok (({ state with blocks := rest }).add [block.close])
      else .error (.unexpected kind.closer (some block.head.kind))

/-- Obey a command. -/
def obey (state : Compilation) (command : List Char) : Except CompileFault Compilation :=
  match Directive.read? command with
  | some (.openBranch condition) => state.openBranch condition
  | some .otherwise => state.switchBranch
  | some .closeBranch => state.closeBlock .branch
  | some (.openLoop header) => state.openLoop header
  | some .closeLoop => state.closeBlock .loop
  | none => .error (.invalidCommand (String.ofList command))

end Compilation

/-- The steps of a reference: the text in front of it, if there is any, and its value. -/
def referenceActions (line : Nat) (reference : Reference) : List Action :=
  (if reference.before.isEmpty then [] else [.text (String.ofList reference.before)])
    ++ [.value (String.ofList reference.path) line]

/-- The steps of a literal line. -/
def literalActions (line : Nat) (literal : SubstitutedLine) : List Action :=
  literal.references.flatMap (referenceActions line) ++ [.line (String.ofList literal.tail)]

namespace Compilation

/-- Take in a literal line. -/
def addLiteral (state : Compilation) (text : List Char) : Except CompileFault Compilation :=
  match SubstitutedLine.read text with
  | .ok literal => .ok (state.add (literalActions state.lineCount literal))
  | .error fault => .error (.badReference fault)

/-- Take in a line without its end. -/
def addLine (state : Compilation) (text : List Char) : Except CompileFault Compilation :=
  if isDirective text then state.obey (directiveCommand text) else state.addLiteral text

/-- Take in the next line; its end, if it has one, is not part of it. -/
def feed (uri : Option String) (state : Compilation) (line : List Char) :
    Except CompileError Compilation :=
  let counted := { state with lineCount := state.lineCount + 1 }
  match counted.addLine (Text.withoutLineEnd line) with
  | .ok next => .ok next
  | .error fault => .error ⟨fault, counted.lineCount, uri⟩

/-- Take in lines, one after another. -/
def feedAll (uri : Option String) (state : Compilation) (lines : List (List Char)) :
    Except CompileError Compilation :=
  lines.foldlM (feed uri) state

/-- The template, if no block is open any more. -/
def finish (uri : Option String) (state : Compilation) : Except CompileError CompiledTemplate :=
  match state.blocks with
  | [] => .ok ⟨state.outer, uri, state.lineCount⟩
  | block :: _ => .error ⟨.unterminatedBlock block.head.kind block.line, block.line, uri⟩

end Compilation

/-- Compile the lines of a template. -/
def compile (uri : Option String) (lines : List (List Char)) :
    Except CompileError CompiledTemplate := do
  (← Compilation.feedAll uri {} lines).finish uri

/-- Compile a text, cut into lines at line feeds, carriage returns, or both in this order. -/
def compileText (uri : Option String) (text : String) : Except CompileError CompiledTemplate :=
  compile uri (Text.universalLines text.toList)

end Stencil.Template
