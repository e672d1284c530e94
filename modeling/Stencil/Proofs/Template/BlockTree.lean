/-
Module: Stencil.Proofs.Template.BlockTree
Purpose: The lines of a template by what they are for, and the blocks that they nest to.
Main exports: SourceLine.read?, Block, Block.lines, Block.actions, WellNested
-/
import Stencil.Template.Compiler

namespace Stencil.Template

open Stencil.Expr (Expression)

/-! ### Lines -/

/-- What a line of a template is for. -/
inductive SourceLine where
  | literal (content : SubstitutedLine)
  | opensBranch (condition : Expression)
  | otherwise
  | closesBranch
  | opensLoop (name path : String)
  | closesLoop

/-- The line that a command makes, if it is in valid form. -/
def SourceLine.ofDirective? : Directive → Option SourceLine
  | .openBranch condition =>
      (Expression.parse (String.ofList condition)).toOption.map .opensBranch
  | .otherwise => some .otherwise
  | .closeBranch => some .closesBranch
  | .openLoop header =>
      (LoopHeader.read? header).bind fun loop =>
        if loop.isSimple then some (.opensLoop loop.name loop.path) else none
  | .closeLoop => some .closesLoop

/-- Read a line on its own, without the lines around it: a command in valid form, or a text with
references. -/
def SourceLine.read? (line : List Char) : Option SourceLine :=
  let content := Text.withoutLineEnd line
  if isDirective content then
    (Directive.read? (directiveCommand content)).bind ofDirective?
  else (SubstitutedLine.read content).toOption.map .literal

/-! ### Blocks -/

/-- A line of its own, or what stands between two commands, with the commands.  The blocks of a
template are the derivations of

    blocks → (literal | if blocks (else blocks)? /if | for blocks /for)*
-/
inductive Block where
  | literal (content : SubstitutedLine)
  | branch (condition : Expression) (whenTrue : List Block)
  | branchElse (condition : Expression) (whenTrue whenFalse : List Block)
  | loop (name path : String) (body : List Block)

mutual

/-- The lines that a block is made of. -/
def Block.lines : Block → List SourceLine
  | .literal content => [.literal content]
  | .branch condition whenTrue =>
      .opensBranch condition :: (Block.allLines whenTrue ++ [.closesBranch])
  | .branchElse condition whenTrue whenFalse =>
      .opensBranch condition :: (Block.allLines whenTrue ++
        .otherwise :: (Block.allLines whenFalse ++ [.closesBranch]))
  | .loop name path body => .opensLoop name path :: (Block.allLines body ++ [.closesLoop])

def Block.allLines : List Block → List SourceLine
  | [] => []
  | block :: rest => block.lines ++ Block.allLines rest

end

mutual

/-- The steps of a block that starts at a line. -/
def Block.actions (line : Nat) : Block → List Action
  | .literal content => literalActions line content
  | .branch condition whenTrue =>
      [.branch condition (Block.allActions (line + 1) whenTrue) [] line]
  | .branchElse condition whenTrue whenFalse =>
      [.branch condition (Block.allActions (line + 1) whenTrue)
        (Block.allActions (line + (Block.allLines whenTrue).length + 2) whenFalse) line]
  | .loop name path body => [.loop name path (Block.allActions (line + 1) body) line]

def Block.allActions (line : Nat) : List Block → List Action
  | [] => []
  | block :: rest => block.actions line ++ Block.allActions (line + block.lines.length) rest

end

/-- Blocks make up the lines of a template if every line can be read on its own and the lines of the
blocks are what they are read as. -/
def MakeUp (blocks : List Block) (lines : List (List Char)) : Prop :=
  lines.map SourceLine.read? = (Block.allLines blocks).map some

/-- The lines of a template are well nested if blocks make them up. -/
def WellNested (lines : List (List Char)) : Prop :=
  ∃ blocks, MakeUp blocks lines

theorem Block.allLines_append (front rest : List Block) :
    Block.allLines (front ++ rest) = Block.allLines front ++ Block.allLines rest := by
  induction front with
  | nil => rfl
  | cons block front ih => simp only [List.cons_append, Block.allLines, ih, List.append_assoc]

theorem Block.allActions_append (line : Nat) (front rest : List Block) :
    Block.allActions line (front ++ rest) =
      Block.allActions line front ++
        Block.allActions (line + (Block.allLines front).length) rest := by
  induction front generalizing line with
  | nil => rfl
  | cons block front ih =>
      simp only [List.cons_append, Block.allActions, Block.allLines, ih, List.append_assoc,
        List.length_append, Nat.add_assoc]

@[simp] theorem Block.allLines_singleton (block : Block) : Block.allLines [block] = block.lines := by
  simp [Block.allLines]

@[simp] theorem Block.allActions_singleton (line : Nat) (block : Block) :
    Block.allActions line [block] = block.actions line := by
  simp [Block.allActions]

end Stencil.Template
