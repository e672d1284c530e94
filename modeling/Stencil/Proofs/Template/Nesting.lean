/-
Module: Stencil.Proofs.Template.Nesting
Purpose: What the lines of a template nest to while some blocks are still open, and how the compiler
  follows it.
Main exports: OpenFrame, Nesting, Nesting.push, Nesting.lines_push, Nesting.state
-/
import Stencil.Proofs.Template.BlockTree

namespace Stencil.Template

open Stencil.Expr (Expression)

/-! ### Open blocks -/

/-- A block that is not closed yet, with the closed blocks inside it. -/
inductive OpenFrame where
  | branch (condition : Expression) (inside : List Block)
  | otherwise (condition : Expression) (whenTrue inside : List Block)
  | loop (name path : String) (inside : List Block)

namespace OpenFrame

/-- The lines of an open block so far. -/
def lines : OpenFrame → List SourceLine
  | branch condition inside => .opensBranch condition :: Block.allLines inside
  | otherwise condition whenTrue inside =>
      .opensBranch condition ::
        (Block.allLines whenTrue ++ .otherwise :: Block.allLines inside)
  | loop name path inside => .opensLoop name path :: Block.allLines inside

/-- The line that closes an open block. -/
def closer : OpenFrame → SourceLine
  | branch _ _ => .closesBranch
  | otherwise _ _ _ => .closesBranch
  | loop _ _ _ => .closesLoop

/-- What an open block is when it gets closed. -/
def closed : OpenFrame → Block
  | branch condition inside => .branch condition inside
  | otherwise condition whenTrue inside => .branchElse condition whenTrue inside
  | loop name path inside => .loop name path inside

/-- Put a closed block into an open one. -/
def add (block : Block) : OpenFrame → OpenFrame
  | branch condition inside => branch condition (inside ++ [block])
  | otherwise condition whenTrue inside => otherwise condition whenTrue (inside ++ [block])
  | loop name path inside => loop name path (inside ++ [block])

/-- What the compiler knows about an open block that starts at a line. -/
def openBlock (line : Nat) : OpenFrame → OpenBlock
  | branch condition inside => ⟨.branch condition, line, Block.allActions (line + 1) inside⟩
  | otherwise condition whenTrue inside =>
      ⟨.otherwise condition (Block.allActions (line + 1) whenTrue), line,
        Block.allActions (line + (Block.allLines whenTrue).length + 2) inside⟩
  | loop name path inside => ⟨.loop name path, line, Block.allActions (line + 1) inside⟩

theorem lines_closed (frame : OpenFrame) : frame.closed.lines = frame.lines ++ [frame.closer] := by
  cases frame <;> simp [closed, lines, closer, Block.lines]

theorem lines_add (block : Block) (frame : OpenFrame) :
    (frame.add block).lines = frame.lines ++ block.lines := by
  cases frame <;> simp [add, lines, Block.allLines_append]

/-- Closing the block that the compiler has open makes the step of the closed block. -/
theorem close_openBlock (line : Nat) (frame : OpenFrame) :
    [(frame.openBlock line).close] = frame.closed.actions line := by
  cases frame <;> rfl

theorem openBlock_add (line : Nat) (block : Block) (frame : OpenFrame) :
    (frame.add block).openBlock line =
      { frame.openBlock line with
        actions := (frame.openBlock line).actions ++
          block.actions (line + frame.lines.length) } := by
  cases frame with
  | branch condition inside | loop name path inside =>
      simp [add, openBlock, lines, Block.allActions_append, Nat.add_assoc, Nat.add_comm 1]
  | otherwise condition whenTrue inside =>
      have place : line + (Block.allLines whenTrue).length + 2 + (Block.allLines inside).length =
          line + (OpenFrame.otherwise condition whenTrue inside).lines.length := by
        simp only [lines, List.length_cons, List.length_append]
        omega
      simp [add, openBlock, Block.allActions_append, place]

end OpenFrame

/-! ### Templates under way -/

/-- What the lines of a template nest to as far as they are read: closed blocks, and behind them the
open ones, from the innermost out. -/
structure Nesting where
  outer : List Block
  frames : List OpenFrame

namespace Nesting

/-- The lines up to some open blocks, which are given from the innermost out. -/
def linesUpTo (outer : List Block) : List OpenFrame → List SourceLine
  | [] => Block.allLines outer
  | frame :: around => linesUpTo outer around ++ frame.lines

/-- The lines that are read. -/
def lines (nesting : Nesting) : List SourceLine :=
  linesUpTo nesting.outer nesting.frames

/-- Put a closed block into the innermost open one. -/
def add (nesting : Nesting) (block : Block) : Nesting :=
  match nesting.frames with
  | [] => { nesting with outer := nesting.outer ++ [block] }
  | frame :: around => { nesting with frames := frame.add block :: around }

/-- Go on with a line, if it has a meaning at this place. -/
def push (nesting : Nesting) : SourceLine → Option Nesting
  | .literal content => some (nesting.add (.literal content))
  | .opensBranch condition => some { nesting with frames := .branch condition [] :: nesting.frames }
  | .otherwise =>
      match nesting.frames with
      | .branch condition inside :: around =>
          some { nesting with frames := .otherwise condition inside [] :: around }
      | _ => none
  | .closesBranch =>
      match nesting.frames with
      | .branch condition inside :: around =>
          some (({ nesting with frames := around } : Nesting).add (.branch condition inside))
      | .otherwise condition whenTrue inside :: around =>
          some (({ nesting with frames := around } : Nesting).add
            (.branchElse condition whenTrue inside))
      | _ => none
  | .opensLoop name path => some { nesting with frames := .loop name path [] :: nesting.frames }
  | .closesLoop =>
      match nesting.frames with
      | .loop name path inside :: around =>
          some (({ nesting with frames := around } : Nesting).add (.loop name path inside))
      | _ => none

theorem lines_add (nesting : Nesting) (block : Block) :
    (nesting.add block).lines = nesting.lines ++ block.lines := by
  obtain ⟨outer, frames⟩ := nesting
  cases frames with
  | nil => simp [add, lines, linesUpTo, Block.allLines_append]
  | cons frame around => simp [add, lines, linesUpTo, OpenFrame.lines_add]

/-- The closer of the innermost open block closes it. -/
theorem push_closer (outer : List Block) (frame : OpenFrame) (around : List OpenFrame) :
    (⟨outer, frame :: around⟩ : Nesting).push frame.closer =
      some ((⟨outer, around⟩ : Nesting).add frame.closed) := by
  cases frame <;> rfl

/-- A closing line is the closer of the innermost open block. -/
theorem push_closing {nesting next : Nesting} {line : SourceLine}
    (closing : line = .closesBranch ∨ line = .closesLoop) (step : nesting.push line = some next) :
    ∃ frame around, nesting.frames = frame :: around ∧ line = frame.closer ∧
      next = (⟨nesting.outer, around⟩ : Nesting).add frame.closed := by
  obtain ⟨outer, frames⟩ := nesting
  rcases closing with rfl | rfl <;> cases frames with
  | nil => cases step
  | cons frame around =>
      cases frame <;> cases step <;> exact ⟨_, _, rfl, rfl, rfl⟩

/-- Whatever a line does to the nesting, it is the last of its lines afterwards. -/
theorem lines_push {nesting next : Nesting} {line : SourceLine}
    (step : nesting.push line = some next) : next.lines = nesting.lines ++ [line] := by
  have closed : line = .closesBranch ∨ line = .closesLoop →
      next.lines = nesting.lines ++ [line] := by
    intro closing
    obtain ⟨frame, around, same, rfl, rfl⟩ := push_closing closing step
    rw [lines_add, OpenFrame.lines_closed, lines, lines, same, linesUpTo, List.append_assoc]
  cases line with
  | literal content =>
      cases step
      rw [lines_add]
      rfl
  | opensBranch condition | opensLoop name path =>
      cases step
      rfl
  | otherwise =>
      obtain ⟨outer, frames⟩ := nesting
      cases frames with
      | nil => cases step
      | cons frame around =>
          cases frame with
          | branch condition inside =>
              cases step
              simp [lines, linesUpTo, OpenFrame.lines, Block.allLines]
          | otherwise condition whenTrue inside => cases step
          | loop name path inside => cases step
  | closesBranch => exact closed (.inl rfl)
  | closesLoop => exact closed (.inr rfl)

/-! ### The state of the compiler -/

/-- What the compiler knows about open blocks. -/
def openBlocks (outer : List Block) : List OpenFrame → List OpenBlock
  | [] => []
  | frame :: around =>
      frame.openBlock ((linesUpTo outer around).length + 1) :: openBlocks outer around

/-- The state of the compiler behind the lines of a nesting. -/
def state (nesting : Nesting) : Compilation where
  outer := Block.allActions 1 nesting.outer
  blocks := openBlocks nesting.outer nesting.frames
  lineCount := nesting.lines.length

/-- Closed blocks add their steps where they are put. -/
theorem state_add (nesting : Nesting) (block : Block) :
    (nesting.add block).state =
      { nesting.state.add (block.actions (nesting.lines.length + 1)) with
        lineCount := nesting.lines.length + block.lines.length } := by
  have count : (nesting.add block).lines.length = nesting.lines.length + block.lines.length := by
    rw [lines_add, List.length_append]
  unfold state
  rw [count]
  obtain ⟨outer, frames⟩ := nesting
  cases frames with
  | nil =>
      simp [add, Compilation.add, openBlocks, Block.allActions_append, lines, linesUpTo,
        Nat.add_comm 1]
  | cons frame around =>
      simp [add, Compilation.add, openBlocks, OpenFrame.openBlock_add, lines, linesUpTo,
        Nat.add_right_comm]

end Nesting

end Stencil.Template
