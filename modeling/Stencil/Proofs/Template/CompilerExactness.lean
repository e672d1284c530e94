/-
Module: Stencil.Proofs.Template.CompilerExactness
Purpose: The compiler accepts exactly the well-nested templates, and it says where others go wrong.
Main exports: Nesting.addLine_toOption, feedAll_of_follow, compile_of_makeUp, compile_exact
-/
import Mathlib.Order.Bounds.Defs
import Stencil.Proofs.Expr.Lexing
import Stencil.Proofs.Template.Nesting

namespace Stencil.Template

open Stencil.Expr (Expression)

/-! ### Conditions with too many digits -/

/-- A line opens a branch with a condition in which an integer has this many digits, more than can be
read. -/
structure LongCondition (line : List Char) (count : Nat) : Prop where
  directive : isDirective (Text.withoutLineEnd line) = true
  condition : ∃ condition position,
    Directive.read? (directiveCommand (Text.withoutLineEnd line)) = some (.openBranch condition) ∧
      Expression.parse (String.ofList condition) = .error ⟨.tooManyDigits count, position⟩

theorem parse_nil : ∃ fault position,
    Expression.parse (String.ofList []) = .error ⟨fault, position⟩ ∧
      ∀ count, fault ≠ .tooManyDigits count := by
  have cut : Expr.tokenize (String.ofList []) = .ok [⟨.endOfText, 0⟩] := by
    rw [Expr.tokenize, String.toList_ofList, Expr.tokenizeFrom_nil]
  refine ⟨.emptyExpression, 0, ?_, nofun⟩
  unfold Expression.parse
  rw [cut]
  rfl

/-- A line with a condition like that cannot be read. -/
theorem LongCondition.read? {line : List Char} {count : Nat} (long : LongCondition line count) :
    SourceLine.read? line = none := by
  obtain ⟨directive, condition, position, command, refused⟩ := long
  unfold SourceLine.read?
  simp only [directive, command, if_true, Option.bind_some, SourceLine.ofDirective?, refused]
  rfl

theorem openBranch_tooManyDigits (state : Compilation) (condition : List Char) (count : Nat) :
    state.openBranch condition = .error (.tooManyDigits count) ↔
      ∃ position, Expression.parse (String.ofList condition) =
        .error ⟨.tooManyDigits count, position⟩ := by
  cases condition with
  | nil =>
      obtain ⟨fault, position, refused, other⟩ := parse_nil
      refine iff_of_false nofun ?_
      rintro ⟨position', same⟩
      cases refused.symm.trans same
      exact other count rfl
  | cons first rest =>
      simp only [Compilation.openBranch, List.isEmpty_cons, Bool.false_eq_true, if_false]
      cases parsed : Expression.parse (String.ofList (first :: rest)) with
      | ok expression => exact iff_of_false nofun nofun
      | error error =>
          obtain ⟨fault, position⟩ := error
          cases fault with
          | tooManyDigits found => simp [CompileFault.ofCondition]
          | _ => exact iff_of_false nofun nofun

/-- A line is not refused as a fault of the template exactly if it opens a branch with a condition
like that. -/
theorem addLine_tooManyDigits (state : Compilation) (line : List Char) (count : Nat) :
    state.addLine (Text.withoutLineEnd line) = .error (.tooManyDigits count) ↔
      LongCondition line count := by
  unfold Compilation.addLine
  cases directive : isDirective (Text.withoutLineEnd line) with
  | false =>
      refine iff_of_false ?_ fun long => ?_
      · simp only [Bool.false_eq_true, if_false, Compilation.addLiteral]
        split <;> nofun
      · rw [long.directive] at directive
        cases directive
  | true =>
      rw [if_pos rfl]
      have long_iff : LongCondition line count ↔ ∃ condition position,
          Directive.read? (directiveCommand (Text.withoutLineEnd line)) =
              some (.openBranch condition) ∧
            Expression.parse (String.ofList condition) =
              .error ⟨.tooManyDigits count, position⟩ :=
        ⟨LongCondition.condition, LongCondition.mk directive⟩
      rw [long_iff]
      unfold Compilation.obey
      cases known : Directive.read? (directiveCommand (Text.withoutLineEnd line)) with
      | none => exact iff_of_false nofun nofun
      | some command =>
          cases command with
          | openBranch condition =>
              simp only [Option.some.injEq, Directive.openBranch.injEq]
              rw [openBranch_tooManyDigits]
              constructor
              · rintro ⟨position, refused⟩
                exact ⟨condition, position, rfl, refused⟩
              · rintro ⟨_, position, rfl, refused⟩
                exact ⟨position, refused⟩
          | otherwise =>
              refine iff_of_false ?_ nofun
              simp only [Compilation.switchBranch]
              split <;> nofun
          | closeBranch | closeLoop =>
              refine iff_of_false ?_ nofun
              simp only [Compilation.closeBlock]
              split
              · nofun
              · split <;> nofun
          | openLoop header =>
              refine iff_of_false ?_ nofun
              simp only [Compilation.openLoop]
              split
              · nofun
              · split <;> nofun

/-! ### One line -/

namespace Nesting

/-- The state of the compiler when it has counted the next line. -/
def counted (nesting : Nesting) : Compilation :=
  { nesting.state with lineCount := nesting.lines.length + 1 }

theorem parse_nil_toOption : (Expression.parse (String.ofList [])).toOption = none := by
  obtain ⟨fault, position, refused, -⟩ := parse_nil
  rw [refused]
  rfl

theorem openBranch_toOption (nesting : Nesting) (condition : List Char) :
    (nesting.counted.openBranch condition).toOption =
      ((SourceLine.ofDirective? (.openBranch condition)).bind nesting.push).map state := by
  cases condition with
  | nil =>
      simp only [SourceLine.ofDirective?, parse_nil_toOption]
      rfl
  | cons first rest =>
      simp only [Compilation.openBranch, SourceLine.ofDirective?]
      cases Expression.parse (String.ofList (first :: rest)) with
      | error fault => rfl
      | ok expression =>
          simp [push, state, counted, openBlocks, Compilation.openBlock, OpenFrame.openBlock,
            Block.allActions, lines, linesUpTo, OpenFrame.lines, Block.allLines, Except.toOption]

theorem openLoop_toOption (nesting : Nesting) (header : List Char) :
    (nesting.counted.openLoop header).toOption =
      ((SourceLine.ofDirective? (.openLoop header)).bind nesting.push).map state := by
  simp only [Compilation.openLoop, SourceLine.ofDirective?]
  cases LoopHeader.read? header with
  | none => rfl
  | some loop =>
      cases simple : loop.isSimple with
      | false => simp [simple, Except.toOption]
      | true =>
          simp [simple, push, state, counted, openBlocks, Compilation.openBlock,
            OpenFrame.openBlock, Block.allActions, lines, linesUpTo, OpenFrame.lines,
            Block.allLines, Except.toOption]

theorem switchBranch_toOption (nesting : Nesting) :
    nesting.counted.switchBranch.toOption = (nesting.push .otherwise).map state := by
  obtain ⟨outer, frames⟩ := nesting
  cases frames with
  | nil => rfl
  | cons frame around =>
      cases frame with
      | branch condition inside =>
          simp [push, state, counted, openBlocks, Compilation.switchBranch, OpenFrame.openBlock,
            Block.allActions, lines, linesUpTo, OpenFrame.lines, Block.allLines, Except.toOption,
            Nat.add_assoc]
      | otherwise condition whenTrue inside => rfl
      | loop name path inside => rfl

theorem add_lineCount (compilation : Compilation) (actions : List Action) (count : Nat) :
    ({ compilation with lineCount := count } : Compilation).add actions =
      { compilation.add actions with lineCount := count } := by
  obtain ⟨outer, blocks, _⟩ := compilation
  cases blocks <;> rfl

/-- Closing the innermost open block puts it, closed, into the block around it. -/
theorem closeBlock_counted (outer : List Block) (frame : OpenFrame) (around : List OpenFrame)
    {kind : BlockKind} (same : (frame.openBlock 0).head.kind = kind) :
    (⟨outer, frame :: around⟩ : Nesting).counted.closeBlock kind =
      .ok ((⟨outer, around⟩ : Nesting).add frame.closed).state := by
  have head : ∀ line, (frame.openBlock line).head.kind = kind := fun line => by
    rw [← same]
    cases frame <;> rfl
  rw [state_add]
  simp only [Compilation.closeBlock, counted, state, openBlocks, head, if_true,
    OpenFrame.close_openBlock]
  simp only [lines, linesUpTo, OpenFrame.lines_closed, List.length_append, List.length_singleton,
    Nat.add_assoc]
  cases around <;> rfl

theorem closeBranch_toOption (nesting : Nesting) :
    (nesting.counted.closeBlock .branch).toOption = (nesting.push .closesBranch).map state := by
  obtain ⟨outer, frames⟩ := nesting
  cases frames with
  | nil => rfl
  | cons frame around =>
      cases frame with
      | loop name path inside => rfl
      | branch condition inside =>
          exact congrArg Except.toOption
            (closeBlock_counted outer (.branch condition inside) around rfl)
      | otherwise condition whenTrue inside =>
          exact congrArg Except.toOption
            (closeBlock_counted outer (.otherwise condition whenTrue inside) around rfl)

theorem closeLoop_toOption (nesting : Nesting) :
    (nesting.counted.closeBlock .loop).toOption = (nesting.push .closesLoop).map state := by
  obtain ⟨outer, frames⟩ := nesting
  cases frames with
  | nil => rfl
  | cons frame around =>
      cases frame with
      | loop name path inside =>
          exact congrArg Except.toOption
            (closeBlock_counted outer (.loop name path inside) around rfl)
      | branch condition inside | otherwise condition whenTrue inside => rfl

theorem addLiteral_toOption (nesting : Nesting) (content : List Char) :
    (nesting.counted.addLiteral content).toOption =
      (((SubstitutedLine.read content).toOption.map .literal).bind nesting.push).map state := by
  unfold Compilation.addLiteral
  cases SubstitutedLine.read content with
  | error fault => rfl
  | ok literal =>
      simp only [Except.toOption, Option.map_some, Option.bind_some, push, state_add,
        Block.actions, Block.lines]
      rw [counted, add_lineCount]
      rfl

theorem obey_toOption (nesting : Nesting) (command : List Char) :
    (nesting.counted.obey command).toOption =
      (((Directive.read? command).bind SourceLine.ofDirective?).bind nesting.push).map state := by
  unfold Compilation.obey
  cases Directive.read? command with
  | none => rfl
  | some directive =>
      cases directive with
      | openBranch condition => exact nesting.openBranch_toOption condition
      | otherwise => exact nesting.switchBranch_toOption
      | closeBranch => exact nesting.closeBranch_toOption
      | openLoop header => exact nesting.openLoop_toOption header
      | closeLoop => exact nesting.closeLoop_toOption

/-- The compiler takes in a line if it has a meaning at this place, and nothing else. -/
theorem addLine_toOption (nesting : Nesting) (line : List Char) :
    (nesting.counted.addLine (Text.withoutLineEnd line)).toOption =
      ((SourceLine.read? line).bind nesting.push).map state := by
  unfold Compilation.addLine SourceLine.read?
  cases directive : isDirective (Text.withoutLineEnd line) with
  | true => simpa [directive] using nesting.obey_toOption _
  | false => simpa [directive] using nesting.addLiteral_toOption _

theorem feed_state (uri : Option String) (nesting : Nesting) (line : List Char) :
    Compilation.feed uri nesting.state line =
      match nesting.counted.addLine (Text.withoutLineEnd line) with
      | .ok next => .ok next
      | .error fault => .error ⟨fault, nesting.lines.length + 1, uri⟩ := rfl

theorem feed_of_push (uri : Option String) {nesting next : Nesting} {line : List Char}
    (step : (SourceLine.read? line).bind nesting.push = some next) :
    Compilation.feed uri nesting.state line = .ok next.state := by
  have taken := nesting.addLine_toOption line
  rw [step] at taken
  rw [feed_state]
  cases added : nesting.counted.addLine (Text.withoutLineEnd line) with
  | error fault =>
      rw [added] at taken
      cases taken
  | ok found =>
      rw [added] at taken
      cases taken
      rfl

theorem feed_of_not_push (uri : Option String) {nesting : Nesting} {line : List Char}
    (step : (SourceLine.read? line).bind nesting.push = none) :
    ∃ fault, nesting.counted.addLine (Text.withoutLineEnd line) = .error fault ∧
      Compilation.feed uri nesting.state line =
        .error ⟨fault, nesting.lines.length + 1, uri⟩ := by
  have taken := nesting.addLine_toOption line
  rw [step] at taken
  cases added : nesting.counted.addLine (Text.withoutLineEnd line) with
  | error fault =>
      exact ⟨fault, rfl, by rw [feed_state, added]⟩
  | ok found =>
      rw [added] at taken
      cases taken

/-! ### All lines -/

/-- Go on with lines as long as each of them has a meaning at its place. -/
def follow (nesting : Nesting) (lines : List (List Char)) : Option Nesting :=
  lines.foldlM (fun nesting line => (SourceLine.read? line).bind nesting.push) nesting

theorem follow_cons (nesting : Nesting) (line : List Char) (rest : List (List Char)) :
    nesting.follow (line :: rest) =
      ((SourceLine.read? line).bind nesting.push).bind fun next => next.follow rest := rfl

theorem follow_append (nesting : Nesting) (front rest : List (List Char)) :
    nesting.follow (front ++ rest) = (nesting.follow front).bind fun next => next.follow rest := by
  unfold follow
  rw [List.foldlM_append]
  rfl

/-- The lines of what lines nest to are what they are read as. -/
theorem lines_follow {nesting next : Nesting} {lines : List (List Char)}
    (run : nesting.follow lines = some next) :
    next.lines.map some = nesting.lines.map some ++ lines.map SourceLine.read? := by
  induction lines generalizing nesting with
  | nil =>
      cases run
      simp
  | cons line rest ih =>
      obtain ⟨between, step, later⟩ := Option.bind_eq_some_iff.mp run
      obtain ⟨source, read, pushed⟩ := Option.bind_eq_some_iff.mp step
      rw [ih later, lines_push pushed, List.map_cons, read, List.map_append, List.append_assoc]
      rfl

theorem length_lines_follow {nesting next : Nesting} {lines : List (List Char)}
    (run : nesting.follow lines = some next) :
    next.lines.length = nesting.lines.length + lines.length := by
  simpa using congrArg List.length (lines_follow run)

theorem feedAll_of_follow (uri : Option String) {nesting next : Nesting} {lines : List (List Char)}
    (run : nesting.follow lines = some next) :
    Compilation.feedAll uri nesting.state lines = .ok next.state := by
  induction lines generalizing nesting with
  | nil =>
      cases run
      rfl
  | cons line rest ih =>
      obtain ⟨between, step, later⟩ := Option.bind_eq_some_iff.mp run
      unfold Compilation.feedAll
      rw [List.foldlM_cons, feed_of_push uri step]
      exact ih later

/-- Lines that cannot be followed have a first one without a meaning at its place, and the compiler
stops there. -/
theorem feedAll_of_not_follow (uri : Option String) {nesting : Nesting} {lines : List (List Char)}
    (run : nesting.follow lines = none) :
    ∃ front line rest between fault, lines = front ++ line :: rest ∧
      nesting.follow front = some between ∧
      (SourceLine.read? line).bind between.push = none ∧
      between.counted.addLine (Text.withoutLineEnd line) = .error fault ∧
      Compilation.feedAll uri nesting.state lines =
        .error ⟨fault, between.lines.length + 1, uri⟩ := by
  induction lines generalizing nesting with
  | nil => cases run
  | cons line rest ih =>
      rw [follow_cons] at run
      cases step : (SourceLine.read? line).bind nesting.push with
      | none =>
          obtain ⟨fault, added, refused⟩ := feed_of_not_push uri step
          refine ⟨[], line, rest, nesting, fault, rfl, rfl, step, added, ?_⟩
          unfold Compilation.feedAll
          rw [List.foldlM_cons, refused]
          rfl
      | some next =>
          rw [step] at run
          obtain ⟨front, line', rest', between, fault, rfl, before, here, added, refused⟩ := ih run
          refine ⟨line :: front, line', rest', between, fault, rfl, ?_, here, added, ?_⟩
          · rw [follow_cons, step]
            exact before
          · unfold Compilation.feedAll
            rw [List.foldlM_cons, feed_of_push uri step]
            exact refused

/-! ### Blocks are followed -/

/-- Go on with lines that are already read. -/
def pushAll (nesting : Nesting) (lines : List SourceLine) : Option Nesting :=
  lines.foldlM push nesting

theorem pushAll_cons (nesting : Nesting) (line : SourceLine) (rest : List SourceLine) :
    nesting.pushAll (line :: rest) = (nesting.push line).bind fun next => next.pushAll rest := rfl

theorem pushAll_append (nesting : Nesting) (front rest : List SourceLine) :
    nesting.pushAll (front ++ rest) =
      (nesting.pushAll front).bind fun next => next.pushAll rest := by
  unfold pushAll
  rw [List.foldlM_append]
  rfl

theorem follow_of_read {nesting : Nesting} {lines : List (List Char)} {sources : List SourceLine}
    (read : lines.map SourceLine.read? = sources.map some) :
    nesting.follow lines = nesting.pushAll sources := by
  induction lines generalizing nesting sources with
  | nil =>
      cases sources with
      | nil => rfl
      | cons source later => cases read
  | cons line rest ih =>
      cases sources with
      | nil => cases read
      | cons source later =>
          obtain ⟨here, behind⟩ := List.cons.inj read
          rw [follow_cons, pushAll_cons, here, Option.bind_some]
          cases nesting.push source with
          | none => rfl
          | some next => exact ih behind

/-- Put closed blocks into the innermost open one. -/
def addAll (nesting : Nesting) (blocks : List Block) : Nesting :=
  blocks.foldl add nesting

theorem addAll_outer (outer blocks : List Block) :
    (⟨outer, []⟩ : Nesting).addAll blocks = ⟨outer ++ blocks, []⟩ := by
  induction blocks generalizing outer with
  | nil => simp [addAll]
  | cons block rest ih =>
      change (⟨outer ++ [block], []⟩ : Nesting).addAll rest = _
      rw [ih, List.append_assoc, List.singleton_append]

/-- Blocks are put behind those that the innermost open block already has inside. -/
theorem addAll_frame {shape : List Block → OpenFrame}
    (grows : ∀ inside block, (shape inside).add block = shape (inside ++ [block]))
    (outer blocks inside : List Block) (around : List OpenFrame) :
    (⟨outer, shape inside :: around⟩ : Nesting).addAll blocks =
      ⟨outer, shape (inside ++ blocks) :: around⟩ := by
  induction blocks generalizing inside with
  | nil => simp [addAll]
  | cons block rest ih =>
      change (⟨outer, (shape inside).add block :: around⟩ : Nesting).addAll rest = _
      rw [grows, ih, List.append_assoc, List.singleton_append]

mutual

/-- The lines of a block, wherever they stand, add the block. -/
theorem pushAll_lines : ∀ (block : Block) (nesting : Nesting),
    nesting.pushAll block.lines = some (nesting.add block)
  | .literal content, nesting => rfl
  | .branch condition whenTrue, nesting => by
      rw [Block.lines, pushAll_cons, push, Option.bind_some, pushAll_append,
        pushAll_allLines whenTrue, Option.bind_some,
        @addAll_frame (.branch condition) (fun _ _ => rfl), List.nil_append]
      rfl
  | .branchElse condition whenTrue whenFalse, nesting => by
      rw [Block.lines, pushAll_cons, push, Option.bind_some, pushAll_append,
        pushAll_allLines whenTrue, Option.bind_some,
        @addAll_frame (.branch condition) (fun _ _ => rfl), List.nil_append, pushAll_cons]
      simp only [push, Option.bind_some]
      rw [pushAll_append, pushAll_allLines whenFalse, Option.bind_some,
        @addAll_frame (.otherwise condition whenTrue) (fun _ _ => rfl), List.nil_append]
      rfl
  | .loop name path body, nesting => by
      rw [Block.lines, pushAll_cons, push, Option.bind_some, pushAll_append,
        pushAll_allLines body, Option.bind_some,
        @addAll_frame (.loop name path) (fun _ _ => rfl), List.nil_append]
      rfl

theorem pushAll_allLines : ∀ (blocks : List Block) (nesting : Nesting),
    nesting.pushAll (Block.allLines blocks) = some (nesting.addAll blocks)
  | [], nesting => rfl
  | block :: rest, nesting => by
      rw [Block.allLines, pushAll_append, pushAll_lines block, Option.bind_some,
        pushAll_allLines rest]
      rfl

end

end Nesting

/-- Blocks make up lines exactly if the lines nest to them and leave nothing open. -/
theorem makeUp_iff_follow (blocks : List Block) (lines : List (List Char)) :
    MakeUp blocks lines ↔ (⟨[], []⟩ : Nesting).follow lines = some ⟨blocks, []⟩ := by
  constructor
  · intro read
    rw [Nesting.follow_of_read read, Nesting.pushAll_allLines, Nesting.addAll_outer]
    rfl
  · intro run
    exact (Nesting.lines_follow run).symm

/-- The blocks of a template are determined by its lines. -/
theorem MakeUp.unique {one two : List Block} {lines : List (List Char)} (left : MakeUp one lines)
    (right : MakeUp two lines) : one = two := by
  have left' := (makeUp_iff_follow one lines).mp left
  have right' := (makeUp_iff_follow two lines).mp right
  rw [left'] at right'
  cases right'
  rfl

/-! ### Prefixes of templates -/

/-- Lines that some more lines complete to a well-nested template. -/
def Extendable (lines : List (List Char)) : Prop :=
  ∃ more, WellNested (lines ++ more)

/-- A line that closes the innermost open block. -/
def closingLine : OpenFrame → List Char
  | .branch _ _ | .otherwise _ _ _ => "<% /if %>".toList
  | .loop _ _ _ => "<% /for %>".toList

theorem read?_closingLine (frame : OpenFrame) :
    SourceLine.read? (closingLine frame) = some frame.closer := by
  have branch : SourceLine.read? "<% /if %>".toList = some .closesBranch := rfl
  have loop : SourceLine.read? "<% /for %>".toList = some .closesLoop := rfl
  cases frame with
  | branch condition inside | otherwise condition whenTrue inside => exact branch
  | loop name path inside => exact loop

/-- All open blocks can be closed, from the innermost out. -/
theorem exists_closing (count : Nat) (outer : List Block) (frames : List OpenFrame)
    (same : frames.length = count) :
    ∃ more blocks, (⟨outer, frames⟩ : Nesting).follow more = some ⟨blocks, []⟩ := by
  induction count generalizing outer frames with
  | zero =>
      obtain rfl := List.eq_nil_of_length_eq_zero same
      exact ⟨[], outer, rfl⟩
  | succ count ih =>
      obtain ⟨frame, around, rfl⟩ := List.exists_cons_of_length_eq_add_one same
      have fewer : ((⟨outer, around⟩ : Nesting).add frame.closed).frames.length = count := by
        cases around <;> simpa [Nesting.add, eq_comm] using same
      obtain ⟨more, blocks, run⟩ := ih _ _ fewer
      refine ⟨closingLine frame :: more, blocks, ?_⟩
      rw [Nesting.follow_cons, read?_closingLine, Option.bind_some, Nesting.push_closer,
        Option.bind_some]
      exact run

/-- Lines can be completed exactly if each of them has a meaning at its place. -/
theorem extendable_iff_follow (lines : List (List Char)) :
    Extendable lines ↔ ∃ next, (⟨[], []⟩ : Nesting).follow lines = some next := by
  constructor
  · rintro ⟨more, blocks, makeUp⟩
    have run := (makeUp_iff_follow _ _).mp makeUp
    rw [Nesting.follow_append] at run
    obtain ⟨next, front, -⟩ := Option.bind_eq_some_iff.mp run
    exact ⟨next, front⟩
  · rintro ⟨next, front⟩
    obtain ⟨more, blocks, run⟩ := exists_closing _ next.outer next.frames rfl
    refine ⟨more, blocks, (makeUp_iff_follow _ _).mpr ?_⟩
    rw [Nesting.follow_append, front]
    exact run

theorem Extendable.front {front rest : List (List Char)} (whole : Extendable (front ++ rest)) :
    Extendable front := by
  obtain ⟨more, nested⟩ := whole
  exact ⟨rest ++ more, by rwa [List.append_assoc] at nested⟩

/-- The lines end inside a block that was opened at a line, and inside of which no other block is
open. -/
def LeavesOpen (lines : List (List Char)) (line : Nat) : Prop :=
  ∃ (before : List SourceLine) (block : OpenFrame),
    lines.map SourceLine.read? = (before ++ block.lines).map some ∧ line = before.length + 1

theorem compile_eq (uri : Option String) (lines : List (List Char)) :
    compile uri lines =
      (Compilation.feedAll uri (⟨[], []⟩ : Nesting).state lines).bind fun state =>
        state.finish uri := rfl

/-- A template that blocks make up is compiled to the steps of these blocks. -/
theorem compile_of_makeUp (uri : Option String) {blocks : List Block} {lines : List (List Char)}
    (makeUp : MakeUp blocks lines) :
    compile uri lines = .ok ⟨Block.allActions 1 blocks, uri, lines.length⟩ := by
  have run := (makeUp_iff_follow blocks lines).mp makeUp
  have count := Nesting.length_lines_follow run
  rw [compile_eq, Nesting.feedAll_of_follow uri run]
  simp only [Except.bind, Compilation.finish, Nesting.state, Nesting.openBlocks, count]
  simp [Nesting.lines, Nesting.linesUpTo, Block.allLines]

/-- An error is that the condition at its line has too many digits exactly if there is one. -/
def CompileError.TellsDigits (lines : List (List Char)) (error : CompileError) : Prop :=
  ∀ count, error.fault = .tooManyDigits count ↔
    ∃ line, lines[error.line - 1]? = some line ∧ LongCondition line count

/-- Lines that leave a block open are refused at the line that opened it. -/
theorem compile_of_open (uri : Option String) {lines : List (List Char)} {outer : List Block}
    {frame : OpenFrame} {around : List OpenFrame}
    (run : (⟨[], []⟩ : Nesting).follow lines = some ⟨outer, frame :: around⟩) :
    ∃ error, compile uri lines = .error error ∧ LeavesOpen lines error.line ∧
      error.TellsDigits lines := by
  have read : lines.map SourceLine.read? =
      (⟨outer, frame :: around⟩ : Nesting).lines.map some := (Nesting.lines_follow run).symm
  refine ⟨_, by rw [compile_eq, Nesting.feedAll_of_follow uri run]; rfl, ?_, fun count => ?_⟩
  · refine ⟨Nesting.linesUpTo outer around, frame, read, ?_⟩
    cases frame <;> rfl
  · refine iff_of_false nofun ?_
    rintro ⟨line, found, long⟩
    have member : SourceLine.read? line ∈ lines.map SourceLine.read? :=
      List.mem_map_of_mem (List.mem_of_getElem? found)
    rw [long.read?, read] at member
    obtain ⟨source, -, impossible⟩ := List.mem_map.mp member
    cases impossible

/-- Lines of which one has no meaning at its place are refused at the first such line. -/
theorem compile_of_not_follow (uri : Option String) {lines : List (List Char)}
    (run : (⟨[], []⟩ : Nesting).follow lines = none) :
    ∃ error, compile uri lines = .error error ∧
      IsLeast {count | ¬Extendable (lines.take count)} error.line ∧ error.TellsDigits lines := by
  obtain ⟨front, line, rest, between, fault, rfl, before, here, added, refused⟩ :=
    Nesting.feedAll_of_not_follow uri run
  have length : between.lines.length = front.length := by
    simpa [Nesting.lines, Nesting.linesUpTo, Block.allLines] using
      Nesting.length_lines_follow before
  refine ⟨_, by rw [compile_eq, refused]; rfl, ⟨?_, ?_⟩, fun count => ?_⟩
  · -- Up to the line that is refused, the lines cannot be completed.
    change ¬Extendable ((front ++ line :: rest).take (between.lines.length + 1))
    rw [length, List.append_cons, List.take_left' (by simp), extendable_iff_follow]
    rintro ⟨next, reached⟩
    rw [Nesting.follow_append, before, Option.bind_some, Nesting.follow_cons, here] at reached
    cases reached
  · -- Fewer lines can be completed, because those in front of it can.
    intro count refusing
    refine Nat.not_lt.mp fun fewer => refusing ?_
    have inside : count ≤ front.length := by
      rw [← length]
      exact Nat.le_of_lt_succ fewer
    rw [List.take_append_of_le_length inside]
    have whole : Extendable (front.take count ++ front.drop count) := by
      rw [List.take_append_drop]
      exact (extendable_iff_follow front).mpr ⟨between, before⟩
    exact whole.front
  · have place : (front ++ line :: rest)[between.lines.length + 1 - 1]? = some line := by
      rw [Nat.add_sub_cancel, length, List.getElem?_append_right (Nat.le_refl _), Nat.sub_self]
      rfl
    have same := addLine_tooManyDigits between.counted line count
    rw [added, Except.error.injEq] at same
    rw [same, place]
    simp

/-- What has been compiled is made up of blocks, and its steps are those of the blocks. -/
theorem makeUp_of_compile {uri : Option String} {lines : List (List Char)}
    {template : CompiledTemplate} (accepted : compile uri lines = .ok template) :
    ∃ blocks, MakeUp blocks lines ∧
      template = ⟨Block.allActions 1 blocks, uri, lines.length⟩ := by
  cases run : (⟨[], []⟩ : Nesting).follow lines with
  | none =>
      obtain ⟨error, refused, -⟩ := compile_of_not_follow uri run
      rw [refused] at accepted
      cases accepted
  | some next =>
      obtain ⟨outer, frames⟩ := next
      cases frames with
      | nil =>
          have makeUp := (makeUp_iff_follow outer lines).mpr run
          rw [compile_of_makeUp uri makeUp] at accepted
          cases accepted
          exact ⟨outer, makeUp, rfl⟩
      | cons frame around =>
          obtain ⟨error, refused, -⟩ := compile_of_open uri run
          rw [refused] at accepted
          cases accepted

/-- A template is compiled exactly if each of its lines can be read on its own and the lines are well
nested.  Otherwise the error is at the first line up to which the lines cannot be completed to such
a template; or, if there is none, at the line that opened the innermost block still open.  It is one of
the template, unless that line opens a branch with a condition that has too many digits. -/
theorem compile_exact (uri : Option String) (lines : List (List Char)) :
    ((∃ template, compile uri lines = .ok template) ↔ WellNested lines) ∧
      ∀ error, compile uri lines = .error error →
        (IsLeast {count | ¬Extendable (lines.take count)} error.line ∨
          (∀ count, Extendable (lines.take count)) ∧ LeavesOpen lines error.line) ∧
        ∀ count, error.fault = .tooManyDigits count ↔
          ∃ line, lines[error.line - 1]? = some line ∧ LongCondition line count := by
  refine ⟨⟨fun ⟨template, accepted⟩ => ?_, fun ⟨blocks, makeUp⟩ => ?_⟩, fun error same => ?_⟩
  · obtain ⟨blocks, makeUp, -⟩ := makeUp_of_compile accepted
    exact ⟨blocks, makeUp⟩
  · exact ⟨_, compile_of_makeUp uri makeUp⟩
  · cases run : (⟨[], []⟩ : Nesting).follow lines with
    | none =>
        obtain ⟨error, refused, least, tells⟩ := compile_of_not_follow uri run
        rw [refused] at same
        cases same
        exact ⟨.inl least, tells⟩
    | some next =>
        obtain ⟨outer, frames⟩ := next
        cases frames with
        | nil =>
            have makeUp := (makeUp_iff_follow outer lines).mpr run
            rw [compile_of_makeUp uri makeUp] at same
            cases same
        | cons frame around =>
            obtain ⟨error, refused, leavesOpen, tells⟩ := compile_of_open uri run
            rw [refused] at same
            cases same
            refine ⟨.inr ⟨fun count => ?_, leavesOpen⟩, tells⟩
            have whole : Extendable (lines.take count ++ lines.drop count) := by
              rw [List.take_append_drop]
              exact (extendable_iff_follow lines).mpr ⟨_, run⟩
            exact whole.front

end Stencil.Template
