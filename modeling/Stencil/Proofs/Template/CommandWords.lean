/-
Module: Stencil.Proofs.Template.CommandWords
Purpose: Which commands are refused for the word that they start with, and where an opening command is
  read out of a longer word.
Main exports: leadingWord, commandWords, Overruns, read?_foreign, compile_refused_iff,
  foreign_word_exact
-/
import Mathlib
import Stencil.Proofs.Expr.Separation
import Stencil.Proofs.Template.CompilerExactness

namespace Stencil.Template

open Stencil.Expr (isNamePart)

/-! ### Words -/

/-- The word that a command starts with: an optional slash, and the longest run of characters that a
name of the expression language may go on with. -/
def leadingWord : List Char → List Char
  | '/' :: rest => '/' :: rest.takeWhile isNamePart
  | command => command.takeWhile isNamePart

/-- The words of the commands that open a block. -/
def openingWords : List (List Char) :=
  [['i', 'f'], ['f', 'o', 'r']]

/-- The words of all commands. -/
def commandWords : List (List Char) :=
  openingWords ++ [['e', 'l', 's', 'e'], ['/', 'i', 'f'], ['/', 'f', 'o', 'r']]

/-- A word goes on behind a shorter one with a character that is not among the letters of commands. -/
def Overruns (shorter word : List Char) : Prop :=
  ∃ next rest, word = shorter ++ next :: rest ∧ isCommandLetter next = false

/-- The letters of commands are among the characters of names. -/
theorem isNamePart_of_isCommandLetter {character : Char} (letter : isCommandLetter character = true) :
    isNamePart character = true := by
  have code : 65 ≤ character.toNat ∧ character.toNat ≤ 90 ∨
      97 ≤ character.toNat ∧ character.toNat ≤ 122 := by
    have letters : character.isAlpha = true := letter
    simp only [Char.isAlpha, Char.isUpper, Char.isLower, Bool.or_eq_true, Bool.and_eq_true,
      decide_eq_true_eq, UInt32.le_iff_toNat_le] at letters
    exact letters
  -- The two runs of letters stand in front of all other words in the table.
  have table (later : List Nat) : Text.RangeSet.containsFrom false
      (48 :: 58 :: 65 :: 91 :: 95 :: 96 :: 97 :: 123 :: later) character.toNat = true := by
    simp only [Text.RangeSet.containsFrom]
    grind
  have word : Text.isWordCharacter character = true := table _
  rw [isNamePart, word, Bool.or_true]

theorem isBlank_of_isNamePart {character : Char} (part : isNamePart character = true) :
    Text.isBlank character = false := by
  rw [← Bool.not_eq_true]
  intro blank
  rw [Expr.Separates.noName (.inl blank)] at part
  cases part

/-- What satisfies the weaker of two tests in front is what satisfies the stronger one, and what goes on
behind it. -/
theorem takeWhile_of_imp {weak strong : Char → Bool}
    (implies : ∀ character, strong character = true → weak character = true) (text : List Char) :
    text.takeWhile weak =
      text.takeWhile strong ++ (text.dropWhile strong).takeWhile weak := by
  have split : text.takeWhile strong ++ text.dropWhile strong = text :=
    List.takeWhile_append_dropWhile
  conv_lhs => rw [← split]
  exact List.takeWhile_append_of_pos fun character member =>
    implies character (List.mem_takeWhile_imp member)

/-! ### Reading a command -/

/-- A command as it is cut: an optional slash with letters of commands, and what is behind them. -/
structure CutAt (command front rest : List Char) : Prop where
  whole : command = front ++ rest
  read : Directive.read? command = Directive.ofWord? front (Text.trim rest)
  word : leadingWord command = front ++ rest.takeWhile isNamePart
  letters : ∀ character ∈ front.tail, isCommandLetter character = true
  stops : ∀ next ∈ rest.head?, isCommandLetter next = false

theorem exists_cutAt (command : List Char) : ∃ front rest, CutAt command front rest := by
  have weaker (body : List Char) : body.takeWhile isNamePart =
      body.takeWhile isCommandLetter ++
        (body.dropWhile isCommandLetter).takeWhile isNamePart :=
    takeWhile_of_imp (fun _ => isNamePart_of_isCommandLetter) body
  have stops (body : List Char) :
      ∀ next ∈ (body.dropWhile isCommandLetter).head?, isCommandLetter next = false := by
    intro next first
    simpa [Option.mem_def.mp first] using List.head?_dropWhile_not isCommandLetter body
  by_cases slash : ∃ body, command = '/' :: body
  · obtain ⟨body, rfl⟩ := slash
    refine ⟨'/' :: body.takeWhile isCommandLetter, body.dropWhile isCommandLetter, ?_, rfl, ?_, ?_,
      stops body⟩
    · rw [List.cons_append, List.takeWhile_append_dropWhile]
    · rw [leadingWord, weaker, List.cons_append]
    · exact fun character member => List.mem_takeWhile_imp member
  · have noSlash : ∀ body, command = '/' :: body → False := fun body same => slash ⟨body, same⟩
    refine ⟨command.takeWhile isCommandLetter, command.dropWhile isCommandLetter, ?_, ?_, ?_, ?_,
      stops command⟩
    · rw [List.takeWhile_append_dropWhile]
    · have cut : splitCommand command =
          (command.takeWhile isCommandLetter, Text.trim (command.dropWhile isCommandLetter)) := by
        unfold splitCommand
        split
        rename_i body parts
        split at parts
        · exact absurd rfl (noSlash _)
        · cases parts
          rfl
      rw [Directive.read?, cut]
    · rw [leadingWord.eq_2 command noSlash, weaker]
    · exact fun character member => List.mem_takeWhile_imp (List.mem_of_mem_tail member)

theorem ofWord?_of_notMem {word : List Char} (foreign : word ∉ commandWords) (rest : List Char) :
    Directive.ofWord? word rest = none := by
  simp only [commandWords, openingWords, List.cons_append, List.nil_append, List.mem_cons,
    List.not_mem_nil, or_false, not_or] at foreign
  obtain ⟨noIf, noFor, noElse, noCloseIf, noCloseFor⟩ := foreign
  unfold Directive.ofWord?
  rw [if_neg noIf, if_neg noFor, if_neg noElse, if_neg noCloseIf, if_neg noCloseFor, ite_self]

/-- Only the words of opening commands go with a rest. -/
theorem ofWord?_eq_none_iff {word rest : List Char} (nonempty : rest ≠ []) :
    Directive.ofWord? word rest = none ↔ word ∉ openingWords := by
  have given : (!rest.isEmpty) = true := by simpa using nonempty
  unfold Directive.ofWord?
  simp only [given, if_true, openingWords, List.mem_cons, List.not_mem_nil, or_false]
  by_cases isIf : word = ['i', 'f']
  · simp [isIf]
  · by_cases isFor : word = ['f', 'o', 'r']
    · simp [isFor]
    · simp [isIf, isFor]

theorem openingWords_letters {opener : List Char} (opens : opener ∈ openingWords) :
    opener ≠ [] ∧ ∀ character ∈ opener, isCommandLetter character = true := by
  rw [← List.all_eq_true]
  simp only [openingWords, List.mem_cons, List.not_mem_nil, or_false] at opens
  rcases opens with rfl | rfl
  · exact ⟨nofun, rfl⟩
  · exact ⟨nofun, rfl⟩

namespace CutAt

variable {command front rest opener : List Char}

/-- Behind a word of an opening command the leading word goes on exactly if the command is cut there. -/
theorem overruns_iff (cut : CutAt command front rest) (opens : opener ∈ openingWords) :
    Overruns opener (leadingWord command) ↔ front = opener ∧ rest.takeWhile isNamePart ≠ [] := by
  obtain ⟨given, openerLetters⟩ := openingWords_letters opens
  rw [cut.word]
  constructor
  · rintro ⟨next, further, same, noLetter⟩
    rcases List.append_eq_append_iff.mp same with ⟨middle, rfl, more⟩ | ⟨middle, rfl, more⟩
    · cases middle with
      | nil =>
          refine ⟨(List.append_nil front).symm, ?_⟩
          rw [more]
          simp
      | cons first middle =>
          -- The run of letters would have gone on into the word of the opening command.
          have letter := openerLetters first (by simp)
          have stop : isCommandLetter first = false := by
            cases rest with
            | nil => cases more
            | cons head tail =>
                refine cut.stops first ?_
                by_cases part : isNamePart head = true
                · rw [List.takeWhile_cons_of_pos part] at more
                  exact congrArg some (List.cons.inj more).1
                · rw [List.takeWhile_cons_of_neg part] at more
                  cases more
          rw [letter] at stop
          cases stop
    · cases middle with
      | nil =>
          refine ⟨List.append_nil opener, ?_⟩
          rw [List.nil_append] at more
          rw [← more]
          simp
      | cons first middle =>
          -- The next character would be one of the letters in front.
          cases more
          have letter := cut.letters next (by
            obtain ⟨first, tail, rfl⟩ := List.exists_cons_of_ne_nil given
            simp)
          rw [letter] at noLetter
          cases noLetter
  · rintro ⟨rfl, more⟩
    cases rest with
    | nil => exact absurd rfl more
    | cons next tail =>
        by_cases part : isNamePart next = true
        · exact ⟨next, tail.takeWhile isNamePart, by rw [List.takeWhile_cons_of_pos part],
            cut.stops next rfl⟩
        · exact absurd (List.takeWhile_cons_of_neg part) more

/-- A word that goes on has a rest behind it. -/
theorem trim_rest_ne_nil (cut : CutAt command front rest)
    (more : rest.takeWhile isNamePart ≠ []) : Text.trim rest ≠ [] := by
  obtain ⟨next, tail, rfl⟩ : ∃ next tail, rest = next :: tail := by
    cases rest with
    | nil => exact absurd rfl more
    | cons next tail => exact ⟨next, tail, rfl⟩
  have part : isNamePart next = true := by
    by_contra noPart
    exact more (List.takeWhile_cons_of_neg noPart)
  have solid := isBlank_of_isNamePart part
  unfold Text.trim Text.trimStart Text.trimEnd
  rw [List.dropWhile_cons_of_neg (by simp [solid])]
  intro blankOnly
  rw [List.reverse_eq_nil_iff, List.dropWhile_eq_nil_iff] at blankOnly
  have blank := blankOnly next (by simp)
  rw [solid] at blank
  cases blank

end CutAt

/-- A command whose word is none of the words of commands has no meaning, unless its word goes on behind
that of an opening command; then it is read as that command with the rest of the word behind it. -/
theorem read?_foreign {command : List Char} (foreign : leadingWord command ∉ commandWords) :
    (Directive.read? command = none ↔
      ∀ opener ∈ openingWords, ¬ Overruns opener (leadingWord command)) ∧
    ∀ opener ∈ openingWords, Overruns opener (leadingWord command) →
      Directive.read? command =
        Directive.ofWord? opener (Text.trim (command.drop opener.length)) := by
  obtain ⟨front, rest, cut⟩ := exists_cutAt command
  constructor
  · rw [cut.read]
    by_cases more : rest.takeWhile isNamePart = []
    · rw [cut.word, more, List.append_nil] at foreign
      refine iff_of_true (ofWord?_of_notMem foreign _) fun opener opens overruns => ?_
      exact ((cut.overruns_iff opens).mp overruns).2 more
    · rw [ofWord?_eq_none_iff (cut.trim_rest_ne_nil more)]
      constructor
      · intro other opener opens overruns
        obtain ⟨rfl, -⟩ := (cut.overruns_iff opens).mp overruns
        exact other opens
      · intro never opens
        exact never front opens ((cut.overruns_iff opens).mpr ⟨rfl, more⟩)
  · intro opener opens overruns
    obtain ⟨rfl, -⟩ := (cut.overruns_iff opens).mp overruns
    rw [cut.read, cut.whole, List.drop_left]

/-! ### Templates -/

/-- A fault that belongs to a line, and not to a block that is never closed. -/
def CompileFault.OfLine (fault : CompileFault) : Prop :=
  ∀ kind line, fault ≠ .unterminatedBlock kind line

/-- Once the lines in front have been taken in, a template is refused at the next line exactly if this
line is, and for the same fault, whatever lines follow. -/
theorem compile_refused_iff (uri : Option String) {before : List (List Char)}
    {state : Compilation} (fed : Compilation.feedAll uri {} before = .ok state)
    (line : List Char) (after : List (List Char)) {fault : CompileFault} (ofLine : fault.OfLine) :
    compile uri (before ++ line :: after) = .error ⟨fault, before.length + 1, uri⟩ ↔
      ({ state with lineCount := before.length + 1 } : Compilation).addLine
        (Text.withoutLineEnd line) = .error fault := by
  have start : ({} : Compilation) = (⟨[], []⟩ : Nesting).state := rfl
  rw [start] at fed
  obtain ⟨nesting, reached⟩ : ∃ nesting, (⟨[], []⟩ : Nesting).follow before = some nesting := by
    cases run : (⟨[], []⟩ : Nesting).follow before with
    | some nesting => exact ⟨nesting, rfl⟩
    | none =>
        obtain ⟨_, _, _, _, _, -, -, -, -, refused⟩ := Nesting.feedAll_of_not_follow uri run
        rw [refused] at fed
        cases fed
  have same := Nesting.feedAll_of_follow uri reached
  rw [fed] at same
  cases same
  have count : nesting.lines.length = before.length := by
    simpa [Nesting.lines, Nesting.linesUpTo, Block.allLines] using
      Nesting.length_lines_follow reached
  have counted : ({ nesting.state with lineCount := before.length + 1 } : Compilation) =
      nesting.counted := by
    rw [Nesting.counted, count]
  have steps : compile uri (before ++ line :: after) =
      ((Compilation.feed uri nesting.state line).bind fun next =>
        Compilation.feedAll uri next after).bind fun last => last.finish uri := by
    rw [compile_eq]
    unfold Compilation.feedAll
    rw [List.foldlM_append]
    unfold Compilation.feedAll at fed
    rw [fed]
    rfl
  rw [counted, steps, Nesting.feed_state, count]
  cases taken : nesting.counted.addLine (Text.withoutLineEnd line) with
  | error refusal => simp [Except.bind]
  | ok next =>
      refine iff_of_false ?_ (by simp)
      simp only [Except.bind]
      have pushed := nesting.addLine_toOption line
      rw [taken] at pushed
      obtain ⟨inner, push, rfl⟩ := Option.map_eq_some_iff.mp pushed.symm
      cases run : inner.follow after with
      | none =>
          obtain ⟨front, _, _, between, _, -, passed, -, -, refused⟩ :=
            Nesting.feedAll_of_not_follow uri run
          -- What is refused later stands at a later line.
          have lines := Nesting.length_lines_follow passed
          have longer : inner.lines.length = before.length + 1 := by
            obtain ⟨source, -, pushed⟩ := Option.bind_eq_some_iff.mp push
            rw [Nesting.lines_push pushed, List.length_append, count]
            rfl
          rw [refused]
          simp only [Except.error.injEq, CompileError.mk.injEq]
          omega
      | some last =>
          rw [Nesting.feedAll_of_follow uri run]
          change ¬ last.state.finish uri = _
          unfold Compilation.finish
          split
          · simp
          · simp only [Except.error.injEq, CompileError.mk.injEq, not_and]
            intro unterminated
            exact absurd unterminated.symm (ofLine _ _)

/-- A command is refused as no command exactly if it has no meaning. -/
theorem obey_invalid_iff (state : Compilation) (command : List Char) :
    state.obey command = .error (.invalidCommand (String.ofList command)) ↔
      Directive.read? command = none := by
  unfold Compilation.obey
  cases Directive.read? command with
  | none => simp
  | some directive =>
      refine iff_of_false ?_ (by simp)
      cases directive with
      | openBranch condition =>
          simp only [Compilation.openBranch]
          split
          · simp
          · split
            · simp
            · simp only [Except.error.injEq, CompileFault.ofCondition]
              split <;> simp
      | openLoop header =>
          simp only [Compilation.openLoop]
          split
          · simp
          · split <;> simp
      | otherwise =>
          simp only [Compilation.switchBranch]
          split <;> simp
      | closeBranch | closeLoop =>
          simp only [Compilation.closeBlock]
          split
          · simp
          · split <;> simp

/-- A directive line whose word is none of the words of commands is refused as no command, at this line
and whatever lines follow, unless its word goes on behind that of an opening command with a digit, an
underscore, a dollar sign or a letter of another script.  Then the word is split: the line is read as
the opening command, with the rest of the word in front of what it takes. -/
theorem foreign_word_exact (uri : Option String) {before : List (List Char)} {state : Compilation}
    (fed : Compilation.feedAll uri {} before = .ok state) {line command : List Char}
    (directive : isDirective (Text.withoutLineEnd line) = true)
    (same : directiveCommand (Text.withoutLineEnd line) = command)
    (foreign : leadingWord command ∉ commandWords) (after : List (List Char)) :
    (compile uri (before ++ line :: after) =
        .error ⟨.invalidCommand (String.ofList command), before.length + 1, uri⟩ ↔
      ∀ opener ∈ openingWords, ¬ Overruns opener (leadingWord command)) ∧
    ∀ opener ∈ openingWords, Overruns opener (leadingWord command) →
      Directive.read? command =
        Directive.ofWord? opener (Text.trim (command.drop opener.length)) := by
  obtain ⟨refused, split⟩ := read?_foreign foreign
  have ofLine : CompileFault.OfLine (.invalidCommand (String.ofList command)) := fun _ _ => nofun
  refine ⟨?_, split⟩
  rw [compile_refused_iff uri fed line after ofLine, Compilation.addLine, if_pos directive, same,
    obey_invalid_iff, refused]

/-- A letter with an accent behind two more letters does not split the word. -/
theorem foreign_word_exact_accent :
    compile none ["a".toList, "<% iffé %>".toList, "<% /if %>".toList] =
      .error ⟨.invalidCommand "iffé", 2, none⟩ := by
  have fed : Compilation.feedAll none {} ["a".toList] = .ok ⟨[.line "a"], [], 1⟩ := by cbv
  have word : leadingWord "iffé".toList = "iffé".toList := by decide +kernel
  have foreign : leadingWord "iffé".toList ∉ commandWords := by
    rw [word]
    decide
  have directive : isDirective (Text.withoutLineEnd "<% iffé %>".toList) = true := by decide
  have command : directiveCommand (Text.withoutLineEnd "<% iffé %>".toList) = "iffé".toList := by
    decide +kernel
  obtain ⟨refused, -⟩ :=
    foreign_word_exact none fed directive command foreign ["<% /if %>".toList]
  refine refused.mpr fun opener opens overruns => ?_
  obtain ⟨next, rest, same, noLetter⟩ := overruns
  rw [word] at same
  simp only [openingWords, List.mem_cons, List.not_mem_nil, or_false] at opens
  rcases opens with rfl | rfl
  · cases same
    revert noLetter
    decide
  · cases same

/-- An underscore does: the word `if_x` is no word of a command, and opens a branch. -/
theorem underscore_splits_word :
    isDirective "<% if_x %>".toList = true ∧
      leadingWord (directiveCommand "<% if_x %>".toList) = "if_x".toList ∧
      "if_x".toList ∉ commandWords ∧
      ∃ condition, Expr.Expression.parse "_x" = .ok condition ∧
        compile none ["<% if_x %>".toList, "<% /if %>".toList] =
          .ok ⟨[.branch condition [] [] 1], none, 2⟩ := by
  refine ⟨by decide, by decide +kernel, by decide,
    ⟨.mk (.mk (.single (.single (.mk (.single (.plain (.path "_x"))) []))) []) [], "_x"⟩, ?_, ?_⟩
  · cbv
  · cbv

end Stencil.Template
