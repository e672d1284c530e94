/-
Module: Stencil.Proofs.Expr.Blanks
Purpose: Blanks keep lexemes apart: what stands in front of them and what stands behind them is cut as
  it is cut alone, and how many blanks there are changes no tree.
Main exports: Lexeme.shift, SyntaxError.shift, tokenizeFrom_shift, Cut.before_blanks, SameTree,
  solid, blanks_separate
-/
import Stencil.Proofs.Expr.ParserExactness
import Stencil.Proofs.Expr.Separation

namespace Stencil.Expr

open Text

/-! ### Texts that stand further behind -/

/-- The lexeme, so much further behind. -/
def Lexeme.shift (offset : Nat) (lexeme : Lexeme) : Lexeme :=
  { lexeme with position := lexeme.position + offset }

/-- The same fault, so much further behind. -/
def SyntaxError.shift (offset : Nat) (error : SyntaxError) : SyntaxError :=
  { error with position := error.position + offset }

theorem tokensOf_shift (offset : Nat) (lexemes : List Lexeme) :
    tokensOf (lexemes.map (·.shift offset)) = tokensOf lexemes := by
  rw [tokensOf, List.map_map]
  rfl

/-- The tokens of lexemes that stand further behind. -/
theorem Tokens.shift {position : Nat} {pieces : List Piece} {lexemes : List Lexeme}
    (tokens : Tokens position pieces lexemes) (offset : Nat) :
    Tokens (position + offset) pieces (lexemes.map (·.shift offset)) := by
  induction tokens with
  | nil position => exact .nil (position + offset)
  | blank denotes _ ih =>
      rw [Nat.add_right_comm] at ih
      exact .blank denotes ih
  | token denotes _ ih =>
      rw [Nat.add_right_comm] at ih
      exact .token denotes ih

theorem Stops.shift {position : Nat} {rest : List Char} {error : SyntaxError}
    (stops : Stops position rest error) (offset : Nat) :
    Stops (position + offset) rest (error.shift offset) := by
  cases stops with
  | unreadable noneFits => exact .unreadable noneFits
  | @escape quote character body good behind lexeme unlisted =>
      have place : position + 1 + good.length + offset = position + offset + 1 + good.length := by
        omega
      have moved : Stops (position + offset) (quote :: (body ++ [quote]) ++ behind)
          ⟨.invalidEscape character, position + offset + 1 + good.length⟩ :=
        .escape lexeme unlisted
      rw [← place] at moved
      exact moved

/-- A text that stands further behind is cut into the same lexemes further behind, and it fails with
the same fault further behind. -/
theorem tokenizeFrom_shift (position offset : Nat) (text : List Char) :
    (∀ lexemes, tokenizeFrom position text = .ok lexemes →
      tokenizeFrom (position + offset) text = .ok (lexemes.map (·.shift offset))) ∧
    ∀ error, tokenizeFrom position text = .error error →
      tokenizeFrom (position + offset) text = .error (error.shift offset) := by
  obtain ⟨front, pieces, lexemes, rest, rfl, cut, tokens, ending⟩ := exists_cut position text
  have here := cut.tokenizeFrom tokens
  have there := cut.tokenizeFrom (tokens.shift offset)
  rw [Nat.add_right_comm] at there
  rcases ending with rfl | ⟨fault, stops⟩
  · rw [tokenizeFrom_nil] at here there
    rw [here, there]
    constructor
    · intro lexemes' same
      cases same
      simp [Except.map, Lexeme.shift]
    · intro error same
      cases same
  · rw [stops.tokenizeFrom] at here
    rw [(stops.shift offset).tokenizeFrom] at there
    rw [here, there]
    constructor
    · intro lexemes' same
      cases same
    · intro error same
      cases same
      rfl

/-! ### Blanks between texts -/

/-- One or more blanks. -/
def IsBlankRun (blanks : String) : Prop :=
  blanks ≠ "" ∧ ∀ character ∈ blanks.toList, isBlank character = true

/-- The longest run of blanks is one lexeme. -/
theorem scan_blank {first : Char} (blank : isBlank first = true) (rest : List Char) :
    LexemeClass.scan first rest = some (.blank, runLength isBlank (first :: rest)) := by
  unfold LexemeClass.scan
  rw [if_pos blank]

/-- A text is cut as if the blanks in front of it were not there. -/
theorem tokenizeFrom_blanks (position : Nat) {blanks : List Char}
    (blank : ∀ character ∈ blanks, isBlank character = true) (text : List Char) :
    tokenizeFrom position (blanks ++ text) = tokenizeFrom (position + blanks.length) text := by
  -- The lexeme at the front takes the blanks of the text along.
  have whole : ∀ (position : Nat) (run rest : List Char),
      (∀ character ∈ run, isBlank character = true) →
      (∀ next ∈ rest.head?, isBlank next = false) →
      tokenizeFrom position (run ++ rest) = tokenizeFrom (position + run.length) rest := by
    intro position run rest all stops
    cases run with
    | nil => rfl
    | cons first run =>
        have length : runLength isBlank (first :: (run ++ rest)) = run.length + 1 := by
          have reach := runLength_append all rest
          rw [runLength_of_stops stops] at reach
          exact reach
        have scanned := scan_blank (all first List.mem_cons_self) (run ++ rest)
        rw [length] at scanned
        rw [List.cons_append, tokenizeFrom_cons scanned rfl]
        simp only [Nat.add_sub_cancel, List.drop_left, List.length_cons]
        cases tokenizeFrom (position + (run.length + 1)) rest <;> rfl
  obtain ⟨run, rest, rfl, all, stops, -⟩ := runLength_split isBlank text
  have together := whole position (blanks ++ run) rest (List.forall_mem_append.mpr ⟨blank, all⟩) stops
  rw [List.append_assoc, List.length_append, ← Nat.add_assoc] at together
  rw [together, whole (position + blanks.length) run rest all stops]

/-- The lexer goes through a text that it cuts when it stands alone, up to the blanks behind it. -/
theorem Cut.before_blanks {text : List Char} {pieces : List Piece} (cut : Cut text pieces [])
    {mark : Char} (blank : isBlank mark = true) (rest : List Char) {position : Nat}
    {lexemes : List Lexeme} (tokens : Tokens position pieces lexemes) :
    Expr.tokenizeFrom position (text ++ mark :: rest) =
      (Expr.tokenizeFrom (position + text.length) (mark :: rest)).map (lexemes ++ ·) := by
  generalize atEnd : ([] : List Char) = behind at cut
  induction cut generalizing position lexemes with
  | nil =>
      cases tokens
      cases run : Expr.tokenizeFrom position (mark :: rest) <;> simp [run, Except.map]
  | @cons kind written text behind pieces lexeme _ ih =>
      subst atEnd
      rw [List.append_nil] at lexeme
      rw [List.append_assoc, List.length_append, ← Nat.add_assoc]
      cases tokens with
      | blank denotes later =>
          have fits := lexeme.fits
          cases denotes with
          | blank written => rw [tokenizeFrom_blanks position fits.2, ih later rfl]
      | token denotes later =>
          have solid : kind = .blank → isBlank mark = false := by
            rintro rfl
            cases denotes
          have inside := lexeme.before (.inl blank) solid rest
          rw [inside.tokenizeFrom_of_denotes denotes, ih later rfl]
          cases Expr.tokenizeFrom (position + written.length + text.length) (mark :: rest) <;> rfl

/-- What stands behind blanks is cut as it is alone, but further behind, and joined to the lexemes of
the text in front of them. -/
theorem tokenize_across {front blanks : String} {lexemes : List Lexeme}
    (accepted : tokenize front = .ok lexemes) (run : IsBlankRun blanks) (rest : String) :
    tokenize (front ++ blanks ++ rest) =
      (tokenizeFrom (0 + (front.length + blanks.length)) rest.toList).map
        (lexemes.dropLast ++ ·) := by
  obtain ⟨pieces, tokens, cut, made, rfl⟩ := tokenize_eq_ok_iff.mp accepted
  obtain ⟨nonempty, blank⟩ := run
  have marks : blanks.toList ≠ [] := fun empty => nonempty (String.toList_eq_nil_iff.mp empty)
  obtain ⟨mark, more, parts⟩ := List.exists_cons_of_ne_nil marks
  have isMark : isBlank mark = true := blank mark (parts ▸ List.mem_cons_self)
  have text : (front ++ blanks ++ rest).toList = front.toList ++ mark :: (more ++ rest.toList) := by
    rw [String.toList_append, String.toList_append, parts, List.append_assoc, List.cons_append]
  have behind : mark :: (more ++ rest.toList) = blanks.toList ++ rest.toList := by
    rw [parts, List.cons_append]
  rw [tokenize, text, cut.before_blanks isMark _ made, behind,
    tokenizeFrom_blanks _ blank, List.dropLast_concat, String.length_toList, String.length_toList,
    Nat.add_assoc]

/-! ### Trees -/

/-- Two texts are both expressions with one tree, or neither is an expression. -/
def SameTree (text text' : String) : Prop :=
  ∀ root, (∃ expression, Expression.parse text = .ok expression ∧ expression.root = root) ↔
    ∃ expression, Expression.parse text' = .ok expression ∧ expression.root = root

/-- Texts that are cut into the same tokens have the same tree. -/
theorem sameTree_of_tokens {text text' : String} {lexemes lexemes' : List Lexeme}
    (cut : tokenize text = .ok lexemes) (cut' : tokenize text' = .ok lexemes')
    (same : tokensOf lexemes = tokensOf lexemes') : SameTree text text' := by
  intro root
  constructor
  · rintro ⟨expression, read, rfl⟩
    obtain ⟨phrase, tokens, fits, rfl⟩ := (parse_eq_ok_iff cut expression).mp read
    rw [same] at tokens
    exact ⟨_, (parse_eq_ok_iff cut' _).mpr ⟨phrase, tokens, fits, rfl⟩, rfl⟩
  · rintro ⟨expression, read, rfl⟩
    obtain ⟨phrase, tokens, fits, rfl⟩ := (parse_eq_ok_iff cut' expression).mp read
    rw [← same] at tokens
    exact ⟨_, (parse_eq_ok_iff cut _).mpr ⟨phrase, tokens, fits, rfl⟩, rfl⟩

/-- Texts that are not cut to their end have no tree. -/
theorem sameTree_of_errors {text text' : String} {error error' : SyntaxError}
    (stops : tokenize text = .error error) (stops' : tokenize text' = .error error') :
    SameTree text text' := by
  have stopped : ∀ {text : String} {error : SyntaxError}, tokenize text = .error error →
      ∀ expression, Expression.parse text ≠ .ok expression := by
    intro text error stops expression read
    obtain ⟨lexemes, cut⟩ := exists_tokenize_of_parse read
    rw [stops] at cut
    cases cut
  intro root
  constructor
  · rintro ⟨expression, read, -⟩
    exact absurd read (stopped stops expression)
  · rintro ⟨expression, read, -⟩
    exact absurd read (stopped stops' expression)

/-- A text is cut in one way only. -/
theorem Cut.unique {text rest : List Char} {pieces pieces' : List Piece}
    (cut : Cut text pieces rest) (cut' : Cut text pieces' rest) : pieces = pieces' := by
  induction cut generalizing pieces' with
  | nil =>
      generalize empty : ([] : List Char) = text at cut'
      cases cut' with
      | nil => rfl
      | cons lexeme _ => exact absurd (List.append_eq_nil_iff.mp empty.symm).1 lexeme.fits.ne_nil
  | @cons kind written text rest pieces lexeme _ ih =>
      generalize whole : written ++ text = text' at cut'
      cases cut' with
      | nil => exact absurd (List.append_eq_nil_iff.mp whole).1 lexeme.fits.ne_nil
      | cons lexeme' later' =>
          -- Both lexemes are what the scanner finds at the front.
          obtain ⟨first, body, rfl, scanned⟩ := lexeme.scanned
          obtain ⟨first', body', rfl, scanned'⟩ := lexeme'.scanned
          obtain ⟨rfl, parts⟩ : first = _ ∧ body ++ _ = body' ++ _ := List.cons.inj whole
          rw [← List.append_assoc, parts, List.append_assoc, scanned'] at scanned
          obtain ⟨rfl, length⟩ := Prod.mk.inj (Option.some.inj scanned)
          obtain ⟨rfl, rfl⟩ := List.append_inj parts (Nat.succ.inj length).symm
          rw [ih later']

/-- The lexemes that are no blanks. -/
def solid (pieces : List Piece) : List Piece :=
  pieces.filter fun piece => piece.kind ≠ .blank

/-- The token that a lexeme stands for, wherever it stands. -/
def Piece.token? (piece : Piece) : Option Token :=
  ((piece.kind.token? 0 piece.written).toOption).join

theorem Tokens.tokensOf_eq {position : Nat} {pieces : List Piece} {lexemes : List Lexeme}
    (tokens : Tokens position pieces lexemes) :
    tokensOf lexemes = pieces.filterMap Piece.token? := by
  induction tokens with
  | nil => rfl
  | @blank position kind written pieces lexemes denotes _ ih =>
      have dropped : Piece.token? ⟨kind, written⟩ = none := by
        rw [Piece.token?, denotes.token? 0]
        rfl
      rw [List.filterMap_cons_none dropped, ih]
  | @token position kind written token pieces lexemes denotes _ ih =>
      have made : Piece.token? ⟨kind, written⟩ = some token := by
        rw [Piece.token?, denotes.token? 0]
        rfl
      rw [List.filterMap_cons_some made, tokensOf_cons, ih]

/-- Blanks stand for no token. -/
theorem filterMap_solid (pieces : List Piece) :
    (solid pieces).filterMap Piece.token? = pieces.filterMap Piece.token? := by
  rw [solid, List.filterMap_filter]
  refine List.filterMap_congr fun piece _ => ?_
  obtain ⟨kind, written⟩ := piece
  cases kind <;> rfl

theorem mem_solid_quoted {pieces : List Piece} {written : List Char} :
    ⟨.quoted, written⟩ ∈ solid pieces ↔ ⟨.quoted, written⟩ ∈ pieces := by
  simp [solid]

/-- A text with a lexeme that has an escape not listed is not cut into tokens. -/
theorem Cut.exists_error {text : String} {pieces : List Piece} (cut : Cut text.toList pieces [])
    (unlisted : ¬∃ lexemes, Tokens 0 pieces lexemes) : ∃ error, tokenize text = .error error := by
  cases run : tokenize text with
  | error error => exact ⟨error, rfl⟩
  | ok lexemes =>
      obtain ⟨pieces', tokens, cut', made, -⟩ := tokenize_eq_ok_iff.mp run
      rw [cut'.unique cut] at made
      exact absurd ⟨tokens, made⟩ unlisted

/-- Texts with the same lexemes apart from blanks have the same tree, wherever there are blanks and
however many. -/
theorem sameTree_of_solid {text text' : String} {pieces pieces' : List Piece}
    (cut : Cut text.toList pieces []) (cut' : Cut text'.toList pieces' [])
    (same : solid pieces = solid pieces') : SameTree text text' := by
  by_cases listed : ∃ lexemes, Tokens 0 pieces lexemes
  · have listed' := (cut.exists_tokens_iff 0).mp listed
    obtain ⟨lexemes, tokens⟩ := listed
    obtain ⟨lexemes', tokens'⟩ := (cut'.exists_tokens_iff 0).mpr fun quote body member =>
      listed' quote body (mem_solid_quoted.mp (same ▸ mem_solid_quoted.mpr member))
    apply sameTree_of_tokens (tokenize_eq_ok_iff.mpr ⟨_, _, cut, tokens, rfl⟩)
      (tokenize_eq_ok_iff.mpr ⟨_, _, cut', tokens', rfl⟩)
    rw [tokensOf_append, tokensOf_append, tokens.tokensOf_eq, tokens'.tokensOf_eq,
      ← filterMap_solid pieces, ← filterMap_solid pieces', same]
    rfl
  · -- Some escape is listed in neither text.
    have listed' : ¬∃ lexemes, Tokens 0 pieces' lexemes := by
      rintro ⟨lexemes', tokens'⟩
      have all := (cut'.exists_tokens_iff 0).mp ⟨lexemes', tokens'⟩
      apply listed
      exact (cut.exists_tokens_iff 0).mpr fun quote body member =>
        all quote body (mem_solid_quoted.mp (same ▸ mem_solid_quoted.mpr member))
    obtain ⟨error, stops⟩ := cut.exists_error listed
    obtain ⟨error', stops'⟩ := cut'.exists_error listed'
    exact sameTree_of_errors stops stops'

/-! ### Both together -/

/-- Blanks behind a text that is cut into tokens keep it apart from what follows.  The whole is cut
exactly if the rest is: into the tokens of the text in front of its end, and those of the rest as they
are cut from it alone, further behind by what stands before.  If the rest fails, the whole fails with
the same fault, further behind in the same way.  So the number of blanks makes no difference to the
tree; and of any two texts that have the same lexemes apart from blanks, either both are expressions
with one tree or neither is one. -/
theorem blanks_separate {front blanks : String} {lexemes : List Lexeme}
    (accepted : tokenize front = .ok lexemes) (run : IsBlankRun blanks) :
    (∀ rest : String,
      ((∃ all, tokenize (front ++ blanks ++ rest) = .ok all) ↔ ∃ later, tokenize rest = .ok later) ∧
      (∀ later, tokenize rest = .ok later →
        tokenize (front ++ blanks ++ rest) =
          .ok (lexemes.dropLast ++ later.map (·.shift (front.length + blanks.length)))) ∧
      (∀ error, tokenize rest = .error error →
        tokenize (front ++ blanks ++ rest) =
          .error (error.shift (front.length + blanks.length))) ∧
      ∀ blanks', IsBlankRun blanks' →
        SameTree (front ++ blanks ++ rest) (front ++ blanks' ++ rest)) ∧
    ∀ (text text' : String) (pieces pieces' : List Piece), Cut text.toList pieces [] →
      Cut text'.toList pieces' [] → solid pieces = solid pieces' → SameTree text text' := by
  have joined : ∀ {blanks rest : String} {later : List Lexeme}, IsBlankRun blanks →
      tokenize rest = .ok later → tokenize (front ++ blanks ++ rest) =
        .ok (lexemes.dropLast ++ later.map (·.shift (front.length + blanks.length))) := by
    intro blanks rest later run cut
    rw [tokenize_across accepted run, (tokenizeFrom_shift 0 _ rest.toList).1 later cut]
    rfl
  have failed : ∀ {blanks rest : String} {error : SyntaxError}, IsBlankRun blanks →
      tokenize rest = .error error → tokenize (front ++ blanks ++ rest) =
        .error (error.shift (front.length + blanks.length)) := by
    intro blanks rest error run stops
    rw [tokenize_across accepted run, (tokenizeFrom_shift 0 _ rest.toList).2 error stops]
    rfl
  constructor
  · intro rest
    cases cut : tokenize rest with
    | ok later =>
        have whole := joined run cut
        refine ⟨⟨fun _ => ⟨later, rfl⟩, fun _ => ⟨_, whole⟩⟩, ?_, nofun, ?_⟩
        · intro later' same
          cases same
          exact whole
        · intro blanks' run'
          apply sameTree_of_tokens whole (joined run' cut)
          rw [tokensOf_append, tokensOf_append, tokensOf_shift, tokensOf_shift]
    | error error =>
        have whole := failed run cut
        refine ⟨⟨?_, nofun⟩, nofun, ?_, ?_⟩
        · rintro ⟨all, same⟩
          rw [whole] at same
          cases same
        · intro error' same
          cases same
          exact whole
        · intro blanks' run'
          exact sameTree_of_errors whole (failed run' cut)
  · intro text text' pieces pieces' cut cut' same
    exact sameTree_of_solid cut cut' same

/-- An exponent does not reach its digits across blanks, and an open quote is found behind them. -/
theorem blanks_separate_exponent :
    tokenize "1e" = .ok [⟨.number "1", 0⟩, ⟨.path "e", 1⟩, ⟨.endOfText, 2⟩] ∧
      tokenize "1e\t 5" =
        .ok [⟨.number "1", 0⟩, ⟨.path "e", 1⟩, ⟨.number "5", 4⟩, ⟨.endOfText, 5⟩] ∧
      tokenize "1e\t 5 'a" = .error ⟨.unterminatedText, 6⟩ := by
  have front : tokenize "1e" = .ok [⟨.number "1", 0⟩, ⟨.path "e", 1⟩, ⟨.endOfText, 2⟩] := by cbv
  have blank : ['\t', ' '].all isBlank = true := by decide
  have run : IsBlankRun "\t " := ⟨by decide, List.all_eq_true.mp blank⟩
  have digit : tokenize "5" = .ok [⟨.number "5", 0⟩, ⟨.endOfText, 1⟩] := by decide +kernel
  have quote : tokenize "5 'a" = .error ⟨.unterminatedText, 2⟩ := by decide +kernel
  obtain ⟨-, joined, -, -⟩ := (blanks_separate front run).1 "5"
  obtain ⟨-, -, failed, -⟩ := (blanks_separate front run).1 "5 'a"
  exact ⟨front, joined _ digit, failed _ quote⟩

end Stencil.Expr
