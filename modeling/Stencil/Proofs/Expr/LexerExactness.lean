/-
Module: Stencil.Proofs.Expr.LexerExactness
Purpose: The lexer cuts a text into longest lexemes, makes one token of each that is not blank, and
  stops at the first place where it cannot go on.
Main exports: Unescapes, Denotes, Cut, Tokens, Stops, tokenize_exact
-/
import Stencil.Proofs.Expr.LexemeClasses

namespace Stencil.Expr

open Text

/-! ### Escapes -/

/-- The characters that may follow a backslash, with what they stand for. -/
def escapes : List (Char × Char) :=
  [('n', '\n'), ('t', '\t'), ('r', '\r'), ('\\', '\\'), ('\'', '\''), ('"', '"')]

theorem escapedCharacter?_eq_some_iff {character meant : Char} :
    escapedCharacter? character = some meant ↔ (character, meant) ∈ escapes := by
  unfold escapedCharacter? escapes
  split <;> simp_all [eq_comm]

theorem escapedCharacter?_eq_none_iff {character : Char} :
    escapedCharacter? character = none ↔ ∀ meant, (character, meant) ∉ escapes := by
  rw [Option.eq_none_iff_forall_ne_some]
  exact forall_congr' fun meant => not_congr escapedCharacter?_eq_some_iff

/-- The content of the body of a quoted text: each backslash starts a listed escape. -/
inductive Unescapes : List Char → List Char → Prop where
  | nil : Unescapes [] []
  | plain {character : Char} {rest content : List Char} (noEscape : character ≠ '\\')
      (later : Unescapes rest content) : Unescapes (character :: rest) (character :: content)
  | escape {character meant : Char} {rest content : List Char}
      (listed : (character, meant) ∈ escapes) (later : Unescapes rest content) :
      Unescapes ('\\' :: character :: rest) (meant :: content)

/-- What has been unescaped does not depend on what follows it. -/
theorem Unescapes.append {good content : List Char} (unescapes : Unescapes good content)
    (position : Nat) (rest : List Char) :
    unescape position (good ++ rest) =
      (unescape (position + good.length) rest).map (content ++ ·) := by
  induction unescapes generalizing position with
  | nil =>
      cases behind : unescape position rest <;> simp [behind, Except.map]
  | @plain character good content noEscape _ ih =>
      rw [List.cons_append, unescape, ih, List.length_cons, Nat.add_right_comm, Nat.add_assoc]
      · cases unescape (position + (good.length + 1)) rest <;> rfl
      · exact fun _ _ escape => absurd escape noEscape
  | @escape character meant good content listed _ ih =>
      rw [List.cons_append, List.cons_append, unescape, escapedCharacter?_eq_some_iff.mpr listed]
      simp only [ih, List.length_cons, Nat.add_assoc, Nat.add_comm 2]
      cases unescape (position + (good.length + (1 + 1))) rest <;> rfl

theorem Unescapes.unescape {body content : List Char} (unescapes : Unescapes body content)
    (position : Nat) : Expr.unescape position body = .ok content := by
  have whole := unescapes.append position []
  rw [List.append_nil, Expr.unescape] at whole
  rw [whole]
  simp [Except.map]

/-- An invalid escape, with everything in front of it being unescaped. -/
def Unlisted (body good : List Char) (character : Char) : Prop :=
  (∃ content, Unescapes good content) ∧ (∃ rest, body = good ++ '\\' :: character :: rest) ∧
    ∀ meant, (character, meant) ∉ escapes

theorem Unlisted.unescape {body good : List Char} {character : Char}
    (unlisted : Unlisted body good character) (position : Nat) :
    Expr.unescape position body =
      .error ⟨.invalidEscape character, position + good.length⟩ := by
  obtain ⟨⟨content, unescapes⟩, ⟨rest, rfl⟩, noEscape⟩ := unlisted
  rw [unescapes.append, Expr.unescape, escapedCharacter?_eq_none_iff.mpr noEscape]
  rfl

/-- The body of a quoted text either has a content or an escape that is the first one not listed. -/
theorem QuotedBody.unescapes_or_unlisted {quote : Char} {body : List Char}
    (isBody : QuotedBody quote body) :
    (∃ content, Unescapes body content) ∨ ∃ good character, Unlisted body good character := by
  induction isBody with
  | nil => exact .inl ⟨[], .nil⟩
  | @plain character rest noQuote noEscape _ ih =>
      rcases ih with
        ⟨content, unescapes⟩ | ⟨good, other, ⟨content, unescapes⟩, ⟨later, rfl⟩, noMeaning⟩
      · exact .inl ⟨character :: content, .plain noEscape unescapes⟩
      · exact .inr ⟨character :: good, other, ⟨_, .plain noEscape unescapes⟩, ⟨later, rfl⟩,
          noMeaning⟩
  | @escape rest character _ ih =>
      cases listed : escapedCharacter? character with
      | none =>
          exact .inr ⟨[], character, ⟨[], .nil⟩, ⟨rest, rfl⟩,
            escapedCharacter?_eq_none_iff.mp listed⟩
      | some meant =>
          have listed := escapedCharacter?_eq_some_iff.mp listed
          rcases ih with
            ⟨content, unescapes⟩ | ⟨good, other, ⟨content, unescapes⟩, ⟨later, rfl⟩, noMeaning⟩
          · exact .inl ⟨meant :: content, .escape listed unescapes⟩
          · exact .inr ⟨'\\' :: character :: good, other, ⟨_, .escape listed unescapes⟩,
              ⟨later, rfl⟩, noMeaning⟩

/-! ### Tokens -/

/-- The words that stand for operators. -/
def operatorWords : List (String × Operator) :=
  [("and", .and), ("or", .or), ("not", .not), ("eq", .equal), ("ne", .unequal), ("gt", .greater),
    ("ge", .greaterOrEqual), ("lt", .less), ("le", .lessOrEqual), ("div", .divide),
    ("mod", .modulo)]

theorem Operator.ofWord?_eq_some_iff {written : String} {sign : Operator} :
    Operator.ofWord? written = some sign ↔ (written, sign) ∈ operatorWords := by
  unfold Operator.ofWord? operatorWords
  split <;> simp_all [eq_comm]

theorem Keyword.ofWord?_eq_some_iff {written : String} {word : Keyword} :
    Keyword.ofWord? written = some word ↔ written = word.word := by
  constructor
  · intro found
    unfold Keyword.ofWord? at found
    split at found <;> cases found <;> rfl
  · rintro rfl
    cases word <;> rfl

/-- The token that a lexeme stands for.  Blanks stand for none; a reserved word or a word for an
operator is one only if it is a whole path. -/
inductive Denotes : LexemeClass → List Char → Option Token → Prop where
  | blank (written : List Char) : Denotes .blank written none
  | number (written : List Char) :
      Denotes .number written (some (.number (String.ofList written)))
  | quoted (quote : Char) {body content : List Char} (unescapes : Unescapes body content) :
      Denotes .quoted (quote :: (body ++ [quote])) (some (.text (String.ofList content)))
  | parameter (written : List Char) :
      Denotes .parameter written (some (.parameter (String.ofList written)))
  | keyword (word : Keyword) : Denotes .path word.word.toList (some (.keyword word))
  | operatorWord {word : String} {sign : Operator} (listed : (word, sign) ∈ operatorWords) :
      Denotes .path word.toList (some (.operator sign))
  | path {written : List Char} (noKeyword : ∀ word : Keyword, String.ofList written ≠ word.word)
      (noOperator : ∀ sign, (String.ofList written, sign) ∉ operatorWords) :
      Denotes .path written (some (.path (String.ofList written)))
  | operator (sign : Operator) (written : List Char) :
      Denotes (.operator sign) written (some (.operator sign))
  | openParenthesis (written : List Char) :
      Denotes .openParenthesis written (some .openParenthesis)
  | closeParenthesis (written : List Char) :
      Denotes .closeParenthesis written (some .closeParenthesis)

theorem Denotes.token? {kind : LexemeClass} {written : List Char} {token? : Option Token}
    (denotes : Denotes kind written token?) (position : Nat) :
    kind.token? position written = .ok token? := by
  cases denotes with
  | blank | number | parameter | operator | openParenthesis | closeParenthesis => rfl
  | quoted quote unescapes =>
      simp only [LexemeClass.token?, List.drop_succ_cons, List.drop_zero, List.dropLast_concat,
        unescapes.unescape]
      rfl
  | keyword word =>
      simp only [LexemeClass.token?, wordToken, String.ofList_toList,
        Keyword.ofWord?_eq_some_iff.mpr rfl]
  | @operatorWord word sign listed =>
      have noKeyword : Keyword.ofWord? word = none := by
        have apart : ∀ pair ∈ operatorWords, Keyword.ofWord? pair.1 = none := by decide
        exact apart _ listed
      simp only [LexemeClass.token?, wordToken, String.ofList_toList, noKeyword,
        Operator.ofWord?_eq_some_iff.mpr listed]
  | path noKeyword noOperator =>
      have neither : Keyword.ofWord? (String.ofList written) = none :=
        Option.eq_none_iff_forall_ne_some.mpr fun word found =>
          noKeyword word (Keyword.ofWord?_eq_some_iff.mp found)
      have neither' : Operator.ofWord? (String.ofList written) = none :=
        Option.eq_none_iff_forall_ne_some.mpr fun sign found =>
          noOperator sign (Operator.ofWord?_eq_some_iff.mp found)
      simp only [LexemeClass.token?, wordToken, neither, neither']

theorem Denotes.word (written : List Char) :
    Denotes .path written (some (wordToken (String.ofList written))) := by
  unfold wordToken
  cases keyword : Keyword.ofWord? (String.ofList written) with
  | some word =>
      have same := Keyword.ofWord?_eq_some_iff.mp keyword
      obtain rfl : written = word.word.toList := by rw [← same, String.toList_ofList]
      exact .keyword word
  | none =>
      cases operator : Operator.ofWord? (String.ofList written) with
      | some sign =>
          have listed := Denotes.operatorWord (Operator.ofWord?_eq_some_iff.mp operator)
          rwa [String.toList_ofList] at listed
      | none =>
          refine .path (fun word same => ?_) fun sign listed => ?_
          · rw [Keyword.ofWord?_eq_some_iff.mpr same] at keyword
            cases keyword
          · rw [Operator.ofWord?_eq_some_iff.mpr listed] at operator
            cases operator

/-- A lexeme stands for a token or for none, or it is a quoted text with an escape that is not
listed. -/
theorem LexemeClass.Matches.denotes_or_unlisted {kind : LexemeClass} {written : List Char}
    (fits : kind.Matches written) :
    (∃ token?, Denotes kind written token?) ∨
      kind = .quoted ∧ ∃ quote body good character, written = quote :: (body ++ [quote]) ∧
        Unlisted body good character := by
  cases kind with
  | blank => exact .inl ⟨_, .blank written⟩
  | number => exact .inl ⟨_, .number written⟩
  | parameter => exact .inl ⟨_, .parameter written⟩
  | path => exact .inl ⟨_, .word written⟩
  | operator sign => exact .inl ⟨_, .operator sign written⟩
  | openParenthesis => exact .inl ⟨_, .openParenthesis written⟩
  | closeParenthesis => exact .inl ⟨_, .closeParenthesis written⟩
  | quoted =>
      obtain ⟨quote, body, -, rfl, isBody⟩ := fits
      rcases isBody.unescapes_or_unlisted with ⟨content, unescapes⟩ | ⟨good, character, unlisted⟩
      · exact .inl ⟨_, .quoted quote unescapes⟩
      · exact .inr ⟨rfl, quote, body, good, character, rfl, unlisted⟩

/-! ### Cutting a text -/

/-- A lexeme of a text: its class and its characters. -/
structure Piece where
  kind : LexemeClass
  written : List Char

/-- A text with a rest behind it is cut into longest lexemes. -/
inductive Cut : List Char → List Piece → List Char → Prop where
  | nil (rest : List Char) : Cut [] [] rest
  | cons {kind : LexemeClass} {written text rest : List Char} {pieces : List Piece}
      (lexeme : IsLexeme kind written (text ++ rest)) (later : Cut text pieces rest) :
      Cut (written ++ text) (⟨kind, written⟩ :: pieces) rest

/-- The tokens of the lexemes from a position: one for each that is no blank, in order, and each at
the position of its lexeme. -/
inductive Tokens : Nat → List Piece → List Lexeme → Prop where
  | nil (position : Nat) : Tokens position [] []
  | blank {position : Nat} {kind : LexemeClass} {written : List Char} {pieces : List Piece}
      {lexemes : List Lexeme} (denotes : Denotes kind written none)
      (later : Tokens (position + written.length) pieces lexemes) :
      Tokens position (⟨kind, written⟩ :: pieces) lexemes
  | token {position : Nat} {kind : LexemeClass} {written : List Char} {token : Token}
      {pieces : List Piece} {lexemes : List Lexeme} (denotes : Denotes kind written (some token))
      (later : Tokens (position + written.length) pieces lexemes) :
      Tokens position (⟨kind, written⟩ :: pieces) (⟨token, position⟩ :: lexemes)

/-- The error at a position in front of a rest: no lexeme starts there, or a quoted text does, and
one of its escapes is the first that is not listed. -/
inductive Stops (position : Nat) : List Char → SyntaxError → Prop where
  | unreadable {first : Char} {rest : List Char}
      (noneFits : ∀ (kind : LexemeClass) (front : List Char), kind.Matches front →
        ¬ front <+: first :: rest) :
      Stops position (first :: rest) ⟨unreadable first, position⟩
  | escape {quote character : Char} {body good behind : List Char}
      (lexeme : IsLexeme .quoted (quote :: (body ++ [quote])) behind)
      (unlisted : Unlisted body good character) :
      Stops position (quote :: (body ++ [quote]) ++ behind)
        ⟨.invalidEscape character, position + 1 + good.length⟩

/-! ### One lexeme -/

/-- Where no lexeme starts, the lexer stops; otherwise it cuts the longest lexeme. -/
theorem scan_or_none (first : Char) (rest : List Char) :
    (∃ kind written behind, first :: rest = written ++ behind ∧ IsLexeme kind written behind) ∨
      ∀ (kind : LexemeClass) (front : List Char), kind.Matches front →
        ¬ front <+: first :: rest := by
  cases scanned : LexemeClass.scan first rest with
  | none => exact .inr (scan_eq_none_iff.mp scanned)
  | some found =>
      obtain ⟨written, behind, parts, -, lexeme⟩ := scan_eq_some_iff.mp scanned
      exact .inl ⟨found.1, written, behind, parts, lexeme⟩

variable {kind : LexemeClass} {written behind : List Char}

/-- What the lexer sees at a lexeme. -/
theorem IsLexeme.scanned (lexeme : IsLexeme kind written behind) :
    ∃ first body, written = first :: body ∧
      LexemeClass.scan first (body ++ behind) = some (kind, body.length + 1) := by
  obtain ⟨first, body, rfl⟩ := List.exists_cons_of_ne_nil lexeme.fits.ne_nil
  exact ⟨first, body, rfl, scan_eq_some_iff.mpr ⟨first :: body, behind, rfl, rfl, lexeme⟩⟩

/-- A lexeme that stands for a token, or for none, is cut off. -/
theorem IsLexeme.tokenizeFrom_of_denotes (lexeme : IsLexeme kind written behind)
    {token? : Option Token} (denotes : Denotes kind written token?) (position : Nat) :
    tokenizeFrom position (written ++ behind) =
      (tokenizeFrom (position + written.length) behind).map fun later =>
        (token?.map fun token => ⟨token, position⟩).toList ++ later := by
  obtain ⟨first, body, rfl, scanned⟩ := lexeme.scanned
  have taken : (first :: (body ++ behind)).take (body.length + 1) = first :: body := by simp
  have dropped : (body ++ behind).drop (body.length + 1 - 1) = behind := by simp
  have made := denotes.token? position
  rw [← taken] at made
  rw [List.cons_append, tokenizeFrom_cons scanned made, dropped, List.length_cons]

/-- In front of the rest where it stops, the lexer gives the error. -/
theorem Stops.tokenizeFrom {position : Nat} {rest : List Char} {error : SyntaxError}
    (stops : Stops position rest error) : Expr.tokenizeFrom position rest = .error error := by
  cases stops with
  | unreadable none => rw [Expr.tokenizeFrom, scan_eq_none_iff.mpr none]
  | @escape quote character body good behind lexeme unlisted =>
      obtain ⟨first, inner, parts, scanned⟩ := lexeme.scanned
      cases parts
      have taken : (quote :: (body ++ [quote] ++ behind)).take ((body ++ [quote]).length + 1) =
          quote :: (body ++ [quote]) := @List.take_left _ (quote :: (body ++ [quote])) behind
      have made : LexemeClass.quoted.token? position (quote :: (body ++ [quote])) =
          .error ⟨.invalidEscape character, position + 1 + good.length⟩ := by
        simp only [LexemeClass.token?, List.drop_succ_cons, List.drop_zero, List.dropLast_concat,
          unlisted.unescape]
        rfl
      rw [List.cons_append, Expr.tokenizeFrom, scanned]
      simp only [taken, made]
      rfl

/-! ### The whole text -/

/-- The lexer goes through what is cut, and goes on with the rest. -/
theorem Cut.tokenizeFrom {text rest : List Char} {pieces : List Piece} {position : Nat}
    {lexemes : List Lexeme} (cut : Cut text pieces rest)
    (tokens : Tokens position pieces lexemes) :
    Expr.tokenizeFrom position (text ++ rest) =
      (Expr.tokenizeFrom (position + text.length) rest).map (lexemes ++ ·) := by
  induction cut generalizing position lexemes with
  | nil rest =>
      cases tokens
      cases behind : Expr.tokenizeFrom position rest <;> simp [behind, Except.map]
  | @cons kind written text rest pieces lexeme _ ih =>
      cases tokens with
      | blank denotes later | token denotes later =>
          rw [List.append_assoc, lexeme.tokenizeFrom_of_denotes denotes, ih later,
            List.length_append, ← Nat.add_assoc]
          cases Expr.tokenizeFrom (position + written.length + text.length) rest <;> rfl

/-- Every text is cut until its end or until the lexer stops. -/
theorem exists_cut (position : Nat) (text : List Char) :
    ∃ front pieces lexemes rest, text = front ++ rest ∧ Cut front pieces rest ∧
      Tokens position pieces lexemes ∧
      (rest = [] ∨ ∃ error, Stops (position + front.length) rest error) := by
  match text with
  | [] => exact ⟨[], [], [], [], rfl, .nil [], .nil position, .inl rfl⟩
  | first :: tail =>
      rcases scan_or_none first tail with ⟨kind, written, behind, parts, lexeme⟩ | noneFits
      · rcases lexeme.fits.denotes_or_unlisted with
          ⟨token?, denotes⟩ | ⟨rfl, quote, body, good, character, rfl, unlisted⟩
        · have shorter : behind.length < (first :: tail).length := by
            have positive := List.length_pos_iff.mpr lexeme.fits.ne_nil
            rw [parts, List.length_append]
            omega
          obtain ⟨front, pieces, lexemes, rest, rfl, cut, tokens, ending⟩ :=
            exists_cut (position + written.length) behind
          have ending' : rest = [] ∨
              ∃ error, Stops (position + (written ++ front).length) rest error := by
            rwa [List.length_append, ← Nat.add_assoc]
          cases token? with
          | none =>
              exact ⟨written ++ front, _, lexemes, rest, by rw [parts, List.append_assoc],
                .cons lexeme cut, .blank denotes tokens, ending'⟩
          | some token =>
              exact ⟨written ++ front, _, _, rest, by rw [parts, List.append_assoc],
                .cons lexeme cut, .token denotes tokens, ending'⟩
        · rw [parts]
          exact ⟨[], [], [], _, rfl, .nil _, .nil position, .inr ⟨_, .escape lexeme unlisted⟩⟩
      · exact ⟨[], [], [], first :: tail, rfl, .nil _, .nil position,
          .inr ⟨_, .unreadable noneFits⟩⟩
termination_by text.length
decreasing_by exact shorter

/-- The tokens of a text stand at ascending positions inside it. -/
theorem Cut.positions {text rest : List Char} {pieces : List Piece} {position : Nat}
    {lexemes : List Lexeme} (cut : Cut text pieces rest)
    (tokens : Tokens position pieces lexemes) :
    lexemes.Pairwise (fun earlier later => earlier.position < later.position) ∧
      ∀ lexeme ∈ lexemes,
        position ≤ lexeme.position ∧ lexeme.position < position + text.length := by
  induction cut generalizing position lexemes with
  | nil =>
      cases tokens
      exact ⟨.nil, by rintro _ ⟨⟩⟩
  | @cons kind written text rest pieces lexeme _ ih =>
      have positive := List.length_pos_iff.mpr lexeme.fits.ne_nil
      rw [List.length_append]
      cases tokens with
      | blank denotes later =>
          obtain ⟨ordered, within⟩ := ih later
          refine ⟨ordered, fun lexeme member => ?_⟩
          have bounds := within lexeme member
          omega
      | token denotes later =>
          obtain ⟨ordered, within⟩ := ih later
          refine ⟨.cons (fun lexeme member => ?_) ordered, fun lexeme member => ?_⟩
          · have bounds := within lexeme member
            change position < lexeme.position
            omega
          · rcases List.mem_cons.mp member with rfl | member
            · change position ≤ position ∧ position < _
              omega
            · have bounds := within lexeme member
              omega

/-- A quoted lexeme stands for a token exactly if its body has a content. -/
theorem Denotes.content {quote : Char} {body : List Char} {token? : Option Token}
    (denotes : Denotes .quoted (quote :: (body ++ [quote])) token?) :
    ∃ content, Unescapes body content := by
  generalize whole : quote :: (body ++ [quote]) = written at denotes
  cases denotes with
  | @quoted quote' body' content unescapes =>
      obtain ⟨rfl, same⟩ := List.cons.inj whole
      obtain rfl := List.append_cancel_right same
      exact ⟨content, unescapes⟩

/-- All lexemes that are cut stand for tokens, or for none, exactly if all escapes are listed. -/
theorem Cut.exists_tokens_iff {text rest : List Char} {pieces : List Piece}
    (cut : Cut text pieces rest) (position : Nat) :
    (∃ lexemes, Tokens position pieces lexemes) ↔
      ∀ quote body, ⟨.quoted, quote :: (body ++ [quote])⟩ ∈ pieces →
        ∃ content, Unescapes body content := by
  induction cut generalizing position with
  | nil => exact ⟨fun _ _ _ => by rintro ⟨⟩, fun _ => ⟨[], .nil position⟩⟩
  | @cons kind written text rest pieces lexeme _ ih =>
      constructor
      · rintro ⟨lexemes, tokens⟩ quote body member
        cases tokens with
        | blank denotes later | token denotes later =>
            rcases List.mem_cons.mp member with here | there
            · cases here
              exact denotes.content
            · exact (ih _).mp ⟨_, later⟩ quote body there
      · intro listed
        obtain ⟨lexemes, later⟩ := (ih (position + written.length)).mpr fun quote body member =>
          listed quote body (List.mem_cons_of_mem _ member)
        rcases lexeme.fits.denotes_or_unlisted with
          ⟨token?, denotes⟩ | ⟨rfl, quote, body, good, character, rfl, unlisted⟩
        · cases token? with
          | none => exact ⟨lexemes, .blank denotes later⟩
          | some token => exact ⟨_, .token denotes later⟩
        · obtain ⟨content, unescapes⟩ := listed quote body (List.mem_cons_self ..)
          have given := unescapes.unescape position
          rw [unlisted.unescape] at given
          cases given

/-- A text has tokens exactly if it is cut to its end. -/
theorem tokenize_eq_ok_iff {text : String} {lexemes : List Lexeme} :
    tokenize text = .ok lexemes ↔
      ∃ pieces tokens, Cut text.toList pieces [] ∧ Tokens 0 pieces tokens ∧
        lexemes = tokens ++ [⟨.endOfText, text.toList.length⟩] := by
  constructor
  · intro given
    obtain ⟨front, pieces, tokens, rest, parts, cut, made, ending⟩ := exists_cut 0 text.toList
    have run := cut.tokenizeFrom made
    rw [← parts] at run
    rw [tokenize, run] at given
    rcases ending with rfl | ⟨error, stops⟩
    · rw [tokenizeFrom_nil] at given
      rw [List.append_nil] at parts
      cases given
      exact ⟨pieces, tokens, parts ▸ cut, made, by rw [Nat.zero_add, parts]⟩
    · rw [stops.tokenizeFrom] at given
      cases given
  · rintro ⟨pieces, tokens, cut, made, rfl⟩
    have run := cut.tokenizeFrom made
    rw [List.append_nil, tokenizeFrom_nil, Nat.zero_add] at run
    exact run

/-- A text has no tokens exactly if the lexer stops in front of a rest of it. -/
theorem tokenize_eq_error_iff {text : String} {error : SyntaxError} :
    tokenize text = .error error ↔
      ∃ front rest pieces tokens, text.toList = front ++ rest ∧ Cut front pieces rest ∧
        Tokens 0 pieces tokens ∧ Stops front.length rest error := by
  constructor
  · intro given
    obtain ⟨front, pieces, tokens, rest, parts, cut, made, ending⟩ := exists_cut 0 text.toList
    have run := cut.tokenizeFrom made
    rw [← parts] at run
    rw [tokenize, run] at given
    rcases ending with rfl | ⟨error', stops⟩
    · rw [tokenizeFrom_nil] at given
      cases given
    · rw [stops.tokenizeFrom] at given
      cases given
      rw [Nat.zero_add] at stops
      exact ⟨front, rest, pieces, tokens, parts, cut, made, stops⟩
  · rintro ⟨front, rest, pieces, tokens, parts, cut, made, stops⟩
    rw [← Nat.zero_add front.length] at stops
    rw [tokenize, parts, cut.tokenizeFrom made, stops.tokenizeFrom]
    rfl

/-- The lexer cuts a text into longest lexemes.  It succeeds exactly where they make up the whole
text and all escapes in quoted texts are listed; the tokens are then those of the lexemes that are no
blanks, in order, at strictly ascending positions, with the end of the text last.  Otherwise the
error stands at the first place where no lexeme starts, or at the first escape that is not listed,
whichever comes first. -/
theorem tokenize_exact (text : String) :
    ((∃ lexemes, tokenize text = .ok lexemes) ↔
      ∃ pieces, Cut text.toList pieces [] ∧
        ∀ quote body, ⟨.quoted, quote :: (body ++ [quote])⟩ ∈ pieces →
          ∃ content, Unescapes body content) ∧
    (∀ lexemes, tokenize text = .ok lexemes ↔
      ∃ pieces tokens, Cut text.toList pieces [] ∧ Tokens 0 pieces tokens ∧
        lexemes = tokens ++ [⟨.endOfText, text.toList.length⟩]) ∧
    (∀ lexemes, tokenize text = .ok lexemes →
      lexemes.Pairwise fun earlier later => earlier.position < later.position) ∧
    (∀ error, tokenize text = .error error ↔
      ∃ front rest pieces tokens, text.toList = front ++ rest ∧ Cut front pieces rest ∧
        Tokens 0 pieces tokens ∧ Stops front.length rest error) := by
  refine ⟨⟨?_, ?_⟩, fun _ => tokenize_eq_ok_iff, ?_, fun _ => tokenize_eq_error_iff⟩
  · rintro ⟨lexemes, given⟩
    obtain ⟨pieces, tokens, cut, made, -⟩ := tokenize_eq_ok_iff.mp given
    exact ⟨pieces, cut, (cut.exists_tokens_iff 0).mp ⟨tokens, made⟩⟩
  · rintro ⟨pieces, cut, listed⟩
    obtain ⟨tokens, made⟩ := (cut.exists_tokens_iff 0).mpr listed
    exact ⟨_, tokenize_eq_ok_iff.mpr ⟨pieces, tokens, cut, made, rfl⟩⟩
  · intro lexemes given
    obtain ⟨pieces, tokens, cut, made, rfl⟩ := tokenize_eq_ok_iff.mp given
    obtain ⟨ordered, within⟩ := cut.positions made
    refine List.pairwise_append.mpr ⟨ordered, List.pairwise_singleton _ _, ?_⟩
    intro lexeme member last isLast
    obtain rfl := List.mem_singleton.mp isLast
    have bounds := (within lexeme member).2
    rwa [Nat.zero_add] at bounds

end Stencil.Expr
