/-
Module: Stencil.Proofs.Expr.Separation
Purpose: Blanks and closing parentheses end the lexemes in front of them, so that a text is cut as
  it is cut alone when a parenthesis closes behind it, wherever it stands.
Main exports: Separates, LexemeClass.Matches.not_mem_tail, IsLexeme.before, Cut.before_close,
  Tokens.moved, Lexes.enclosed
-/
import Stencil.Proofs.Expr.LexerExactness
import Stencil.Proofs.Expr.PrintedTokens

namespace Stencil.Expr

open Text

/-! ### Separating characters -/

/-- Blanks and closing parentheses. -/
def Separates (mark : Char) : Prop :=
  isBlank mark = true ∨ mark = ')'

theorem Separates.ne {mark other : Char} (separates : Separates mark)
    (solid : isBlank other = false) (open' : other ≠ ')') : mark ≠ other := by
  rintro rfl
  rcases separates with blank | close
  · rw [solid] at blank
    cases blank
  · exact open' close

theorem Separates.noWord {mark : Char} (separates : Separates mark) :
    isWordCharacter mark = false ∧ isDecimalDigit mark = false := by
  rcases separates with blank | rfl
  · exact isBlank_other blank
  · decide

theorem Separates.noName {mark : Char} (separates : Separates mark) : isNamePart mark = false := by
  have noDollar : mark ≠ '$' := separates.ne (by decide) (by decide)
  rw [isNamePart, separates.noWord.1, Bool.or_false]
  exact beq_eq_false_iff_ne.mpr noDollar

theorem Separates.noNumber {mark : Char} (separates : Separates mark) :
    isNumberPart mark = false := by
  have others : ∀ other ∈ ['.', 'e', 'E', '+', '-'], mark ≠ other := by
    intro other member
    simp only [List.mem_cons, List.not_mem_nil, or_false] at member
    rcases member with rfl | rfl | rfl | rfl | rfl
    all_goals exact separates.ne (by decide) (by decide)
  rw [isNumberPart, separates.noWord.2, Bool.false_or, List.contains_eq_mem,
    decide_eq_false_iff_not]
  exact fun member => others mark member rfl

/-! ### Where they can stand in a lexeme -/

/-- The characters of a path. -/
theorem IsPath.parts {written : List Char} (path : IsPath written) :
    ∀ part ∈ written, isNamePart part = true ∨ part = '.' := by
  have segment : ∀ {text : List Char}, IsSegment text → ∀ part ∈ text, isNamePart part = true := by
    rintro _ ⟨first, rest, rfl, start, all⟩
    refine List.forall_mem_cons.mpr ⟨?_, all⟩
    rw [isNameStart, Bool.or_eq_true] at start
    rw [isNamePart, Bool.or_eq_true]
    exact start.imp id fun word => (Bool.and_eq_true_iff.mp word).1
  induction path with
  | last name => exact fun part member => .inl (segment name part member)
  | dot name _ ih =>
      refine List.forall_mem_append.mpr ⟨?_, ?_⟩
      · exact fun part member => .inl (segment name part member)
      · exact List.forall_mem_cons.mpr ⟨.inr rfl, ih⟩

/-- Behind the front of a lexeme a separating character stands only in quoted texts and among
blanks. -/
theorem LexemeClass.Matches.not_mem_tail {kind : LexemeClass} {first mark : Char} {body : List Char}
    (fits : kind.Matches (first :: body)) (separates : Separates mark) (member : mark ∈ body) :
    kind = .quoted ∨ kind = .blank ∧ isBlank mark = true := by
  have inside : mark ∈ first :: body := List.mem_cons_of_mem first member
  cases kind with
  | blank => exact .inr ⟨rfl, fits.2 mark inside⟩
  | quoted => exact .inl rfl
  | number =>
      have part := IsNumber.parts fits mark inside
      rw [separates.noNumber] at part
      cases part
  | parameter =>
      obtain ⟨digits, parts, digital⟩ := fits
      cases parts
      have digit := digital.2 mark member
      rw [separates.noWord.2] at digit
      cases digit
  | path =>
      rcases IsPath.parts fits mark inside with part | point
      · rw [separates.noName] at part
        cases part
      · exact absurd point (separates.ne (by decide) (by decide))
  | operator sign =>
      have parts : first :: body = sign.sign.toList := fits
      have plain : (sign.sign.toList.all fun part => !isBlank part && part != ')') = true := by
        cases sign <;> rfl
      have here := List.all_eq_true.mp plain mark (parts ▸ inside)
      rw [Bool.and_eq_true, Bool.not_eq_true', bne_iff_ne] at here
      exact absurd rfl (separates.ne here.1 here.2)
  | openParenthesis | closeParenthesis =>
      have parts : first :: body = [_] := fits
      cases parts
      cases member

/-! ### Lexemes in front of them -/

/-- A quote is the front of quoted texts only. -/
theorem scan_quote {quote : Char} (isQuote : quote = '\'' ∨ quote = '"') (rest : List Char) :
    LexemeClass.scan quote rest =
      (quotedRest? quote rest).map fun length => (.quoted, length + 1) := by
  rcases isQuote with rfl | rfl
  · rfl
  · rfl

section Before

variable {kind : LexemeClass} {written text : List Char}

/-- In front of what a quoted text is cut from, nothing else is cut. -/
theorem IsLexeme.length_of_quoted (lexeme : IsLexeme kind written text) {quote : Char}
    {body more behind : List Char} (isQuote : quote = '\'' ∨ quote = '"')
    (isBody : QuotedBody quote body)
    (starts : quote :: (body ++ [quote]) ++ more = written ++ text ++ behind) :
    (quote :: (body ++ [quote])).length = written.length := by
  obtain ⟨first, rest, rfl, scanned⟩ := lexeme.scanned
  obtain ⟨rfl, parts⟩ : quote = first ∧ body ++ [quote] ++ more = rest ++ text ++ behind :=
    List.cons.inj starts
  have noEscape : quote ≠ '\\' := by rcases isQuote with rfl | rfl <;> decide
  rw [scan_quote isQuote] at scanned
  obtain ⟨length, found, same⟩ := Option.map_eq_some_iff.mp scanned
  obtain ⟨-, rfl⟩ : LexemeClass.quoted = kind ∧ length = rest.length := by simpa using same
  -- The quote that closes the text alone also closes it with anything behind it.
  obtain ⟨inner, later, split, isInner, shorter⟩ := (quotedRest?_eq_some_iff noEscape).mp found
  have alone : quotedRest? quote (rest ++ text ++ behind) = some (inner.length + 1) :=
    (quotedRest?_eq_some_iff noEscape).mpr
      ⟨inner, later ++ behind, by rw [split]; simp, isInner, rfl⟩
  have together : quotedRest? quote (rest ++ text ++ behind) = some (body.length + 1) :=
    (quotedRest?_eq_some_iff noEscape).mpr ⟨body, more, by rw [← parts]; simp, isBody, rfl⟩
  have same := Option.some.inj (alone.symm.trans together)
  simp only [List.length_cons, List.length_append, List.length_nil]
  omega

/-- Nothing but a blank is cut where a blank is. -/
theorem IsLexeme.eq_blank (lexeme : IsLexeme kind written text)
    (blank : ∀ character ∈ written, isBlank character = true) : kind = .blank := by
  obtain ⟨first, rest, rfl, scanned⟩ := lexeme.scanned
  unfold LexemeClass.scan at scanned
  rw [if_pos (blank first List.mem_cons_self)] at scanned
  exact (Prod.mk.inj (Option.some.inj scanned)).1.symm

/-- A lexeme of a text stays one when a separating character comes behind the text, unless it is a
blank in front of another. -/
theorem IsLexeme.before (lexeme : IsLexeme kind written text) {mark : Char}
    (separates : Separates mark) (apart : kind = .blank → isBlank mark = false)
    (rest : List Char) : IsLexeme kind written (text ++ mark :: rest) := by
  refine ⟨lexeme.fits, fun other front fits starts => ?_⟩
  rw [← List.append_assoc] at starts
  have whole := List.prefix_append (written ++ text) (mark :: rest)
  rcases List.prefix_or_prefix_of_prefix starts whole with inside | ⟨tail, rfl⟩
  · exact lexeme.longest other front fits inside
  cases tail with
  | nil => exact lexeme.longest other _ fits (by simp)
  | cons next tail =>
      -- The mark stands in the longer lexeme, which can only be a quoted text or blanks.
      have here : next = mark := by
        have := List.prefix_append_right_inj (written ++ text) |>.mp starts
        exact (List.cons_prefix_cons.mp this).1
      subst here
      obtain ⟨first, body, rfl⟩ := List.exists_cons_of_ne_nil lexeme.fits.ne_nil
      have member : next ∈ body ++ text ++ next :: tail := by simp
      rcases LexemeClass.Matches.not_mem_tail fits separates member with rfl | ⟨rfl, blank⟩
      · obtain ⟨quote, inner, isQuote, parts, isBody⟩ := fits
        obtain ⟨more, whole⟩ := starts
        rw [parts] at whole ⊢
        exact (lexeme.length_of_quoted isQuote isBody whole).le
      · have allBlank : ∀ character ∈ first :: body, isBlank character = true := by
          intro character present
          apply fits.2
          simp only [List.mem_append]
          exact .inl (.inl present)
        have solid := apart (lexeme.eq_blank allBlank)
        rw [blank] at solid
        cases solid

end Before

/-! ### Whole texts -/

/-- A text is cut into the same lexemes when a parenthesis closes behind it. -/
theorem Cut.before_close {text : List Char} {pieces : List Piece} (cut : Cut text pieces [])
    (rest : List Char) : Cut text pieces (')' :: rest) := by
  generalize atEnd : ([] : List Char) = behind at cut
  induction cut with
  | nil _ => exact .nil _
  | cons lexeme _ ih =>
      subst atEnd
      rw [List.append_nil] at lexeme
      exact .cons (lexeme.before (.inr rfl) (fun _ => by decide) rest) (ih rfl)

/-- The lexemes of a text have the same tokens wherever they stand. -/
theorem Tokens.moved {position : Nat} {pieces : List Piece} {lexemes : List Lexeme}
    (tokens : Tokens position pieces lexemes) (position' : Nat) :
    ∃ lexemes', Tokens position' pieces lexemes' ∧ tokensOf lexemes' = tokensOf lexemes := by
  induction tokens generalizing position' with
  | nil => exact ⟨[], .nil position', rfl⟩
  | blank denotes _ ih =>
      obtain ⟨lexemes', later, same⟩ := ih (position' + _)
      exact ⟨lexemes', .blank denotes later, same⟩
  | token denotes _ ih =>
      obtain ⟨lexemes', later, same⟩ := ih (position' + _)
      exact ⟨_, .token denotes later, by rw [tokensOf_cons, tokensOf_cons, same]⟩

/-- A text that is cut into tokens is so in parentheses, whatever follows. -/
theorem Lexes.enclosed {text : String} {lexemes : List Lexeme}
    (given : Expr.tokenize text = .ok lexemes) :
    Lexes ('(' :: (text.toList ++ [')']))
      (.openParenthesis :: ((tokensOf lexemes).dropLast ++ [.closeParenthesis])) := by
  obtain ⟨pieces, tokens, cut, made, rfl⟩ := tokenize_eq_ok_iff.mp given
  refine ⟨⟨'(', text.toList ++ [')'], rfl, by decide⟩, fun position rest later _ behind => ?_⟩
  obtain ⟨moved, made', same⟩ := made.moved (position + 1)
  have place : position + ('(' :: (text.toList ++ [')'])).length =
      position + 1 + text.toList.length + 1 := by
    rw [List.length_cons, List.length_append, List.length_singleton]
    omega
  rw [place] at behind
  have closes : LexemeClass.scan ')' rest = some (.closeParenthesis, 1) := rfl
  have close : tokenizeFrom (position + 1 + text.toList.length) (')' :: rest) =
      .ok (⟨.closeParenthesis, position + 1 + text.toList.length⟩ :: later) :=
    tokenizeFrom_mark closes rfl behind
  have inner := (cut.before_close rest).tokenizeFrom made'
  rw [close] at inner
  have opens : LexemeClass.scan '(' (text.toList ++ ')' :: rest) = some (.openParenthesis, 1) := rfl
  refine ⟨⟨.openParenthesis, position⟩ ::
    (moved ++ [⟨.closeParenthesis, position + 1 + text.toList.length⟩]), ?_, ?_⟩
  · have whole : '(' :: (text.toList ++ [')']) ++ rest = '(' :: (text.toList ++ ')' :: rest) := by
      simp
    rw [whole, tokenizeFrom_mark opens rfl inner]
    simp
  · simp [same]

end Stencil.Expr
