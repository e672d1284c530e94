/-
Module: Stencil.Proofs.Expr.Relexing
Purpose: Texts that are cut into the same tokens wherever they stand, and how they are put together.
Main exports: Breaks, Lexes, Lexes.spaced, Lexes.group, Lexes.tokenize
-/
import Stencil.Proofs.Expr.Lexing
import Stencil.Proofs.Expr.Parsing
import Stencil.Proofs.Number.Notation

namespace Stencil.Expr

open Text

/-- What may follow an operand: nothing, a space, or a closing parenthesis. -/
def Breaks (rest : List Char) : Prop :=
  ∀ next ∈ rest.head?, next = ' ' ∨ next = ')'

theorem Breaks.nil : Breaks [] := by
  intro next member
  cases member

theorem Breaks.space (rest : List Char) : Breaks (' ' :: rest) := by
  intro next member
  cases member
  exact .inl rfl

theorem Breaks.close (rest : List Char) : Breaks (')' :: rest) := by
  intro next member
  cases member
  exact .inr rfl

/-- What breaks goes on with nothing that holds of neither a space nor a parenthesis. -/
theorem Breaks.stops {rest : List Char} (breaks : Breaks rest) {test : Char → Bool}
    (space : test ' ' = false) (close : test ')' = false) :
    ∀ next ∈ rest.head?, test next = false := by
  intro next member
  rcases breaks next member with rfl | rfl
  · exact space
  · exact close

/-- A text that does not start with a blank is cut into tokens, whatever follows it. -/
structure Lexes (text : List Char) (tokens : List Token) : Prop where
  solid : ∃ first rest, text = first :: rest ∧ isBlank first = false
  cut : ∀ (position : Nat) (rest : List Char) (later : List Lexeme), Breaks rest →
    tokenizeFrom (position + text.length) rest = .ok later →
      ∃ lexemes, tokenizeFrom position (text ++ rest) = .ok (lexemes ++ later) ∧
        tokensOf lexemes = tokens

/-! ### Single tokens -/

/-- A scanned lexeme that makes a token is followed by what the rest is cut into. -/
theorem tokenizeFrom_append {position : Nat} {first : Char} {body rest : List Char}
    {kind : LexemeClass} {token? : Option Token} {later : List Lexeme}
    (scanned : LexemeClass.scan first (body ++ rest) = some (kind, body.length + 1))
    (made : kind.token? position (first :: body) = .ok token?)
    (behind : tokenizeFrom (position + (body.length + 1)) rest = .ok later) :
    tokenizeFrom position (first :: (body ++ rest)) =
      .ok ((token?.map fun token => ⟨token, position⟩).toList ++ later) := by
  have taken : (first :: (body ++ rest)).take (body.length + 1) = first :: body := by simp
  have dropped : (body ++ rest).drop (body.length + 1 - 1) = rest := by simp
  rw [← taken] at made
  rw [tokenizeFrom_cons scanned made, dropped, behind]
  rfl

/-- The same for a lexeme of one character. -/
theorem tokenizeFrom_mark {position : Nat} {mark : Char} {rest : List Char} {kind : LexemeClass}
    {token? : Option Token} {later : List Lexeme}
    (scanned : LexemeClass.scan mark rest = some (kind, 1))
    (made : kind.token? position [mark] = .ok token?)
    (behind : tokenizeFrom (position + 1) rest = .ok later) :
    tokenizeFrom position (mark :: rest) =
      .ok ((token?.map fun token => ⟨token, position⟩).toList ++ later) :=
  @tokenizeFrom_append position mark [] rest kind token? later scanned made behind

theorem Lexes.one (kind : LexemeClass) {first : Char} {body : List Char} {token : Token}
    (solid : isBlank first = false)
    (scanned : ∀ rest, Breaks rest →
      LexemeClass.scan first (body ++ rest) = some (kind, body.length + 1))
    (made : ∀ position, kind.token? position (first :: body) = .ok (some token)) :
    Lexes (first :: body) [token] := by
  refine ⟨⟨first, body, rfl, solid⟩, fun position rest later breaks behind => ?_⟩
  exact ⟨[⟨token, position⟩], tokenizeFrom_append (scanned rest breaks) (made position) behind, rfl⟩

/-! ### Putting texts together -/

/-- A single space in front of a text is dropped. -/
theorem tokenizeFrom_space {position : Nat} {text : List Char} {lexemes : List Lexeme}
    (solid : ∃ first rest, text = first :: rest ∧ isBlank first = false)
    (cut : tokenizeFrom (position + 1) text = .ok lexemes) :
    tokenizeFrom position (' ' :: text) = .ok lexemes := by
  obtain ⟨first, rest, rfl, stops⟩ := solid
  have space : isBlank ' ' = true := by decide
  have scanned : LexemeClass.scan ' ' (first :: rest) = some (.blank, 1) := by
    unfold LexemeClass.scan runLength
    rw [if_pos space, List.takeWhile_cons_of_pos space,
      List.takeWhile_cons_of_neg (by simp [stops])]
    rfl
  exact tokenizeFrom_mark scanned rfl cut

/-- Two texts with a space between them. -/
theorem Lexes.spaced {text text' : List Char} {tokens tokens' : List Token}
    (left : Lexes text tokens) (right : Lexes text' tokens') :
    Lexes (text ++ ' ' :: text') (tokens ++ tokens') := by
  obtain ⟨first, body, same, solid⟩ := left.solid
  refine ⟨⟨first, body ++ ' ' :: text', by rw [same, List.cons_append], solid⟩, ?_⟩
  intro position rest later breaks behind
  have place : position + (text ++ ' ' :: text').length =
      position + text.length + 1 + text'.length := by
    rw [List.length_append, List.length_cons]
    omega
  rw [place] at behind
  obtain ⟨lexemes', cut', tokens'⟩ := right.cut _ rest later breaks behind
  have solid' : ∃ first rest', text' ++ rest = first :: rest' ∧ isBlank first = false := by
    obtain ⟨first', body', same', stops⟩ := right.solid
    exact ⟨first', body' ++ rest, by rw [same', List.cons_append], stops⟩
  obtain ⟨lexemes, cut, tokens⟩ := left.cut position (' ' :: (text' ++ rest)) _ (Breaks.space _)
    (tokenizeFrom_space solid' cut')
  refine ⟨lexemes ++ lexemes', ?_, ?_⟩
  · rw [List.append_assoc, List.cons_append, cut, List.append_assoc]
  · rw [tokensOf_append, tokens, tokens']

/-- A mark in front of a text that goes on with no part of it. -/
theorem Lexes.marked {kind : LexemeClass} {token : Token} {mark : Char} {text : List Char}
    {tokens : List Token} (solid : isBlank mark = false) (inner : Lexes text tokens)
    (scanned : ∀ rest, LexemeClass.scan mark (text ++ rest) = some (kind, 1))
    (made : ∀ position, kind.token? position [mark] = .ok (some token)) :
    Lexes (mark :: text) (token :: tokens) := by
  refine ⟨⟨mark, text, rfl, solid⟩, fun position rest later breaks behind => ?_⟩
  have place : position + (mark :: text).length = position + 1 + text.length := by
    rw [List.length_cons]
    omega
  rw [place] at behind
  obtain ⟨lexemes, cut, same⟩ := inner.cut _ rest later breaks behind
  refine ⟨⟨token, position⟩ :: lexemes, ?_, by rw [tokensOf_cons, same]⟩
  exact tokenizeFrom_mark (scanned rest) (made position) cut

/-- A text in parentheses. -/
theorem Lexes.group {text : List Char} {tokens : List Token} (inner : Lexes text tokens) :
    Lexes ('(' :: (text ++ [')'])) (.openParenthesis :: (tokens ++ [.closeParenthesis])) := by
  have opens : ∀ rest, LexemeClass.scan '(' rest = some (.openParenthesis, 1) := fun _ => rfl
  have closes : ∀ rest, LexemeClass.scan ')' rest = some (.closeParenthesis, 1) := fun _ => rfl
  refine ⟨⟨'(', text ++ [')'], rfl, by decide⟩, fun position rest later breaks behind => ?_⟩
  have place : position + ('(' :: (text ++ [')'])).length = position + 1 + text.length + 1 := by
    rw [List.length_cons, List.length_append, List.length_singleton]
    omega
  rw [place] at behind
  have close : tokenizeFrom (position + 1 + text.length) (')' :: rest) =
      .ok (⟨.closeParenthesis, position + 1 + text.length⟩ :: later) :=
    tokenizeFrom_mark (closes rest) rfl behind
  obtain ⟨lexemes, cut, same⟩ := inner.cut _ (')' :: rest) _ (Breaks.close rest) close
  refine ⟨⟨.openParenthesis, position⟩ :: (lexemes ++ [⟨.closeParenthesis, position + 1 + text.length⟩]),
    ?_, by simp [same]⟩
  have whole : '(' :: (text ++ [')']) ++ rest = '(' :: (text ++ ')' :: rest) := by simp
  rw [whole, tokenizeFrom_mark (opens _) rfl cut]
  simp

/-- A whole text. -/
theorem Lexes.tokenize {text : String} {tokens : List Token} (lexes : Lexes text.toList tokens) :
    ∃ lexemes, Expr.tokenize text = .ok lexemes ∧ (tokensOf lexemes).dropLast = tokens := by
  have atEnd : tokenizeFrom (0 + text.toList.length) [] =
      .ok [⟨.endOfText, 0 + text.toList.length⟩] := tokenizeFrom_nil _
  obtain ⟨lexemes, cut, same⟩ := lexes.cut 0 [] _ Breaks.nil atEnd
  rw [List.append_nil] at cut
  refine ⟨_, cut, ?_⟩
  rw [tokensOf_append, tokensOf_cons, tokensOf_nil, List.dropLast_concat, same]

end Stencil.Expr
