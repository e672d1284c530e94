/-
Module: Stencil.Proofs.Expr.Respelling
Purpose: The tokens of any text can be spelt again one by one, with single spaces between them, and in
  any order.
Main exports: Spelt, tokenize_spelt, exists_text
-/
import Stencil.Proofs.Expr.LexerExactness
import Stencil.Proofs.Expr.RoundTrip

namespace Stencil.Expr

/-- Some text is cut into the token alone, whatever stands in front of it and behind it. -/
def Spelt (token : Token) : Prop :=
  ∃ spelling, Lexes spelling [token]

theorem Spelt.closeParenthesis : Spelt .closeParenthesis :=
  ⟨[')'], Lexes.one .closeParenthesis (by decide) (fun _ _ => rfl) fun _ => rfl⟩

theorem Spelt.openParenthesis : Spelt .openParenthesis :=
  ⟨['('], Lexes.one .openParenthesis (by decide) (fun _ _ => rfl) fun _ => rfl⟩

/-- A path that is no word of the language is read as itself. -/
theorem IsPath.lexes {written : List Char} (path : IsPath written)
    (noKeyword : ∀ word : Keyword, String.ofList written ≠ word.word)
    (noOperator : ∀ sign, (String.ofList written, sign) ∉ operatorWords) :
    Lexes written [.path (String.ofList written)] := by
  have made := (Denotes.path noKeyword noOperator).token? 0
  have same : wordToken (String.ofList written) = .path (String.ofList written) := by
    simpa [LexemeClass.token?] using made
  obtain ⟨first, body, rfl, start, reach⟩ := path.length_le
  have whole : pathRest body = body.length := by
    have long := reach []
    rw [List.append_nil] at long
    exact Nat.le_antisymm (pathRest_le_length body) long
  have lexes := Lexes.word start whole
  rwa [same] at lexes

/-- A path is spelt as it is written. -/
theorem Spelt.path {written : List Char} (path : IsPath written)
    (noKeyword : ∀ word : Keyword, String.ofList written ≠ word.word)
    (noOperator : ∀ sign, (String.ofList written, sign) ∉ operatorWords) :
    Spelt (.path (String.ofList written)) :=
  ⟨written, path.lexes noKeyword noOperator⟩

/-- What a lexeme stands for can be spelt, though not always in the way of the lexeme: quoted texts
are spelt with single quotes, and operators with their signs. -/
theorem Denotes.spelt {kind : LexemeClass} {written : List Char} {token : Token}
    (denotes : Denotes kind written (some token)) (fits : kind.Matches written) : Spelt token := by
  cases denotes with
  | number => exact ⟨_, Lexes.number fits⟩
  | quoted quote unescapes => exact ⟨_, Lexes.quoted _⟩
  | parameter =>
      obtain ⟨digits, rfl, digital⟩ := fits
      exact ⟨_, Lexes.mark digital⟩
  | keyword word => exact ⟨_, Lexes.keyword word⟩
  | operatorWord | operator => exact ⟨_, Lexes.sign _⟩
  | path noKeyword noOperator => exact Spelt.path fits noKeyword noOperator
  | openParenthesis => exact Spelt.openParenthesis
  | closeParenthesis => exact Spelt.closeParenthesis

theorem Cut.spelt {text rest : List Char} {pieces : List Piece} {position : Nat}
    {lexemes : List Lexeme} (cut : Cut text pieces rest)
    (tokens : Tokens position pieces lexemes) : ∀ token ∈ tokensOf lexemes, Spelt token := by
  induction cut generalizing position lexemes with
  | nil =>
      cases tokens
      exact List.forall_mem_nil _
  | cons lexeme _ ih =>
      cases tokens with
      | blank denotes later => exact ih later
      | token denotes later =>
          rw [tokensOf_cons]
          exact List.forall_mem_cons.mpr ⟨denotes.spelt lexeme.fits, ih later⟩

/-- The tokens of a text in front of its end can be spelt. -/
theorem tokenize_spelt {text : String} {lexemes : List Lexeme} (cut : tokenize text = .ok lexemes) :
    ∀ token ∈ (tokensOf lexemes).dropLast, Spelt token := by
  obtain ⟨pieces, front, parts, tokens, rfl⟩ := tokenize_eq_ok_iff.mp cut
  rw [tokensOf_append, tokensOf_cons, tokensOf_nil, List.dropLast_concat]
  exact parts.spelt tokens

theorem Lexes.exists_spaced {tokens : List Token} (nonempty : tokens ≠ [])
    (spelt : ∀ token ∈ tokens, Spelt token) : ∃ spelling, Lexes spelling tokens := by
  induction tokens with
  | nil => exact absurd rfl nonempty
  | cons token tokens ih =>
      obtain ⟨⟨spelling, first⟩, later⟩ := List.forall_mem_cons.mp spelt
      by_cases last : tokens = []
      · exact ⟨spelling, last ▸ first⟩
      · obtain ⟨spelling', rest⟩ := ih last later
        exact ⟨_, first.spaced rest⟩

/-- Tokens that can be spelt are the tokens of some text. -/
theorem exists_text {tokens : List Token} (nonempty : tokens ≠ [])
    (spelt : ∀ token ∈ tokens, Spelt token) :
    ∃ text lexemes, tokenize text = .ok lexemes ∧ tokensOf lexemes = tokens ++ [.endOfText] := by
  obtain ⟨spelling, lexes⟩ := Lexes.exists_spaced nonempty spelt
  have written : Lexes (String.ofList spelling).toList tokens := by rwa [String.toList_ofList]
  obtain ⟨lexemes, cut, rfl⟩ := written.tokenize
  obtain ⟨front, last, rfl, -⟩ := tokenize_lexical cut
  exact ⟨_, _, cut, by simp⟩

end Stencil.Expr
