/-
Module: Stencil.Proofs.Expr.ErrorPosition
Purpose: A text that has tokens but is no expression is refused at its first impossible token: the
  tokens in front of it start an expression, and with it they start none.
Main exports: Accepted, FirstImpossible, accepted_iff, refused_at_firstImpossible
-/
import Stencil.Proofs.Expr.Prediction
import Stencil.Proofs.Expr.Respelling

namespace Stencil.Expr

/-! ### Accepted sequences of tokens -/

/-- The tokens are those of an expression, in front of the end of its text. -/
def Accepted (tokens : List Token) : Prop :=
  ∃ text lexemes expression, tokenize text = .ok lexemes ∧
    tokensOf lexemes = tokens ++ [.endOfText] ∧ Expression.parse text = .ok expression

/-- Tokens are accepted if they are a phrase with all integers in range, and each of them can be
spelt. -/
theorem accepted_iff {tokens : List Token} :
    Accepted tokens ↔
      ∃ phrase : DisjunctionPhrase, phrase.InRange ∧ phrase.tokens = tokens ∧
        ∀ token ∈ tokens, Spelt token := by
  constructor
  · rintro ⟨text, lexemes, expression, cut, whole, read⟩
    have spelt := tokenize_spelt cut
    obtain ⟨phrase, same, fits, -⟩ := (parse_eq_ok_iff cut expression).mp read
    rw [whole, List.dropLast_concat] at same spelt
    exact ⟨phrase, fits, same, spelt⟩
  · rintro ⟨phrase, fits, rfl, spelt⟩
    obtain ⟨text, lexemes, cut, whole⟩ := exists_text phrase.tokens_ne_nil spelt
    have same : phrase.tokens = (tokensOf lexemes).dropLast := by
      rw [whole, List.dropLast_concat]
    exact ⟨text, lexemes, _, cut, whole, (parse_eq_ok_iff cut _).mpr ⟨phrase, same, fits, rfl⟩⟩

theorem Padding.spelt {more : List Token} (padding : Padding more) :
    ∀ token ∈ more, Spelt token := by
  intro token member
  rcases padding token member with rfl | rfl
  · exact ⟨_, Lexes.keyword .null⟩
  · exact Spelt.closeParenthesis

/-- Tokens that can be spelt and are completed by values and parentheses start an accepted
sequence. -/
theorem PhraseClass.Completes.accepted {seen : List Token}
    (completes : DisjunctionPhrase.phrases.Completes seen) (spelt : ∀ token ∈ seen, Spelt token) :
    ∃ accepted, Accepted accepted ∧ seen <+: accepted := by
  obtain ⟨phrase, more, fits, tokens, padding⟩ := completes
  refine ⟨seen ++ more, accepted_iff.mpr ⟨phrase, fits, tokens, ?_⟩, List.prefix_append _ _⟩
  exact List.forall_mem_append.mpr ⟨spelt, padding.spelt⟩

/-! ### The first impossible token -/

/-- The tokens of a text, its end counted in, start an accepted sequence until a place, and with the
token at this place they start none, even if its end is counted in. -/
structure FirstImpossible (tokens : List Token) (index : Nat) : Prop where
  inside : index < tokens.length
  possible : ∃ accepted, Accepted accepted ∧ tokens.take index <+: accepted
  impossible : ∀ accepted, Accepted accepted →
    ¬ tokens.take (index + 1) <+: accepted ++ [.endOfText]

theorem FirstImpossible.le {tokens : List Token} {one two : Nat}
    (first : FirstImpossible tokens one) (second : FirstImpossible tokens two) : two ≤ one := by
  refine Nat.le_of_not_lt fun later => ?_
  obtain ⟨accepted, good, starts⟩ := second.possible
  have shorter : tokens.take (one + 1) <+: tokens.take two := List.take_prefix_take_left later
  exact first.impossible accepted good
    ((shorter.trans starts).trans (List.prefix_append _ _))

/-- There is only one first impossible token. -/
theorem FirstImpossible.unique {tokens : List Token} {one two : Nat}
    (first : FirstImpossible tokens one) (second : FirstImpossible tokens two) : one = two :=
  Nat.le_antisymm (second.le first) (first.le second)

theorem firstImpossible_of_parts {front rest : List Lexeme} {lexeme : Lexeme}
    (spelt : ∀ token ∈ tokensOf front, Spelt token)
    (viable : DisjunctionPhrase.phrases.Completes (tokensOf front))
    (impossible : ∀ phrase : DisjunctionPhrase, phrase.InRange →
      ¬ tokensOf front ++ [lexeme.token] <+: phrase.tokens ++ [.endOfText]) :
    FirstImpossible (tokensOf (front ++ lexeme :: rest)) front.length := by
  have length : (tokensOf front).length = front.length := List.length_map _
  have before : (tokensOf (front ++ lexeme :: rest)).take front.length = tokensOf front := by
    rw [tokensOf_append, ← length, List.take_left]
  have through : (tokensOf (front ++ lexeme :: rest)).take (front.length + 1) =
      tokensOf front ++ [lexeme.token] := by
    rw [tokensOf_append, ← length, List.take_length_add_append]
    rfl
  constructor
  · simp [tokensOf]
  · rw [before]
    exact viable.accepted spelt
  · rw [through]
    intro accepted good starts
    obtain ⟨phrase, fits, rfl, -⟩ := accepted_iff.mp good
    exact impossible phrase fits starts

/-- A text with more than its end that is cut into lexemes, but is no expression, is refused at the
position of the only lexeme that is the first impossible one. -/
theorem refused_at_firstImpossible {text : String} {lexemes : List Lexeme} {error : SyntaxError}
    (cut : tokenize text = .ok lexemes) (more : 1 < lexemes.length)
    (refused : Expression.parse text = .error error) :
    ∃ index lexeme, lexemes[index]? = some lexeme ∧ lexeme.position = error.position ∧
      ∀ other, FirstImpossible (tokensOf lexemes) other ↔ other = index := by
  have spelt := tokenize_spelt cut
  rw [parse_of_tokenize cut] at refused
  obtain ⟨body, last, rfl, lexical⟩ := tokenize_lexical cut
  have inner := endOfText_not_mem lexical
  have solid : frontToken (tokensOf (body ++ [⟨.endOfText, last⟩])) ≠ .endOfText := by
    cases body with
    | nil => exact absurd more (Nat.lt_irrefl 1)
    | cons first body =>
        rw [tokensOf_cons, List.mem_cons, not_or] at inner
        exact Ne.symm inner.1
  cases root : parseLexemes (body ++ [⟨.endOfText, last⟩]) with
  | ok found =>
      rw [root] at refused
      cases refused
  | error fault =>
      rw [root] at refused
      cases refused
      obtain ⟨front, lexeme, rest, parts, position, viable, impossible⟩ :=
        parseLexemes_refused (Ended.of_append last inner) solid root
      rw [parts] at spelt ⊢
      rw [tokensOf_append, tokensOf_cons, List.dropLast_append_cons] at spelt
      have first := @firstImpossible_of_parts front rest lexeme (List.forall_mem_append.mp spelt).1
        viable impossible
      refine ⟨front.length, lexeme, by simp, position, fun other => ⟨fun given => ?_, ?_⟩⟩
      · exact given.unique first
      · rintro rfl
        exact first

/-- Comparisons for equality cannot be chained, so the second sign is the first impossible token. -/
theorem refused_at_firstImpossible_chained :
    tokenize "a==1==b" =
        .ok [⟨.path "a", 0⟩, ⟨.operator .equal, 1⟩, ⟨.number "1", 3⟩, ⟨.operator .equal, 4⟩,
          ⟨.path "b", 6⟩, ⟨.endOfText, 7⟩] ∧
      Expression.parse "a==1==b" = .error ⟨.unexpectedToken "==", 4⟩ ∧
      ∀ other, FirstImpossible [.path "a", .operator .equal, .number "1", .operator .equal,
        .path "b", .endOfText] other ↔ other = 3 := by
  have cut : tokenize "a==1==b" =
      .ok [⟨.path "a", 0⟩, ⟨.operator .equal, 1⟩, ⟨.number "1", 3⟩, ⟨.operator .equal, 4⟩,
        ⟨.path "b", 6⟩, ⟨.endOfText, 7⟩] := by
    cbv
  have refused : Expression.parse "a==1==b" = .error ⟨.unexpectedToken "==", 4⟩ := by
    rw [parse_of_tokenize cut]
    rfl
  obtain ⟨index, lexeme, here, position, first⟩ :=
    refused_at_firstImpossible cut (by decide) refused
  have place : index = 3 := by
    have inside := (List.getElem?_eq_some_iff.mp here).1
    simp only [List.length_cons, List.length_nil] at inside
    interval_cases index <;> cases here <;> first | rfl | cases position
  subst place
  exact ⟨cut, refused, first⟩

end Stencil.Expr
