/-
Module: Stencil.Proofs.Expr.Lexing
Purpose: What the lexer does in one step, and what the tokens look like that it cuts from a text.
Main exports: tokenizeFrom_cons_eq_ok, Token.Lexical, tokenize_lexical
-/
import Stencil.Expr.Lexer

namespace Stencil.Expr

open Text

/-! ### One step of the lexer -/

theorem tokenizeFrom_nil (position : Nat) :
    tokenizeFrom position [] = .ok [⟨.endOfText, position⟩] := by
  rw [tokenizeFrom]

/-- A text is cut into the lexeme at its front, if that is no blank, and the lexemes behind it. -/
theorem tokenizeFrom_cons {position length : Nat} {first : Char} {rest : List Char}
    {kind : LexemeClass} {token? : Option Token}
    (scanned : LexemeClass.scan first rest = some (kind, length))
    (made : kind.token? position ((first :: rest).take length) = .ok token?) :
    tokenizeFrom position (first :: rest) =
      (tokenizeFrom (position + length) (rest.drop (length - 1))).map fun later =>
        (token?.map fun token => ⟨token, position⟩).toList ++ later := by
  rw [tokenizeFrom, scanned]
  simp only [made]
  cases tokenizeFrom (position + length) (rest.drop (length - 1)) with
  | error fault => rfl
  | ok later => cases token? <;> rfl

/-- What has been cut into lexemes has a lexeme at its front. -/
theorem tokenizeFrom_cons_eq_ok {position : Nat} {first : Char} {rest : List Char}
    {lexemes : List Lexeme} (cut : tokenizeFrom position (first :: rest) = .ok lexemes) :
    ∃ kind length token? later, LexemeClass.scan first rest = some (kind, length) ∧
      kind.token? position ((first :: rest).take length) = .ok token? ∧
      tokenizeFrom (position + length) (rest.drop (length - 1)) = .ok later ∧
      lexemes = (token?.map fun token => ⟨token, position⟩).toList ++ later := by
  cases scanned : LexemeClass.scan first rest with
  | none =>
      rw [tokenizeFrom, scanned] at cut
      cases cut
  | some found =>
      obtain ⟨kind, length⟩ := found
      cases made : kind.token? position ((first :: rest).take length) with
      | error fault =>
          rw [tokenizeFrom, scanned] at cut
          simp only [made] at cut
          cases cut
      | ok token? =>
          rw [tokenizeFrom_cons scanned made] at cut
          cases behind : tokenizeFrom (position + length) (rest.drop (length - 1)) with
          | error fault =>
              rw [behind] at cut
              cases cut
          | ok later =>
              rw [behind] at cut
              cases cut
              exact ⟨kind, length, token?, later, rfl, made, behind, rfl⟩

/-! ### The form of tokens -/

/-- What the tokens in front of the end look like. -/
def Token.Lexical : Token → Prop
  | .number written =>
      ∃ first rest, written.toList = first :: rest ∧ isBlank first = false ∧
        (isDecimalDigit first ∨ first = '.')
  | .path written =>
      ∃ first rest, written.toList = first :: rest ∧ isBlank first = false ∧ isNameStart first ∧
        pathRest rest = rest.length ∧ wordToken written = .path written
  | .endOfText => False
  | _ => True

/-- A number starts with a digit or a point. -/
theorem numberLength_ne_zero {first : Char} {rest : List Char}
    (number : numberLength (first :: rest) ≠ 0) : isDecimalDigit first ∨ first = '.' := by
  by_cases digit : isDecimalDigit first
  · exact .inl digit
  · refine .inr (Classical.byContradiction fun other => number ?_)
    simp [numberLength, runLength, digit, other]

theorem numberLength_eq_zero {first : Char} (noDigit : isDecimalDigit first = false)
    (noPoint : first ≠ '.') (rest : List Char) : numberLength (first :: rest) = 0 := by
  refine Classical.byContradiction fun number => ?_
  rcases numberLength_ne_zero number with digit | point
  · rw [noDigit] at digit
    cases digit
  · exact noPoint point

theorem isDecimalDigit_of_isNameStart {first : Char} (start : isNameStart first) :
    isDecimalDigit first = false := by
  unfold isNameStart at start
  rw [Bool.or_eq_true] at start
  rcases start with dollar | word
  · rw [beq_iff_eq] at dollar
    subst dollar
    decide
  · rw [Bool.and_eq_true, Bool.not_eq_true'] at word
    exact word.2

theorem pathRest_le_length (text : List Char) : pathRest text ≤ text.length := by
  fun_induction pathRest text <;> simp_all <;> omega

theorem pathRest_of_part {character : Char} (part : isNamePart character) (rest : List Char) :
    pathRest (character :: rest) = 1 + pathRest rest := by
  have noPoint : character ≠ '.' := by
    rintro rfl
    revert part
    decide
  rw [pathRest]
  · simp [part]
  · rintro _ _ rfl
    exact absurd rfl noPoint

/-- What a path takes up is a path as a whole. -/
theorem pathRest_take (text : List Char) : pathRest (text.take (pathRest text)) = pathRest text := by
  fun_induction pathRest text with
  | case1 character rest start ih => simp [pathRest, start, Nat.add_comm 2, ih]
  | case3 character rest other part ih =>
      rw [Nat.add_comm 1, List.take_succ_cons, pathRest_of_part part, ih, Nat.add_comm]
  | case2 | case4 | case5 => rfl

theorem scan_number {first : Char} {rest : List Char} {length : Nat}
    (scanned : LexemeClass.scan first rest = some (.number, length)) :
    isBlank first = false ∧ numberLength (first :: rest) = length ∧ length ≠ 0 := by
  simp only [LexemeClass.scan] at scanned
  repeat' split at scanned
  all_goals simp_all

theorem scan_path {first : Char} {rest : List Char} {length : Nat}
    (scanned : LexemeClass.scan first rest = some (.path, length)) :
    isBlank first = false ∧ isNameStart first ∧ length = pathRest rest + 1 := by
  simp only [LexemeClass.scan] at scanned
  repeat' split at scanned
  all_goals simp_all

/-- The token that a class of lexemes makes of what has been scanned. -/
theorem token?_lexical {position length : Nat} {first : Char} {rest : List Char}
    {kind : LexemeClass} {token : Token}
    (scanned : LexemeClass.scan first rest = some (kind, length))
    (made : kind.token? position ((first :: rest).take length) = .ok (some token)) :
    token.Lexical := by
  cases kind with
  | blank => cases made
  | number =>
      cases made
      obtain ⟨solid, same, positive⟩ := scan_number scanned
      obtain ⟨shorter, rfl⟩ := Nat.exists_eq_succ_of_ne_zero positive
      refine ⟨first, rest.take shorter, by simp, solid, ?_⟩
      exact @numberLength_ne_zero first rest (by omega)
  | quoted =>
      simp only [LexemeClass.token?] at made
      cases body : unescape (position + 1) (((first :: rest).take length).drop 1).dropLast with
      | error fault =>
          rw [body] at made
          cases made
      | ok content =>
          rw [body] at made
          cases made
          trivial
  | path =>
      obtain ⟨solid, start, rfl⟩ := scan_path scanned
      simp only [LexemeClass.token?, Except.ok.injEq, Option.some.injEq] at made
      subst made
      unfold wordToken
      split
      · trivial
      · rename_i noKeyword
        split
        · trivial
        · rename_i noOperator
          refine ⟨first, rest.take (pathRest rest), by simp, solid, start, ?_, ?_⟩
          · rw [pathRest_take, List.length_take, Nat.min_eq_left (pathRest_le_length rest)]
          · simp only [wordToken, noKeyword, noOperator]
  | parameter | operator sign | openParenthesis | closeParenthesis =>
      cases made
      trivial

/-- The lexemes of a text end with its end, and those in front of it have the form of tokens. -/
theorem tokenizeFrom_lexical (position : Nat) (text : List Char) {lexemes : List Lexeme}
    (cut : tokenizeFrom position text = .ok lexemes) :
    ∃ front last, lexemes = front ++ [⟨.endOfText, last⟩] ∧
      ∀ lexeme ∈ front, lexeme.token.Lexical := by
  match text with
  | [] =>
      rw [tokenizeFrom_nil] at cut
      cases cut
      exact ⟨[], position, rfl, by simp⟩
  | first :: rest =>
      obtain ⟨kind, length, token?, later, scanned, made, behind, rfl⟩ :=
        tokenizeFrom_cons_eq_ok cut
      obtain ⟨front, last, rfl, lexical⟩ := tokenizeFrom_lexical _ _ behind
      refine ⟨(token?.map fun token => ⟨token, position⟩).toList ++ front, last, by simp, ?_⟩
      intro lexeme member
      rcases List.mem_append.mp member with here | there
      · cases token? with
        | none => cases here
        | some token =>
            obtain rfl := List.mem_singleton.mp here
            exact token?_lexical scanned made
      · exact lexical lexeme there
termination_by text.length

theorem tokenize_lexical {text : String} {lexemes : List Lexeme}
    (cut : tokenize text = .ok lexemes) :
    ∃ front last, lexemes = front ++ [⟨.endOfText, last⟩] ∧
      ∀ lexeme ∈ front, lexeme.token.Lexical :=
  tokenizeFrom_lexical 0 text.toList cut

end Stencil.Expr
