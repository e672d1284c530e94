/-
Module: Stencil.Proofs.Expr.Parsing
Purpose: What the combinators of the parser do on the lexemes that are left, and when a parser reads
  exactly the phrases of a class.
Main exports: PhraseClass, Sound, Complete, linked_sound, linked_complete, Presents
-/
import Stencil.Proofs.Expr.Unambiguity

namespace Stencil.Expr

open Parse

section Runs

variable {α β σ : Type}

/-- The tokens of lexemes, without their positions. -/
def tokensOf (lexemes : List Lexeme) : List Token :=
  lexemes.map (·.token)

@[simp] theorem tokensOf_nil : tokensOf [] = [] := rfl

@[simp] theorem tokensOf_cons (lexeme : Lexeme) (rest : List Lexeme) :
    tokensOf (lexeme :: rest) = lexeme.token :: tokensOf rest := rfl

@[simp] theorem tokensOf_append (front rest : List Lexeme) :
    tokensOf (front ++ rest) = tokensOf front ++ tokensOf rest :=
  List.map_append

theorem tokensOf_eq_append_iff {lexemes : List Lexeme} {one two : List Token} :
    tokensOf lexemes = one ++ two ↔
      ∃ front rest, lexemes = front ++ rest ∧ tokensOf front = one ∧ tokensOf rest = two :=
  List.map_eq_append_iff

theorem tokensOf_eq_cons_iff {lexemes : List Lexeme} {token : Token} {tokens : List Token} :
    tokensOf lexemes = token :: tokens ↔
      ∃ lexeme rest, lexemes = lexeme :: rest ∧ lexeme.token = token ∧ tokensOf rest = tokens :=
  List.map_eq_cons_iff

theorem run_bind_of_ok {parser : Parse α} {next : α → Parse β} {lexemes rest : List Lexeme}
    {result : α} (read : parser.run lexemes = .ok (result, rest)) :
    (parser >>= next).run lexemes = (next result).run rest := by
  rw [StateT.run_bind, read]
  rfl

theorem run_bind_of_error {parser : Parse α} {next : α → Parse β} {lexemes : List Lexeme}
    {error : SyntaxError} (refused : parser.run lexemes = .error error) :
    (parser >>= next).run lexemes = .error error := by
  rw [StateT.run_bind, refused]
  rfl

/-- A sequence of two steps succeeds only if both do, the second on what the first one leaves. -/
theorem run_bind_eq_ok {parser : Parse α} {next : α → Parse β} {lexemes rest : List Lexeme}
    {result : β} (read : (parser >>= next).run lexemes = .ok (result, rest)) :
    ∃ first between, parser.run lexemes = .ok (first, between) ∧
      (next first).run between = .ok (result, rest) := by
  rw [StateT.run_bind] at read
  cases first : parser.run lexemes with
  | error fault =>
      rw [first] at read
      cases read
  | ok state =>
      rw [first] at read
      exact ⟨state.1, state.2, rfl, read⟩

theorem run_map_eq_ok {parser : Parse α} {shape : α → β} {lexemes rest : List Lexeme} {result : β}
    (read : (shape <$> parser).run lexemes = .ok (result, rest)) :
    ∃ first, parser.run lexemes = .ok (first, rest) ∧ shape first = result := by
  rw [map_eq_pure_bind] at read
  obtain ⟨first, between, inner, last⟩ := run_bind_eq_ok read
  cases last
  exact ⟨first, inner, rfl⟩

theorem run_current (lexemes : List Lexeme) :
    current.run lexemes = .ok (lexemes.headD ⟨.endOfText, 0⟩, lexemes) := rfl

theorem token_headD (lexemes : List Lexeme) (position : Nat) :
    (lexemes.headD ⟨.endOfText, position⟩).token = frontToken (tokensOf lexemes) := by
  cases lexemes <;> rfl

/-- Accepting a sign passes the front lexeme if it is one, and otherwise does nothing. -/
theorem run_accept? (sign? : Token → Option σ) (lexemes : List Lexeme) :
    (accept? sign?).run lexemes =
      match sign? (frontToken (tokensOf lexemes)) with
      | some sign => .ok (some sign, lexemes.drop 1)
      | none => .ok (none, lexemes) := by
  unfold accept?
  rw [run_bind_of_ok (run_current lexemes), token_headD]
  cases sign? (frontToken (tokensOf lexemes)) <;> rfl

theorem run_accept?_of_none {sign? : Token → Option σ} {lexemes : List Lexeme}
    (absent : sign? (frontToken (tokensOf lexemes)) = none) :
    (accept? sign?).run lexemes = .ok (none, lexemes) := by
  rw [run_accept?, absent]

theorem run_accept?_of_some {sign? : Token → Option σ} {lexeme : Lexeme} {rest : List Lexeme}
    {sign : σ} (present : sign? lexeme.token = some sign) :
    (accept? sign?).run (lexeme :: rest) = .ok (some sign, rest) := by
  rw [run_accept?, tokensOf_cons, frontToken_cons, present]
  rfl

/-- What accepting a sign can have done: nothing, or passed one lexeme. -/
theorem accept?_cases {sign? : Token → Option σ} (atEnd : sign? .endOfText = none)
    {lexemes rest : List Lexeme} {found : Option σ}
    (read : (accept? sign?).run lexemes = .ok (found, rest)) :
    (found = none ∧ rest = lexemes ∧ sign? (frontToken (tokensOf lexemes)) = none) ∨
      ∃ sign lexeme, found = some sign ∧ lexemes = lexeme :: rest ∧
        sign? lexeme.token = some sign := by
  rw [run_accept?] at read
  cases present : sign? (frontToken (tokensOf lexemes)) with
  | none =>
      rw [present] at read
      cases read
      exact .inl ⟨rfl, rfl, rfl⟩
  | some sign =>
      rw [present] at read
      cases lexemes with
      | nil =>
          rw [tokensOf_nil, frontToken_nil, atEnd] at present
          cases present
      | cons lexeme later =>
          cases read
          exact .inr ⟨sign, lexeme, rfl, rfl, present⟩

end Runs

/-- What the levels of the grammar have in common: the tokens of a phrase, the tree that it is read
as, and what else it has to satisfy. -/
structure PhraseClass (P α : Type) where
  tokens : P → List Token
  tree : P → α
  Fits : P → Prop

/-- A parser is sound for a class if whatever it reads is a phrase that fits. -/
def Sound {P α : Type} (parser : Parse α) (phrases : PhraseClass P α) : Prop :=
  ∀ lexemes result rest, parser.run lexemes = .ok (result, rest) →
    ∃ phrase front, lexemes = front ++ rest ∧ tokensOf front = phrases.tokens phrase ∧
      phrases.Fits phrase ∧ phrases.tree phrase = result

/-- A parser is complete for a class, below a length, if it reads every phrase that fits, and nothing
else, whenever what follows binds less than `strength`. -/
def Complete {P α : Type} (parser : Parse α) (phrases : PhraseClass P α) (strength bound : Nat) :
    Prop :=
  ∀ phrase front rest, phrases.Fits phrase → (phrases.tokens phrase).length < bound →
    tokensOf front = phrases.tokens phrase → (frontToken (tokensOf rest)).binding < strength →
      parser.run (front ++ rest) = .ok (phrases.tree phrase, rest)

section Linked

variable {P α σ : Type}

/-- Read an operand and what is linked to it, up to a limit if there is one. -/
def Parse.linked (sign? : Token → Option σ) (operand : Parse α) (limit? : Option Nat) :
    Parse (α × List (σ × α)) := do
  let first ← operand
  let rest ← pairs sign? operand (limit?.getD (← get).length)
  pure (first, rest)

/-- Operands linked by signs, up to a limit if there is one. -/
def PhraseClass.linked (operand : PhraseClass P α) (sign : σ → Token) (limit? : Option Nat) :
    PhraseClass (P × List (σ × P)) (α × List (σ × α)) where
  tokens := linkedTokens sign operand.tokens
  tree parts := (operand.tree parts.1, parts.2.map fun link => (link.1, operand.tree link.2))
  Fits parts :=
    operand.Fits parts.1 ∧ (∀ link ∈ parts.2, operand.Fits link.2) ∧
      ∀ limit ∈ limit?, parts.2.length ≤ limit

variable {operand : Parse α} {phrases : PhraseClass P α} {sign : σ → Token}
  {sign? : Token → Option σ} {limit? : Option Nat} {strength bound : Nat}

/-- Reading a list of links only ever reads whole links, no more of them than the bound. -/
theorem pairs_sound (reads : ∀ token operator, sign? token = some operator ↔ token = sign operator)
    (atEnd : sign? .endOfText = none) (sound : Sound operand phrases) :
    ∀ (count : Nat) (lexemes rest : List Lexeme) (result : List (σ × α)),
      (pairs sign? operand count).run lexemes = .ok (result, rest) →
        ∃ (links : List (σ × P)) (front : List Lexeme), lexemes = front ++ rest ∧
          tokensOf front = linkTokens sign phrases.tokens links ∧
          (∀ link ∈ links, phrases.Fits link.2) ∧ links.length ≤ count ∧
          links.map (fun link => (link.1, phrases.tree link.2)) = result
  | 0, lexemes, rest, result, read => by
      cases read
      exact ⟨[], [], rfl, rfl, by simp, Nat.le_refl _, rfl⟩
  | count + 1, lexemes, rest, result, read => by
      rw [pairs] at read
      obtain ⟨found, behind, accepted, readLink⟩ := run_bind_eq_ok read
      rcases accept?_cases atEnd accepted with ⟨rfl, rfl, -⟩ | ⟨operator, lexeme, rfl, rfl, here⟩
      · cases readLink
        exact ⟨[], [], rfl, rfl, by simp, Nat.zero_le _, rfl⟩
      · obtain ⟨right, between, readRight, readRest⟩ := run_bind_eq_ok readLink
        obtain ⟨later, last, readLater, atLast⟩ := run_bind_eq_ok readRest
        cases atLast
        obtain ⟨phrase, front, rfl, tokens, fits, rfl⟩ := sound _ _ _ readRight
        obtain ⟨links, front', rfl, tokens', fits', short, rfl⟩ :=
          pairs_sound reads atEnd sound count _ _ _ readLater
        refine ⟨(operator, phrase) :: links, lexeme :: (front ++ front'), by simp, ?_, ?_, ?_, rfl⟩
        · simp [linkTokens, tokens, tokens', (reads _ _).mp here]
        · exact List.forall_mem_cons.mpr ⟨fits, fits'⟩
        · simpa using short

theorem linked_sound (reads : ∀ token operator, sign? token = some operator ↔ token = sign operator)
    (atEnd : sign? .endOfText = none) (sound : Sound operand phrases) :
    Sound (Parse.linked sign? operand limit?) (phrases.linked sign limit?) := by
  intro lexemes result rest read
  obtain ⟨first, between, readFirst, read⟩ := run_bind_eq_ok read
  obtain ⟨left, same, gotten, read⟩ := run_bind_eq_ok read
  cases gotten
  obtain ⟨later, last, readLater, read⟩ := run_bind_eq_ok read
  cases read
  obtain ⟨phrase, front, rfl, tokens, fits, rfl⟩ := sound _ _ _ readFirst
  obtain ⟨links, front', rfl, tokens', fits', short, rfl⟩ :=
    pairs_sound reads atEnd sound _ _ _ _ readLater
  refine ⟨(phrase, links), front ++ front', by simp, ?_, ⟨fits, fits', ?_⟩, rfl⟩
  · simp [PhraseClass.linked, linkedTokens, tokens, tokens']
  · intro limit given
    cases given
    exact short

/-- A sign whose binding is that of its level is not there where less binding follows. -/
theorem sign?_eq_none (reads : ∀ token operator, sign? token = some operator ↔ token = sign operator)
    (binds : ∀ operator, (sign operator).binding = strength) {token : Token}
    (stops : token.binding < strength) : sign? token = none := by
  cases found : sign? token with
  | none => rfl
  | some operator =>
      rw [(reads _ _).mp found, binds] at stops
      exact absurd stops (Nat.lt_irrefl _)

/-- All links are read, and then no more. -/
theorem pairs_complete
    (reads : ∀ token operator, sign? token = some operator ↔ token = sign operator)
    (binds : ∀ operator, (sign operator).binding = strength)
    (complete : Complete operand phrases (strength + 1) bound) :
    ∀ (links : List (σ × P)) (count : Nat) (front rest : List Lexeme), links.length ≤ count →
      (∀ link ∈ links, phrases.Fits link.2) →
      (linkTokens sign phrases.tokens links).length < bound →
      tokensOf front = linkTokens sign phrases.tokens links →
      (frontToken (tokensOf rest)).binding < strength →
        (pairs sign? operand count).run (front ++ rest) =
          .ok (links.map fun link => (link.1, phrases.tree link.2), rest)
  | [], count, front, rest, _, _, _, tokens, stops => by
      have empty : front = [] := List.map_eq_nil_iff.mp tokens
      subst empty
      cases count with
      | zero => rfl
      | succ count =>
          unfold pairs
          rw [List.nil_append, run_bind_of_ok (run_accept?_of_none (sign?_eq_none reads binds stops))]
          rfl
  | (operator, phrase) :: links, 0, _, _, few, _, _, _, _ => absurd few (Nat.not_succ_le_zero _)
  | (operator, phrase) :: links, count + 1, front, rest, few, fits, short, tokens, stops => by
      obtain ⟨lexeme, behind, rfl, here, tokens⟩ := tokensOf_eq_cons_iff.mp tokens
      obtain ⟨front, later, rfl, tokens, tokens'⟩ := tokensOf_eq_append_iff.mp tokens
      simp only [linkTokens, List.length_cons, List.length_append] at short
      have after : (frontToken (tokensOf (later ++ rest))).binding < strength + 1 := by
        rw [tokensOf_append, tokens']
        exact binding_front_link_lt binds links stops
      have readRight := complete phrase front (later ++ rest) (fits _ (List.mem_cons_self ..))
        (by omega) tokens after
      have readLater := pairs_complete reads binds complete links count later rest
        (Nat.le_of_succ_le_succ few) (fun link member => fits link (List.mem_cons_of_mem _ member))
        (by omega) tokens' stops
      unfold pairs
      rw [List.cons_append, List.append_assoc,
        run_bind_of_ok (run_accept?_of_some ((reads _ _).mpr here))]
      simp only
      rw [run_bind_of_ok readRight, run_bind_of_ok readLater]
      rfl

theorem length_le_length_linkTokens (sign : σ → Token) (tokens : P → List Token)
    (links : List (σ × P)) : links.length ≤ (linkTokens sign tokens links).length := by
  induction links with
  | nil => exact Nat.le_refl _
  | cons link links ih =>
      simp only [linkTokens, List.length_cons, List.length_append]
      omega

theorem linked_complete
    (reads : ∀ token operator, sign? token = some operator ↔ token = sign operator)
    (binds : ∀ operator, (sign operator).binding = strength)
    (complete : Complete operand phrases (strength + 1) bound) :
    Complete (Parse.linked sign? operand limit?) (phrases.linked sign limit?) strength bound := by
  rintro ⟨phrase, links⟩ front rest ⟨fits, fits', few⟩ short tokens stops
  simp only [PhraseClass.linked, linkedTokens, List.length_append] at short
  obtain ⟨front, later, rfl, tokens, tokens'⟩ := tokensOf_eq_append_iff.mp tokens
  have after : (frontToken (tokensOf (later ++ rest))).binding < strength + 1 := by
    rw [tokensOf_append, tokens']
    exact binding_front_link_lt binds links stops
  have enough : links.length ≤ limit?.getD (later ++ rest).length := by
    cases limit? with
    | some limit => exact few limit rfl
    | none =>
        have many := length_le_length_linkTokens sign phrases.tokens links
        have lengths : later.length = (linkTokens sign phrases.tokens links).length := by
          rw [← tokens', tokensOf, List.length_map]
        simp only [Option.getD_none, List.length_append]
        omega
  have readFirst := complete phrase front (later ++ rest) fits (by omega) tokens after
  have readLater := pairs_complete reads binds complete links _ later rest enough fits' (by omega)
    tokens' stops
  unfold Parse.linked
  rw [List.append_assoc, run_bind_of_ok readFirst]
  have readState : (get : Parse (List Lexeme)).run (later ++ rest) =
      .ok (later ++ rest, later ++ rest) := rfl
  rw [run_bind_of_ok readState, run_bind_of_ok readLater]
  rfl

end Linked

/-- A class that is another one in a different form. -/
structure Presents {P Q α β : Type} (phrases : PhraseClass Q β) (base : PhraseClass P α)
    (parts : Q → P) (shape : α → β) : Prop where
  tokens : ∀ phrase, phrases.tokens phrase = base.tokens (parts phrase)
  tree : ∀ phrase, phrases.tree phrase = shape (base.tree (parts phrase))
  fits : ∀ phrase, phrases.Fits phrase ↔ base.Fits (parts phrase)
  onto : ∀ base', base.Fits base' → ∃ phrase, parts phrase = base'

namespace Presents

variable {P Q α β : Type} {phrases : PhraseClass Q β} {base : PhraseClass P α} {parts : Q → P}
  {shape : α → β} {parser : Parse α} {strength bound : Nat}

theorem sound (form : Presents phrases base parts shape) (sound : Sound parser base) :
    Sound (shape <$> parser) phrases := by
  intro lexemes result rest read
  obtain ⟨inner, readBase, rfl⟩ := run_map_eq_ok read
  obtain ⟨base', front, rfl, tokens, fits, rfl⟩ := sound _ _ _ readBase
  obtain ⟨phrase, rfl⟩ := form.onto _ fits
  exact ⟨phrase, front, rfl, by rw [form.tokens, tokens], (form.fits _).mpr fits, form.tree _⟩

theorem complete (form : Presents phrases base parts shape)
    (complete : Complete parser base strength bound) :
    Complete (shape <$> parser) phrases strength bound := by
  intro phrase front rest fits short tokens stops
  rw [form.tokens] at short tokens
  have read := complete _ front rest ((form.fits _).mp fits) short tokens stops
  rw [map_eq_pure_bind, run_bind_of_ok read, form.tree]
  rfl

end Presents

end Stencil.Expr
