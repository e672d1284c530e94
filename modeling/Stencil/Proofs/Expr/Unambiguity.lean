/-
Module: Stencil.Proofs.Expr.Unambiguity
Purpose: No sequence of tokens has two derivations, and no derivation runs on into what follows it.
Main exports: Token.binding, Decomposes, linked_decomposes, DisjunctionPhrase.decomposes,
  DisjunctionPhrase.tokens_injective
-/
import Stencil.Proofs.Expr.Phrase

namespace Stencil.Expr

/-!
Levels are numbered from the loosest, 1, to the tightest operator between operands, 6.  A phrase of a
level ends where a token follows that does not bind as tightly as the level does.
-/

/-- The level at which a token links two operands; zero if it links none. -/
def Token.binding : Token → Nat
  | .operator .or => 1
  | .operator .and => 2
  | .operator .equal | .operator .unequal => 3
  | .operator .greaterOrEqual | .operator .lessOrEqual | .operator .greater | .operator .less => 4
  | .operator .plus | .operator .minus => 5
  | .operator .times | .operator .divide | .operator .modulo => 6
  | _ => 0

/-- The token at the front; behind the last one there is nothing but the end. -/
def frontToken (tokens : List Token) : Token :=
  tokens.headD .endOfText

@[simp] theorem frontToken_nil : frontToken [] = .endOfText := rfl

@[simp] theorem frontToken_cons (token : Token) (rest : List Token) :
    frontToken (token :: rest) = token := rfl

@[simp] theorem EqualityOperator.token_binding (sign : EqualityOperator) :
    sign.token.binding = 3 := by
  cases sign <;> rfl

@[simp] theorem ComparisonOperator.token_binding (sign : ComparisonOperator) :
    sign.token.binding = 4 := by
  cases sign <;> rfl

@[simp] theorem SumOperator.token_binding (sign : SumOperator) : sign.token.binding = 5 := by
  cases sign <;> rfl

@[simp] theorem ProductOperator.token_binding (sign : ProductOperator) :
    sign.token.binding = 6 := by
  cases sign <;> rfl

theorem EqualityOperator.token_injective : Function.Injective EqualityOperator.token := by
  intro one two same
  cases one <;> cases two <;> simp_all [EqualityOperator.token]

theorem ComparisonOperator.token_injective : Function.Injective ComparisonOperator.token := by
  intro one two same
  cases one <;> cases two <;> simp_all [ComparisonOperator.token]

theorem SumOperator.token_injective : Function.Injective SumOperator.token := by
  intro one two same
  cases one <;> cases two <;> simp_all [SumOperator.token]

theorem ProductOperator.token_injective : Function.Injective ProductOperator.token := by
  intro one two same
  cases one <;> cases two <;> simp_all [ProductOperator.token]

theorem UnaryOperator.token_injective : Function.Injective UnaryOperator.token := by
  intro one two same
  cases one <;> cases two <;> simp_all [UnaryOperator.token]

/-! ### Phrases linked by signs -/

section Linked

variable {P σ : Type} {sign : σ → Token} {tokens : P → List Token} {strength bound : Nat}

/-- The tokens of operands, each with its sign in front. -/
def linkTokens (sign : σ → Token) (tokens : P → List Token) : List (σ × P) → List Token
  | [] => []
  | (operator, operand) :: rest =>
      sign operator :: (tokens operand ++ linkTokens sign tokens rest)

/-- The tokens of a first operand and of all that is linked to it. -/
def linkedTokens (sign : σ → Token) (tokens : P → List Token) (parts : P × List (σ × P)) :
    List Token :=
  tokens parts.1 ++ linkTokens sign tokens parts.2

/-- Phrases below a length are determined by their tokens, together with where they end: what
follows either phrase binds less than `strength`. -/
def Decomposes (tokens : P → List Token) (strength bound : Nat) : Prop :=
  ∀ (one two : P) (after after' : List Token), (tokens one).length < bound →
    tokens one ++ after = tokens two ++ after' →
      (frontToken after).binding < strength → (frontToken after').binding < strength →
        one = two ∧ after = after'

/-- What follows an operand binds no more than the sign that may stand there. -/
theorem binding_front_link_lt (binds : ∀ operator, (sign operator).binding = strength)
    (rest : List (σ × P)) {after : List Token} (stops : (frontToken after).binding < strength) :
    (frontToken (linkTokens sign tokens rest ++ after)).binding < strength + 1 := by
  cases rest with
  | nil => simpa [linkTokens] using Nat.lt_succ_of_lt stops
  | cons link rest => simp [linkTokens, binds]

theorem link_decomposes (binds : ∀ operator, (sign operator).binding = strength)
    (distinct : Function.Injective sign) (operand : Decomposes tokens (strength + 1) bound) :
    ∀ (one two : List (σ × P)) (after after' : List Token),
      (linkTokens sign tokens one).length < bound →
      linkTokens sign tokens one ++ after = linkTokens sign tokens two ++ after' →
        (frontToken after).binding < strength → (frontToken after').binding < strength →
          one = two ∧ after = after'
  | [], [], _, _, _, same, _, _ => ⟨rfl, by simpa [linkTokens] using same⟩
  | [], (operator, _) :: _, after, _, _, same, stops, _ => by
      have front : frontToken after = sign operator := by
        simp only [linkTokens, List.nil_append, List.cons_append] at same
        rw [same, frontToken_cons]
      rw [front, binds] at stops
      exact absurd stops (Nat.lt_irrefl _)
  | (operator, _) :: _, [], _, after', _, same, _, stops' => by
      have front : frontToken after' = sign operator := by
        simp only [linkTokens, List.nil_append, List.cons_append] at same
        rw [← same, frontToken_cons]
      rw [front, binds] at stops'
      exact absurd stops' (Nat.lt_irrefl _)
  | (operator, left) :: rest, (operator', left') :: rest', after, after', short, same, stops,
      stops' => by
      simp only [linkTokens, List.cons_append, List.append_assoc, List.cons.injEq] at same
      simp only [linkTokens, List.length_cons, List.length_append] at short
      obtain ⟨sameSign, sameRest⟩ := same
      obtain ⟨rfl, behind⟩ := operand left left' _ _ (by omega) sameRest
        (binding_front_link_lt binds rest stops) (binding_front_link_lt binds rest' stops')
      obtain ⟨rfl, rfl⟩ :=
        link_decomposes binds distinct operand rest rest' after after' (by omega) behind stops stops'
      rw [distinct sameSign]
      exact ⟨rfl, rfl⟩

/-- Linking operands at a level keeps derivations unique, if the operands bind tighter. -/
theorem linked_decomposes (binds : ∀ operator, (sign operator).binding = strength)
    (distinct : Function.Injective sign) (operand : Decomposes tokens (strength + 1) bound) :
    Decomposes (linkedTokens sign tokens) strength bound := by
  rintro ⟨first, rest⟩ ⟨first', rest'⟩ after after' short same stops stops'
  simp only [linkedTokens, List.length_append] at short
  simp only [linkedTokens, List.append_assoc] at same
  obtain ⟨rfl, behind⟩ := operand first first' _ _ (by omega) same
    (binding_front_link_lt binds rest stops) (binding_front_link_lt binds rest' stops')
  obtain ⟨rfl, rfl⟩ :=
    link_decomposes binds distinct operand rest rest' after after' (by omega) behind stops stops'
  exact ⟨rfl, rfl⟩

/-- Phrases with the same tokens as others that they determine are as unique as those. -/
theorem Decomposes.comap {Q : Type} {tokens' : Q → List Token} {parts : Q → P}
    (unique : Decomposes tokens strength bound) (distinct : Function.Injective parts)
    (same : ∀ phrase, tokens' phrase = tokens (parts phrase)) :
    Decomposes tokens' strength bound := by
  intro one two after after' short equal stops stops'
  rw [same] at short
  rw [same, same] at equal
  obtain ⟨equalParts, equalRest⟩ := unique _ _ _ _ short equal stops stops'
  exact ⟨distinct equalParts, equalRest⟩

end Linked

/-! ### The parts of a phrase -/

/-- The operand and what is linked to it, at most one more. -/
def ProductPhrase.parts : ProductPhrase → UnaryPhrase × List (ProductOperator × UnaryPhrase)
  | .single factor => (factor, [])
  | .pair left sign right => (left, [(sign, right)])

def SumPhrase.parts : SumPhrase → ProductPhrase × List (SumOperator × ProductPhrase)
  | .mk first rest => (first, rest)

def ComparisonPhrase.parts : ComparisonPhrase → SumPhrase × List (ComparisonOperator × SumPhrase)
  | .single operand => (operand, [])
  | .pair left sign right => (left, [(sign, right)])

def EqualityPhrase.parts :
    EqualityPhrase → ComparisonPhrase × List (EqualityOperator × ComparisonPhrase)
  | .single operand => (operand, [])
  | .pair left sign right => (left, [(sign, right)])

/-- Terms of one sign only, which is put in front of each. -/
def withSign {P : Type} (terms : List P) : List (Unit × P) :=
  terms.map fun term => ((), term)

def ConjunctionPhrase.parts : ConjunctionPhrase → EqualityPhrase × List (Unit × EqualityPhrase)
  | .mk first rest => (first, withSign rest)

def DisjunctionPhrase.parts :
    DisjunctionPhrase → ConjunctionPhrase × List (Unit × ConjunctionPhrase)
  | .mk first rest => (first, withSign rest)

theorem withSign_injective {P : Type} : Function.Injective (withSign (P := P)) := by
  intro one two same
  exact (List.map_inj_right fun _ _ equal => (Prod.mk.inj equal).2).mp same

theorem ProductPhrase.parts_injective : Function.Injective ProductPhrase.parts := by
  intro one two same
  cases one <;> cases two <;> simp_all [ProductPhrase.parts]

theorem SumPhrase.parts_injective : Function.Injective SumPhrase.parts := by
  intro one two same
  cases one
  cases two
  simp_all [SumPhrase.parts]

theorem ComparisonPhrase.parts_injective : Function.Injective ComparisonPhrase.parts := by
  intro one two same
  cases one <;> cases two <;> simp_all [ComparisonPhrase.parts]

theorem EqualityPhrase.parts_injective : Function.Injective EqualityPhrase.parts := by
  intro one two same
  cases one <;> cases two <;> simp_all [EqualityPhrase.parts]

theorem ConjunctionPhrase.parts_injective : Function.Injective ConjunctionPhrase.parts := by
  intro one two same
  cases one
  cases two
  simp only [ConjunctionPhrase.parts, Prod.mk.injEq] at same
  rw [same.1, withSign_injective same.2]

theorem DisjunctionPhrase.parts_injective : Function.Injective DisjunctionPhrase.parts := by
  intro one two same
  cases one
  cases two
  simp only [DisjunctionPhrase.parts, Prod.mk.injEq] at same
  rw [same.1, withSign_injective same.2]

theorem ProductPhrase.tokens_eq (phrase : ProductPhrase) :
    phrase.tokens = linkedTokens ProductOperator.token UnaryPhrase.tokens phrase.parts := by
  cases phrase <;> simp [ProductPhrase.tokens, ProductPhrase.parts, linkedTokens, linkTokens]

theorem SumPhrase.restTokens_eq (rest : List (SumOperator × ProductPhrase)) :
    SumPhrase.restTokens rest = linkTokens SumOperator.token ProductPhrase.tokens rest := by
  induction rest with
  | nil => rfl
  | cons link rest ih => simp [SumPhrase.restTokens, linkTokens, ih]

theorem SumPhrase.tokens_eq (phrase : SumPhrase) :
    phrase.tokens = linkedTokens SumOperator.token ProductPhrase.tokens phrase.parts := by
  cases phrase
  simp [SumPhrase.tokens, SumPhrase.parts, linkedTokens, SumPhrase.restTokens_eq]

theorem ComparisonPhrase.tokens_eq (phrase : ComparisonPhrase) :
    phrase.tokens = linkedTokens ComparisonOperator.token SumPhrase.tokens phrase.parts := by
  cases phrase <;>
    simp [ComparisonPhrase.tokens, ComparisonPhrase.parts, linkedTokens, linkTokens]

theorem EqualityPhrase.tokens_eq (phrase : EqualityPhrase) :
    phrase.tokens = linkedTokens EqualityOperator.token ComparisonPhrase.tokens phrase.parts := by
  cases phrase <;> simp [EqualityPhrase.tokens, EqualityPhrase.parts, linkedTokens, linkTokens]

/-- The sign of a conjunction as a token. -/
def andToken : Unit → Token := fun _ => .operator .and

/-- The sign of a disjunction as a token. -/
def orToken : Unit → Token := fun _ => .operator .or

theorem andToken_binding (sign : Unit) : (andToken sign).binding = 2 := rfl

theorem orToken_binding (sign : Unit) : (orToken sign).binding = 1 := rfl

theorem andToken_injective : Function.Injective andToken := fun _ _ _ => rfl

theorem orToken_injective : Function.Injective orToken := fun _ _ _ => rfl

theorem ConjunctionPhrase.restTokens_eq (rest : List EqualityPhrase) :
    ConjunctionPhrase.restTokens rest = linkTokens andToken EqualityPhrase.tokens (withSign rest) := by
  induction rest with
  | nil => rfl
  | cons term rest ih =>
      simp only [ConjunctionPhrase.restTokens, ih]
      rfl

theorem ConjunctionPhrase.tokens_eq (phrase : ConjunctionPhrase) :
    phrase.tokens = linkedTokens andToken EqualityPhrase.tokens phrase.parts := by
  cases phrase
  simp [ConjunctionPhrase.tokens, ConjunctionPhrase.parts, linkedTokens,
    ConjunctionPhrase.restTokens_eq]

theorem DisjunctionPhrase.restTokens_eq (rest : List ConjunctionPhrase) :
    DisjunctionPhrase.restTokens rest =
      linkTokens orToken ConjunctionPhrase.tokens (withSign rest) := by
  induction rest with
  | nil => rfl
  | cons term rest ih =>
      simp only [DisjunctionPhrase.restTokens, ih]
      rfl

theorem DisjunctionPhrase.tokens_eq (phrase : DisjunctionPhrase) :
    phrase.tokens = linkedTokens orToken ConjunctionPhrase.tokens phrase.parts := by
  cases phrase
  simp [DisjunctionPhrase.tokens, DisjunctionPhrase.parts, linkedTokens,
    DisjunctionPhrase.restTokens_eq]

/-! ### Every level has unique derivations -/

/-- A value does not start with an operator. -/
theorem PrimaryPhrase.tokens_ne_sign (phrase : PrimaryPhrase) (sign : UnaryOperator)
    (rest after : List Token) : phrase.tokens ++ after ≠ sign.token :: rest := by
  cases phrase <;> cases sign <;> simp [PrimaryPhrase.tokens, UnaryOperator.token]
  split <;> simp

theorem PrimaryPhrase.decomposes {bound : Nat}
    (inner : Decomposes DisjunctionPhrase.tokens 1 bound) :
    Decomposes PrimaryPhrase.tokens 7 (bound + 1) := by
  intro one two after after' short same _ _
  cases one with
  | boolean flag =>
      cases two with
      | boolean flag' => cases flag <;> cases flag' <;> simp_all [PrimaryPhrase.tokens]
      | _ => cases flag <;> simp_all [PrimaryPhrase.tokens]
  | null =>
      cases two with
      | boolean flag' => cases flag' <;> simp_all [PrimaryPhrase.tokens]
      | _ => simp_all [PrimaryPhrase.tokens]
  | group content =>
      cases two with
      | group content' =>
          simp only [PrimaryPhrase.tokens, List.cons_append, List.append_assoc,
            List.cons.injEq, true_and] at same
          simp only [PrimaryPhrase.tokens, List.length_cons, List.length_append] at short
          obtain ⟨rfl, behind⟩ :=
            inner content content' _ _ (by omega) same (by simp [Token.binding])
              (by simp [Token.binding])
          simp_all
      | _ => simp_all [PrimaryPhrase.tokens]
  | _ => cases two <;> simp_all [PrimaryPhrase.tokens]

theorem UnaryPhrase.decomposes {bound : Nat} (operand : Decomposes PrimaryPhrase.tokens 7 bound) :
    Decomposes UnaryPhrase.tokens 7 bound := by
  intro one two after after' short same stops stops'
  cases one with
  | plain value =>
      cases two with
      | plain value' =>
          obtain ⟨rfl, rfl⟩ := operand value value' after after' short same stops stops'
          exact ⟨rfl, rfl⟩
      | applied sign value' => exact absurd same (value.tokens_ne_sign sign _ _)
  | applied sign value =>
      cases two with
      | plain value' => exact absurd same.symm (value'.tokens_ne_sign sign _ _)
      | applied sign' value' =>
          simp only [UnaryPhrase.tokens, List.cons_append, List.cons.injEq] at same
          simp only [UnaryPhrase.tokens, List.length_cons] at short
          obtain ⟨rfl, rfl⟩ := operand value value' after after' (by omega) same.2 stops stops'
          rw [UnaryOperator.token_injective same.1]
          exact ⟨rfl, rfl⟩

/-- Disjunctions below any length have unique derivations.  The induction is on the length, because
the only way back from the tightest level to the loosest one is through parentheses. -/
theorem DisjunctionPhrase.decomposes (bound : Nat) :
    Decomposes DisjunctionPhrase.tokens 1 bound := by
  induction bound with
  | zero => exact fun _ _ _ _ short => absurd short (Nat.not_lt_zero _)
  | succ bound ih =>
      have unary := UnaryPhrase.decomposes (PrimaryPhrase.decomposes ih)
      have product := (linked_decomposes ProductOperator.token_binding
        ProductOperator.token_injective unary).comap ProductPhrase.parts_injective
          ProductPhrase.tokens_eq
      have sum := (linked_decomposes SumOperator.token_binding
        SumOperator.token_injective product).comap SumPhrase.parts_injective SumPhrase.tokens_eq
      have comparison := (linked_decomposes ComparisonOperator.token_binding
        ComparisonOperator.token_injective sum).comap ComparisonPhrase.parts_injective
          ComparisonPhrase.tokens_eq
      have equality := (linked_decomposes EqualityOperator.token_binding
        EqualityOperator.token_injective comparison).comap EqualityPhrase.parts_injective
          EqualityPhrase.tokens_eq
      have conjunction := (linked_decomposes andToken_binding andToken_injective equality).comap
        ConjunctionPhrase.parts_injective ConjunctionPhrase.tokens_eq
      exact (linked_decomposes orToken_binding orToken_injective conjunction).comap
        DisjunctionPhrase.parts_injective DisjunctionPhrase.tokens_eq

/-- The grammar is unambiguous: a sequence of tokens has at most one derivation. -/
theorem DisjunctionPhrase.tokens_injective : Function.Injective DisjunctionPhrase.tokens := by
  intro one two same
  have unique := DisjunctionPhrase.decomposes (one.tokens.length + 1) one two [] []
  exact (unique (Nat.lt_succ_self _) (by rw [same]) (by decide) (by decide)).1

end Stencil.Expr
