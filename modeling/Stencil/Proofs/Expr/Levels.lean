/-
Module: Stencil.Proofs.Expr.Levels
Purpose: Every level of the grammar as a class of phrases, made of linked phrases of the next level.
Main exports: DisjunctionPhrase.phrases, DisjunctionPhrase.presents
-/
import Stencil.Proofs.Expr.Parsing

namespace Stencil.Expr

/-! ### The levels as classes of phrases -/

def PrimaryPhrase.phrases : PhraseClass PrimaryPhrase Primary := ⟨tokens, tree, InRange⟩

def UnaryPhrase.phrases : PhraseClass UnaryPhrase Unary := ⟨tokens, tree, InRange⟩

def ProductPhrase.phrases : PhraseClass ProductPhrase Product := ⟨tokens, tree, InRange⟩

def SumPhrase.phrases : PhraseClass SumPhrase Sum := ⟨tokens, tree, InRange⟩

def ComparisonPhrase.phrases : PhraseClass ComparisonPhrase Comparison := ⟨tokens, tree, InRange⟩

def EqualityPhrase.phrases : PhraseClass EqualityPhrase Equality := ⟨tokens, tree, InRange⟩

def ConjunctionPhrase.phrases : PhraseClass ConjunctionPhrase Conjunction :=
  ⟨tokens, tree, InRange⟩

def DisjunctionPhrase.phrases : PhraseClass DisjunctionPhrase Disjunction :=
  ⟨tokens, tree, InRange⟩

/-! ### Levels with at most one operator -/

/-- The product of at most two factors. -/
def Product.ofParts : Unary × List (ProductOperator × Unary) → Product
  | (left, []) => .single left
  | (left, (sign, right) :: _) => .pair left sign right

def Comparison.ofParts : Sum × List (ComparisonOperator × Sum) → Comparison
  | (left, []) => .single left
  | (left, (sign, right) :: _) => .pair left sign right

def Equality.ofParts : Comparison × List (EqualityOperator × Comparison) → Equality
  | (left, []) => .single left
  | (left, (sign, right) :: _) => .pair left sign right

/-- Where one link is the limit, there is none or one. -/
theorem PhraseClass.linked_one {P α σ : Type} {phrases : PhraseClass P α} {sign : σ → Token}
    {first : P} {links : List (σ × P)}
    (fits : (phrases.linked sign (some 1)).Fits (first, links)) :
    links = [] ∨ ∃ link, links = [link] := by
  obtain ⟨-, -, few⟩ := fits
  rcases Nat.le_one_iff_eq_zero_or_eq_one.mp (few 1 rfl) with empty | one
  · exact .inl (List.length_eq_zero_iff.mp empty)
  · exact .inr (List.length_eq_one_iff.mp one)

theorem ProductPhrase.presents :
    Presents ProductPhrase.phrases (UnaryPhrase.phrases.linked ProductOperator.token (some 1))
      ProductPhrase.parts Product.ofParts where
  tokens := ProductPhrase.tokens_eq
  tree phrase := by cases phrase <;> rfl
  fits phrase := by
    cases phrase <;>
      simp [ProductPhrase.phrases, UnaryPhrase.phrases, PhraseClass.linked, ProductPhrase.parts,
        ProductPhrase.InRange]
  onto := by
    rintro ⟨left, links⟩ fits
    rcases PhraseClass.linked_one fits with rfl | ⟨⟨sign, right⟩, rfl⟩
    · exact ⟨.single left, rfl⟩
    · exact ⟨.pair left sign right, rfl⟩

theorem ComparisonPhrase.presents :
    Presents ComparisonPhrase.phrases (SumPhrase.phrases.linked ComparisonOperator.token (some 1))
      ComparisonPhrase.parts Comparison.ofParts where
  tokens := ComparisonPhrase.tokens_eq
  tree phrase := by cases phrase <;> rfl
  fits phrase := by
    cases phrase <;>
      simp [ComparisonPhrase.phrases, SumPhrase.phrases, PhraseClass.linked,
        ComparisonPhrase.parts, ComparisonPhrase.InRange]
  onto := by
    rintro ⟨left, links⟩ fits
    rcases PhraseClass.linked_one fits with rfl | ⟨⟨sign, right⟩, rfl⟩
    · exact ⟨.single left, rfl⟩
    · exact ⟨.pair left sign right, rfl⟩

theorem EqualityPhrase.presents :
    Presents EqualityPhrase.phrases
      (ComparisonPhrase.phrases.linked EqualityOperator.token (some 1))
      EqualityPhrase.parts Equality.ofParts where
  tokens := EqualityPhrase.tokens_eq
  tree phrase := by cases phrase <;> rfl
  fits phrase := by
    cases phrase <;>
      simp [EqualityPhrase.phrases, ComparisonPhrase.phrases, PhraseClass.linked,
        EqualityPhrase.parts, EqualityPhrase.InRange]
  onto := by
    rintro ⟨left, links⟩ fits
    rcases PhraseClass.linked_one fits with rfl | ⟨⟨sign, right⟩, rfl⟩
    · exact ⟨.single left, rfl⟩
    · exact ⟨.pair left sign right, rfl⟩

/-! ### Levels with chains of operators -/

def Sum.ofParts : Product × List (SumOperator × Product) → Sum
  | (first, rest) => .mk first rest

def Conjunction.ofParts : Equality × List (Unit × Equality) → Conjunction
  | (first, rest) => .mk first (rest.map (·.2))

def Disjunction.ofParts : Conjunction × List (Unit × Conjunction) → Disjunction
  | (first, rest) => .mk first (rest.map (·.2))

/-- Where the number of links is not limited, a phrase fits if its parts do. -/
theorem PhraseClass.linked_fits {P α σ : Type} (phrases : PhraseClass P α) (sign : σ → Token)
    (parts : P × List (σ × P)) :
    (phrases.linked sign none).Fits parts ↔
      phrases.Fits parts.1 ∧ ∀ link ∈ parts.2, phrases.Fits link.2 := by
  simp [PhraseClass.linked]

theorem SumPhrase.restTrees_eq (rest : List (SumOperator × ProductPhrase)) :
    SumPhrase.restTrees rest = rest.map fun link => (link.1, link.2.tree) := by
  induction rest with
  | nil => rfl
  | cons link rest ih => simp [SumPhrase.restTrees, ih]

theorem SumPhrase.restInRange_iff (rest : List (SumOperator × ProductPhrase)) :
    SumPhrase.RestInRange rest ↔ ∀ link ∈ rest, link.2.InRange := by
  induction rest with
  | nil => simp [SumPhrase.RestInRange]
  | cons link rest ih => rw [SumPhrase.RestInRange, List.forall_mem_cons, ih]

theorem SumPhrase.presents :
    Presents SumPhrase.phrases (ProductPhrase.phrases.linked SumOperator.token none)
      SumPhrase.parts Sum.ofParts where
  tokens := SumPhrase.tokens_eq
  tree phrase := by
    cases phrase
    simp [SumPhrase.phrases, ProductPhrase.phrases, PhraseClass.linked, SumPhrase.parts,
      SumPhrase.tree, SumPhrase.restTrees_eq, Sum.ofParts]
  fits phrase := by
    cases phrase with
    | mk first rest =>
        rw [PhraseClass.linked_fits]
        exact and_congr Iff.rfl (SumPhrase.restInRange_iff rest)
  onto := fun (first, rest) _ => ⟨.mk first rest, rfl⟩

/-- Any list of links by a single sign is a list of terms with that sign in front. -/
theorem withSign_snd {P : Type} (links : List (Unit × P)) : withSign (links.map (·.2)) = links := by
  rw [withSign, List.map_map]
  exact List.map_id links

theorem map_snd_withSign {P α : Type} (tree : P → α) (terms : List P) :
    ((withSign terms).map fun link => (link.1, tree link.2)).map (·.2) = terms.map tree := by
  simp [withSign]

theorem forall_mem_withSign {P : Type} {Fits : P → Prop} {terms : List P} :
    (∀ link ∈ withSign terms, Fits link.2) ↔ ∀ term ∈ terms, Fits term := by
  simp [withSign]

theorem ConjunctionPhrase.restTrees_eq (rest : List EqualityPhrase) :
    ConjunctionPhrase.restTrees rest = rest.map EqualityPhrase.tree := by
  induction rest with
  | nil => rfl
  | cons term rest ih => rw [ConjunctionPhrase.restTrees, ih, List.map_cons]

theorem ConjunctionPhrase.restInRange_iff (rest : List EqualityPhrase) :
    ConjunctionPhrase.RestInRange rest ↔ ∀ term ∈ rest, term.InRange := by
  induction rest with
  | nil => simp [ConjunctionPhrase.RestInRange]
  | cons term rest ih => rw [ConjunctionPhrase.RestInRange, List.forall_mem_cons, ih]

theorem ConjunctionPhrase.presents :
    Presents ConjunctionPhrase.phrases (EqualityPhrase.phrases.linked andToken none)
      ConjunctionPhrase.parts Conjunction.ofParts where
  tokens := ConjunctionPhrase.tokens_eq
  tree phrase := by
    cases phrase
    simp only [ConjunctionPhrase.phrases, EqualityPhrase.phrases, PhraseClass.linked,
      ConjunctionPhrase.parts, ConjunctionPhrase.tree, ConjunctionPhrase.restTrees_eq,
      Conjunction.ofParts, map_snd_withSign]
  fits phrase := by
    cases phrase with
    | mk first rest =>
        rw [PhraseClass.linked_fits]
        exact and_congr Iff.rfl
          ((ConjunctionPhrase.restInRange_iff rest).trans forall_mem_withSign.symm)
  onto := fun (first, links) _ =>
    ⟨.mk first (links.map (·.2)), by rw [ConjunctionPhrase.parts, withSign_snd]⟩

theorem DisjunctionPhrase.restTrees_eq (rest : List ConjunctionPhrase) :
    DisjunctionPhrase.restTrees rest = rest.map ConjunctionPhrase.tree := by
  induction rest with
  | nil => rfl
  | cons term rest ih => rw [DisjunctionPhrase.restTrees, ih, List.map_cons]

theorem DisjunctionPhrase.restInRange_iff (rest : List ConjunctionPhrase) :
    DisjunctionPhrase.RestInRange rest ↔ ∀ term ∈ rest, term.InRange := by
  induction rest with
  | nil => simp [DisjunctionPhrase.RestInRange]
  | cons term rest ih => rw [DisjunctionPhrase.RestInRange, List.forall_mem_cons, ih]

theorem DisjunctionPhrase.presents :
    Presents DisjunctionPhrase.phrases (ConjunctionPhrase.phrases.linked orToken none)
      DisjunctionPhrase.parts Disjunction.ofParts where
  tokens := DisjunctionPhrase.tokens_eq
  tree phrase := by
    cases phrase
    simp only [DisjunctionPhrase.phrases, ConjunctionPhrase.phrases, PhraseClass.linked,
      DisjunctionPhrase.parts, DisjunctionPhrase.tree, DisjunctionPhrase.restTrees_eq,
      Disjunction.ofParts, map_snd_withSign]
  fits phrase := by
    cases phrase with
    | mk first rest =>
        rw [PhraseClass.linked_fits]
        exact and_congr Iff.rfl
          ((DisjunctionPhrase.restInRange_iff rest).trans forall_mem_withSign.symm)
  onto := fun (first, links) _ =>
    ⟨.mk first (links.map (·.2)), by rw [DisjunctionPhrase.parts, withSign_snd]⟩

end Stencil.Expr
