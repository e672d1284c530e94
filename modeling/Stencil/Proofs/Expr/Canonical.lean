/-
Module: Stencil.Proofs.Expr.Canonical
Purpose: The phrase that an expression is printed as, and what that phrase is read as.
Main exports: Disjunction.phrase, Disjunction.phrase_inRange, Disjunction.tree_phrase_iff
-/
import Stencil.Proofs.Expr.PrintedTokens
import Stencil.Proofs.Expr.Readable
import Stencil.Proofs.Number.Signed

namespace Stencil.Expr

/-! ### The phrase of a tree -/

/-- The magnitude of a negative integer. -/
def Primary.negative? : Primary → Option Nat
  | .integer value => if value < 0 then some value.natAbs else none
  | _ => none

mutual

/-- An infinite number is printed as a word, which is a path. -/
def Primary.phrase : Primary → PrimaryPhrase
  | .boolean flag => .boolean flag
  | .integer value => .number (integerText value)
  | .double value => if value.isInfinite then .path "inf" else .number value.text
  | .text content => .text content
  | .parameter index => .parameter ("?" ++ integerText index)
  | .path written => .path written
  | .null => .null
  | .nested inner => .group inner.phrase

/-- A negative integer is printed as a minus sign and a number. -/
def Unary.phrase : Unary → UnaryPhrase
  | .plain operand =>
      match operand.negative? with
      | some magnitude => .applied .minus (.number (integerText magnitude))
      | none => .plain operand.phrase
  | .applied sign operand => .applied sign operand.phrase

def Product.phrase : Product → ProductPhrase
  | .single factor => .single factor.phrase
  | .pair left sign right => .pair left.phrase sign right.phrase

def Sum.phrase : Sum → SumPhrase
  | .mk first rest => .mk first.phrase (Sum.restPhrases rest)

def Sum.restPhrases : List (SumOperator × Product) → List (SumOperator × ProductPhrase)
  | [] => []
  | (sign, term) :: rest => (sign, term.phrase) :: Sum.restPhrases rest

def Comparison.phrase : Comparison → ComparisonPhrase
  | .single operand => .single operand.phrase
  | .pair left sign right => .pair left.phrase sign right.phrase

def Equality.phrase : Equality → EqualityPhrase
  | .single operand => .single operand.phrase
  | .pair left sign right => .pair left.phrase sign right.phrase

def Conjunction.phrase : Conjunction → ConjunctionPhrase
  | .mk first rest => .mk first.phrase (Conjunction.restPhrases rest)

def Conjunction.restPhrases : List Equality → List EqualityPhrase
  | [] => []
  | term :: rest => term.phrase :: Conjunction.restPhrases rest

/-- The phrase whose tokens are printed for an expression. -/
def Disjunction.phrase : Disjunction → DisjunctionPhrase
  | .mk first rest => .mk first.phrase (Disjunction.restPhrases rest)

def Disjunction.restPhrases : List Conjunction → List ConjunctionPhrase
  | [] => []
  | term :: rest => term.phrase :: Disjunction.restPhrases rest

end

/-! ### Numbers and parameters -/

/-- Digits of any script have neither a point nor an exponent. -/
theorem isDoubleLiteral_of_digits {digits : List Char}
    (digital : ∀ digit ∈ digits, Text.isDecimalDigit digit = true) :
    isDoubleLiteral digits = false := by
  unfold isDoubleLiteral
  rw [List.any_eq_false]
  intro digit member marked
  have decimal := digital digit member
  simp only [Bool.or_eq_true, beq_iff_eq] at marked
  rcases marked with (rfl | rfl) | rfl <;> revert decimal <;> decide

theorem isDoubleLiteral_eq_false {digits : List Char} (plain : ∀ digit ∈ digits, digit.isDigit) :
    isDoubleLiteral digits = false :=
  isDoubleLiteral_of_digits fun digit member => isDecimalDigit_of_isDigit (plain digit member)

/-- The text of an integer denotes it. -/
theorem integerValue?_integerText (value : Nat) :
    integerValue? (integerText value) = some value := by
  unfold integerValue?
  rw [integerText_toList, isDoubleLiteral_eq_false (naturalDigits_isDigit value),
    naturalOfDigits_naturalDigits]
  rfl

theorem isDoubleLiteral_text {numeral : Numeral}
    (marked : numeral.fraction ≠ [] ∨ numeral.exponent? ≠ none) :
    isDoubleLiteral numeral.text = true := by
  unfold isDoubleLiteral
  rw [List.any_eq_true]
  rcases marked with fraction | exponent
  · refine ⟨'.', List.mem_append_right _ (List.mem_append_left _ ?_), by decide⟩
    unfold Numeral.fractionText
    simp [fraction]
  · cases same : numeral.exponent? with
    | none => exact absurd same exponent
    | some parts =>
        refine ⟨'e', List.mem_append_right _ (List.mem_append_right _ ?_), by decide⟩
        rw [same]
        exact List.mem_cons_self

/-- The text of a finite number denotes no integer. -/
theorem integerValue?_text {x : Double} (magnitude : x.IsMagnitude) (finite : x.isFinite) :
    integerValue? x.text = none := by
  obtain ⟨numeral, text, marked⟩ := Double.exists_numeral magnitude finite
  unfold integerValue?
  rw [← text, if_pos (isDoubleLiteral_text marked)]

theorem numberTree_integerText (value : Nat) : numberTree (integerText value) = .integer value := by
  unfold numberTree
  rw [integerValue?_integerText]

theorem numberTree_text {x : Double} (magnitude : x.IsMagnitude) (finite : x.isFinite) :
    numberTree x.text = .double x := by
  unfold numberTree
  rw [integerValue?_text magnitude finite, Double.readDouble?_text finite]
  rfl

theorem parameterNumber_print (index : Nat) :
    parameterNumber ("?" ++ integerText index) = index := by
  unfold parameterNumber
  rw [parameter_toList, List.drop_succ_cons, List.drop_zero, naturalOfDigits_naturalDigits]

/-- A magnitude is finite or infinite. -/
theorem isInfinite_iff {x : Double} (magnitude : x.IsMagnitude) :
    x.isInfinite = true ↔ ¬x.isFinite = true := by
  unfold Double.isInfinite Double.isFinite
  have small : x.magnitudeCode ≤ Double.infinityCode := by
    rw [magnitude.magnitudeCode]
    exact magnitude
  rw [beq_iff_eq, decide_eq_true_eq]
  omega

/-! ### Integers in range -/

theorem Primary.negative?_of_readable {operand : Primary} (readable : operand.Readable) :
    operand.negative? = none := by
  cases operand with
  | integer value => exact if_neg (Int.not_lt.mpr readable.1)
  | _ => rfl

/-- A readable integer is a natural number in range. -/
theorem Primary.Readable.integer {value : Int} (readable : (Primary.integer value).Readable) :
    ∃ natural : Nat, value = natural ∧ (natural : Int) ≤ Word64.greatest := by
  obtain ⟨natural, rfl⟩ := Int.eq_ofNat_of_zero_le readable.1
  exact ⟨natural, rfl, readable.2⟩

theorem isReadable_of_inRange {value : Nat} (small : (value : Int) ≤ Word64.greatest) :
    IsReadable (integerText value).toList := by
  apply isReadable_integerText
  apply isWritable_of_inRange
  unfold Word64.InRange Word64.least
  omega

/-- The text of the magnitude of the least integer can be read. -/
theorem integer?_leastMagnitude :
    (PrimaryPhrase.number (integerText leastMagnitude)).integer? = some leastMagnitude := by
  have readable : IsReadable (integerText leastMagnitude).toList :=
    isReadable_integerText (isWritable_of_lt (by decide))
  exact PrimaryPhrase.integer?_number.mpr ⟨readable, integerValue?_integerText leastMagnitude⟩

/-- The phrase of a readable value that is no group is in range. -/
theorem Primary.phrase_inRange_of_readable {operand : Primary} (readable : operand.Readable)
    (inner : ∀ nested, operand = .nested nested → nested.phrase.InRange) :
    operand.phrase.InRange := by
  cases operand with
  | integer value =>
      obtain ⟨natural, rfl, small⟩ := Primary.Readable.integer readable
      intro value found
      rw [integerValue?_integerText] at found
      cases found
      exact ⟨isReadable_of_inRange small, small⟩
  | double x =>
      unfold Primary.phrase
      split
      · trivial
      · rename_i isFinite
        have finite : x.isFinite := by
          rw [isInfinite_iff readable, Classical.not_not] at isFinite
          exact isFinite
        intro value found
        rw [integerValue?_text readable finite] at found
        cases found
  | parameter index =>
      change IsReadable (("?" ++ integerText index).toList.drop 1)
      rw [parameter_toList, List.drop_succ_cons, List.drop_zero, ← integerText_toList]
      exact isReadable_integerText readable
  | nested nested => exact inner nested rfl
  | _ => trivial

/-- The phrase of a readable value is not the magnitude of the least integer. -/
theorem Primary.integer?_phrase {operand : Primary} (readable : operand.Readable) :
    ∀ value, operand.phrase.integer? = some value → (value : Int) ≤ Word64.greatest := by
  have fits := Primary.phrase_inRange_of_readable readable
  intro value found
  cases same : operand.phrase with
  | number written =>
      rw [same] at found fits
      refine (fits ?_ value (PrimaryPhrase.integer?_number.mp found).2).2
      rintro nested rfl
      cases same
  | boolean | text | null | parameter | path | group =>
      rw [same] at found
      cases found

theorem leastMagnitude_not_le : ¬(leastMagnitude : Int) ≤ Word64.greatest := by
  decide

mutual

theorem Primary.phrase_inRange : ∀ primary : Primary, primary.Readable →
    primary.Every Unary.Readable → primary.phrase.InRange
  | .nested inner, _, every => Disjunction.phrase_inRange inner every
  | .boolean _, _, _ | .text _, _, _ | .path _, _, _ | .null, _, _ => trivial
  | .integer _, readable, _ | .double _, readable, _ | .parameter _, readable, _ =>
      Primary.phrase_inRange_of_readable readable fun _ impossible => nomatch impossible

theorem Unary.phrase_inRange : ∀ unary : Unary, unary.Every Unary.Readable → unary.phrase.InRange
  | .plain operand, ⟨.inl readable, every⟩ => by
      have here : operand.Readable := readable
      unfold Unary.phrase
      rw [Primary.negative?_of_readable here]
      exact Primary.phrase_inRange operand here every
  | .plain operand, ⟨.inr least, _⟩ => by
      cases least
      exact .inr ⟨rfl, integer?_leastMagnitude⟩
  | .applied sign operand, ⟨.inl readable, every⟩ =>
      .inl (Primary.phrase_inRange operand readable every)

theorem Product.phrase_inRange : ∀ product : Product, product.Every Unary.Readable →
    product.phrase.InRange
  | .single factor, every => Unary.phrase_inRange factor every
  | .pair left _ right, every =>
      ⟨Unary.phrase_inRange left every.1, Unary.phrase_inRange right every.2⟩

theorem Sum.phrase_inRange : ∀ sum : Sum, sum.Every Unary.Readable → sum.phrase.InRange
  | .mk first rest, every =>
      ⟨Product.phrase_inRange first every.1, Sum.restPhrases_inRange rest every.2⟩

theorem Sum.restPhrases_inRange : ∀ rest : List (SumOperator × Product),
    Sum.RestEvery Unary.Readable rest → SumPhrase.RestInRange (Sum.restPhrases rest)
  | [], _ => trivial
  | (_, term) :: rest, every =>
      ⟨Product.phrase_inRange term every.1, Sum.restPhrases_inRange rest every.2⟩

theorem Comparison.phrase_inRange : ∀ comparison : Comparison,
    comparison.Every Unary.Readable → comparison.phrase.InRange
  | .single operand, every => Sum.phrase_inRange operand every
  | .pair left _ right, every =>
      ⟨Sum.phrase_inRange left every.1, Sum.phrase_inRange right every.2⟩

theorem Equality.phrase_inRange : ∀ equality : Equality,
    equality.Every Unary.Readable → equality.phrase.InRange
  | .single operand, every => Comparison.phrase_inRange operand every
  | .pair left _ right, every =>
      ⟨Comparison.phrase_inRange left every.1, Comparison.phrase_inRange right every.2⟩

theorem Conjunction.phrase_inRange : ∀ conjunction : Conjunction,
    conjunction.Every Unary.Readable → conjunction.phrase.InRange
  | .mk first rest, every =>
      ⟨Equality.phrase_inRange first every.1, Conjunction.restPhrases_inRange rest every.2⟩

theorem Conjunction.restPhrases_inRange : ∀ rest : List Equality,
    Conjunction.RestEvery Unary.Readable rest →
      ConjunctionPhrase.RestInRange (Conjunction.restPhrases rest)
  | [], _ => trivial
  | term :: rest, every =>
      ⟨Equality.phrase_inRange term every.1, Conjunction.restPhrases_inRange rest every.2⟩

/-- The phrase of an expression with readable operands is in range. -/
theorem Disjunction.phrase_inRange : ∀ disjunction : Disjunction,
    disjunction.Every Unary.Readable → disjunction.phrase.InRange
  | .mk first rest, every =>
      ⟨Conjunction.phrase_inRange first every.1, Disjunction.restPhrases_inRange rest every.2⟩

theorem Disjunction.restPhrases_inRange : ∀ rest : List Conjunction,
    Disjunction.RestEvery Unary.Readable rest →
      DisjunctionPhrase.RestInRange (Disjunction.restPhrases rest)
  | [], _ => trivial
  | term :: rest, every =>
      ⟨Conjunction.phrase_inRange term every.1, Disjunction.restPhrases_inRange rest every.2⟩

end

/-! ### Finite literals -/

/-- A value that is not an infinite number. -/
def Primary.Finite : Primary → Prop
  | .double value => value.isFinite
  | _ => True

/-- An operand that is not an infinite number. -/
def Unary.Finite (unary : Unary) : Prop :=
  unary.operand.Finite

/-- The phrase of a number is read as the number if it is finite. -/
theorem Primary.tree_phrase_double {x : Double} (magnitude : x.IsMagnitude) :
    (Primary.double x).phrase.tree = .double x ↔ x.isFinite := by
  have exclusive := isInfinite_iff magnitude
  unfold Primary.phrase
  constructor
  · intro same
    refine Classical.byContradiction fun infinite => ?_
    rw [if_pos (exclusive.mpr infinite)] at same
    cases same
  · intro finite
    have noInfinity : ¬x.isInfinite = true := fun infinite => exclusive.mp infinite finite
    rw [if_neg noInfinity]
    exact numberTree_text magnitude finite

theorem Primary.tree_phrase_integer {value : Int} (readable : (Primary.integer value).Readable) :
    (Primary.integer value).phrase.tree = .integer value := by
  obtain ⟨natural, rfl, -⟩ := Primary.Readable.integer readable
  exact numberTree_integerText natural

mutual

theorem Primary.tree_phrase_iff : ∀ primary : Primary, primary.Readable →
    primary.Every Unary.Readable →
      (primary.phrase.tree = primary ↔ primary.Finite ∧ primary.Every Unary.Finite)
  | .boolean _, _, _ | .text _, _, _ | .path _, _, _ | .null, _, _ =>
      iff_of_true rfl ⟨trivial, trivial⟩
  | .parameter index, _, _ =>
      iff_of_true (congrArg Primary.parameter (parameterNumber_print index)) ⟨trivial, trivial⟩
  | .integer _, readable, _ =>
      iff_of_true (Primary.tree_phrase_integer readable) ⟨trivial, trivial⟩
  | .double _, readable, _ =>
      (Primary.tree_phrase_double readable).trans (and_iff_left trivial).symm
  | .nested inner, _, every => by
      have inside := Disjunction.tree_phrase_iff inner every
      simp only [Primary.phrase, PrimaryPhrase.tree, Primary.nested.injEq, inside, Primary.Finite,
        Primary.Every, true_and]

theorem Unary.tree_phrase_iff : ∀ unary : Unary, unary.Every Unary.Readable →
    (unary.phrase.tree = unary ↔ unary.Every Unary.Finite)
  | .plain operand, ⟨.inl readable, every⟩ => by
      have here : operand.Readable := readable
      have inside := Primary.tree_phrase_iff operand here every
      simp only [Unary.phrase, Primary.negative?_of_readable here, UnaryPhrase.tree,
        Unary.plain.injEq, inside, Unary.Every, Unary.Finite, Unary.operand]
  | .plain operand, ⟨.inr least, _⟩ => by
      cases least
      refine iff_of_true ?_ ⟨trivial, trivial⟩
      have written : (Unary.plain (.integer Word64.least)).phrase =
          .applied .minus (.number (integerText leastMagnitude)) := rfl
      rw [written, UnaryPhrase.tree]
      exact if_pos ⟨rfl, integer?_leastMagnitude⟩
  | .applied sign operand, ⟨.inl readable, every⟩ => by
      have here : operand.Readable := readable
      have inside := Primary.tree_phrase_iff operand here every
      -- A readable value is smaller than the magnitude that a minus sign is part of.
      have apart : ¬(sign = .minus ∧ operand.phrase.integer? = some leastMagnitude) := by
        rintro ⟨-, least⟩
        exact leastMagnitude_not_le (Primary.integer?_phrase here _ least)
      simp only [Unary.phrase, UnaryPhrase.tree, if_neg apart, Unary.applied.injEq, inside,
        Unary.Every, Unary.Finite, Unary.operand, true_and]

theorem Product.tree_phrase_iff : ∀ product : Product, product.Every Unary.Readable →
    (product.phrase.tree = product ↔ product.Every Unary.Finite)
  | .single factor, every => by
      simp only [Product.phrase, ProductPhrase.tree, Product.single.injEq, Product.Every,
        Unary.tree_phrase_iff factor every]
  | .pair left _ right, every => by
      simp only [Product.phrase, ProductPhrase.tree, Product.pair.injEq, Product.Every,
        Unary.tree_phrase_iff left every.1, Unary.tree_phrase_iff right every.2, true_and]

theorem Sum.tree_phrase_iff : ∀ sum : Sum, sum.Every Unary.Readable →
    (sum.phrase.tree = sum ↔ sum.Every Unary.Finite)
  | .mk first rest, every => by
      simp only [Sum.phrase, SumPhrase.tree, Sum.mk.injEq, Sum.Every,
        Product.tree_phrase_iff first every.1, Sum.restTrees_restPhrases_iff rest every.2]

theorem Sum.restTrees_restPhrases_iff : ∀ rest : List (SumOperator × Product),
    Sum.RestEvery Unary.Readable rest →
      (SumPhrase.restTrees (Sum.restPhrases rest) = rest ↔ Sum.RestEvery Unary.Finite rest)
  | [], _ => iff_of_true rfl trivial
  | (_, term) :: rest, every => by
      simp only [Sum.restPhrases, SumPhrase.restTrees, List.cons.injEq, Prod.mk.injEq,
        Sum.RestEvery, Product.tree_phrase_iff term every.1,
        Sum.restTrees_restPhrases_iff rest every.2, true_and]

theorem Comparison.tree_phrase_iff : ∀ comparison : Comparison,
    comparison.Every Unary.Readable →
      (comparison.phrase.tree = comparison ↔ comparison.Every Unary.Finite)
  | .single operand, every => by
      simp only [Comparison.phrase, ComparisonPhrase.tree, Comparison.single.injEq,
        Comparison.Every, Sum.tree_phrase_iff operand every]
  | .pair left _ right, every => by
      simp only [Comparison.phrase, ComparisonPhrase.tree, Comparison.pair.injEq,
        Comparison.Every, Sum.tree_phrase_iff left every.1, Sum.tree_phrase_iff right every.2,
        true_and]

theorem Equality.tree_phrase_iff : ∀ equality : Equality, equality.Every Unary.Readable →
    (equality.phrase.tree = equality ↔ equality.Every Unary.Finite)
  | .single operand, every => by
      simp only [Equality.phrase, EqualityPhrase.tree, Equality.single.injEq, Equality.Every,
        Comparison.tree_phrase_iff operand every]
  | .pair left _ right, every => by
      simp only [Equality.phrase, EqualityPhrase.tree, Equality.pair.injEq, Equality.Every,
        Comparison.tree_phrase_iff left every.1, Comparison.tree_phrase_iff right every.2,
        true_and]

theorem Conjunction.tree_phrase_iff : ∀ conjunction : Conjunction,
    conjunction.Every Unary.Readable →
      (conjunction.phrase.tree = conjunction ↔ conjunction.Every Unary.Finite)
  | .mk first rest, every => by
      simp only [Conjunction.phrase, ConjunctionPhrase.tree, Conjunction.mk.injEq,
        Conjunction.Every, Equality.tree_phrase_iff first every.1,
        Conjunction.restTrees_restPhrases_iff rest every.2]

theorem Conjunction.restTrees_restPhrases_iff : ∀ rest : List Equality,
    Conjunction.RestEvery Unary.Readable rest →
      (ConjunctionPhrase.restTrees (Conjunction.restPhrases rest) = rest ↔
        Conjunction.RestEvery Unary.Finite rest)
  | [], _ => iff_of_true rfl trivial
  | term :: rest, every => by
      simp only [Conjunction.restPhrases, ConjunctionPhrase.restTrees, List.cons.injEq,
        Conjunction.RestEvery, Equality.tree_phrase_iff term every.1,
        Conjunction.restTrees_restPhrases_iff rest every.2]

/-- The phrase of an expression is read as the expression just if no literal in it is infinite. -/
theorem Disjunction.tree_phrase_iff : ∀ disjunction : Disjunction,
    disjunction.Every Unary.Readable →
      (disjunction.phrase.tree = disjunction ↔ disjunction.Every Unary.Finite)
  | .mk first rest, every => by
      simp only [Disjunction.phrase, DisjunctionPhrase.tree, Disjunction.mk.injEq,
        Disjunction.Every, Conjunction.tree_phrase_iff first every.1,
        Disjunction.restTrees_restPhrases_iff rest every.2]

theorem Disjunction.restTrees_restPhrases_iff : ∀ rest : List Conjunction,
    Disjunction.RestEvery Unary.Readable rest →
      (DisjunctionPhrase.restTrees (Disjunction.restPhrases rest) = rest ↔
        Disjunction.RestEvery Unary.Finite rest)
  | [], _ => iff_of_true rfl trivial
  | term :: rest, every => by
      simp only [Disjunction.restPhrases, DisjunctionPhrase.restTrees, List.cons.injEq,
        Disjunction.RestEvery, Conjunction.tree_phrase_iff term every.1,
        Disjunction.restTrees_restPhrases_iff rest every.2]

end

end Stencil.Expr
