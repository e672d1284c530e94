/-
Module: Stencil.Proofs.Expr.IntegerArithmetic
Purpose: Expressions on integers of 64 bits: sums, differences, products and negations at any depth
  are wrapped as if once at the end, and quotients and remainders belong together.
Main exports: Arithmetic, Arithmetic.exact, Disjunction.arithmetic?, Arithmetic.wrapped_eq,
  arithmetic_wraps_once, division_law
-/
import Mathlib
import Stencil.Expr.Evaluator
import Stencil.Proofs.Number.WordArithmetic
import Stencil.Proofs.Property.Lockstep

namespace Stencil.Expr

open Evaluation

/-! ### Forms of arithmetic -/

/-- The operators with two operands that the integers modulo 2^64 have. -/
inductive RingOperator where
  | sum (sign : SumOperator)
  | product
deriving Repr

/-- What an operator gives on integers. -/
def RingOperator.apply : RingOperator → Int → Int → Int
  | sum .plus, left, right => left + right
  | sum .minus, left, right => left - right
  | product, left, right => left * right

/-- The operation of the language that an operator stands for. -/
def RingOperator.operation : RingOperator → Value → Value → Except EvaluationError Value
  | sum sign => applySum sign
  | product => applyProduct .times

theorem RingOperator.operation_integers (operator : RingOperator) (left right : Int) :
    operator.operation (.integer left) (.integer right) =
      .ok (.integer (Word64.wrap (operator.apply left right))) := by
  rcases operator with (_ | _) | _ <;> rfl

theorem RingOperator.apply_modEq {modulus : Int} {left left' right right' : Int} :
    ∀ operator : RingOperator, left ≡ left' [ZMOD modulus] → right ≡ right' [ZMOD modulus] →
      operator.apply left right ≡ operator.apply left' right' [ZMOD modulus]
  | sum .plus, one, two => one.add two
  | sum .minus, one, two => one.sub two
  | product, one, two => one.mul two

/-- Sums, differences, products and negations of operands. -/
inductive Arithmetic (α : Type) where
  | operand (leaf : α)
  | negation (inner : Arithmetic α)
  | combination (operator : RingOperator) (left right : Arithmetic α)
deriving Repr

namespace Arithmetic

variable {α β : Type}

def map (f : α → β) : Arithmetic α → Arithmetic β
  | operand leaf => operand (f leaf)
  | negation inner => negation (inner.map f)
  | combination operator left right => combination operator (left.map f) (right.map f)

/-- Work on the operands, from left to right. -/
def mapM {m : Type → Type} [Monad m] (work : α → m β) : Arithmetic α → m (Arithmetic β)
  | operand leaf => do
      let one ← work leaf
      pure (operand one)
  | negation inner => do
      let one ← inner.mapM work
      pure (negation one)
  | combination operator left right => do
      let one ← left.mapM work
      let two ← right.mapM work
      pure (combination operator one two)

/-- All operands have a property. -/
def All (P : α → Prop) : Arithmetic α → Prop
  | operand leaf => P leaf
  | negation inner => inner.All P
  | combination _ left right => left.All P ∧ right.All P

instance (P : α → Prop) [DecidablePred P] : ∀ form : Arithmetic α, Decidable (form.All P)
  | operand leaf => inferInstanceAs (Decidable (P leaf))
  | negation inner => instDecidableAllOfDecidablePred P inner
  | combination _ left right =>
      @instDecidableAnd _ _ (instDecidableAllOfDecidablePred P left)
        (instDecidableAllOfDecidablePred P right)

/-- The value among all integers. -/
def exact : Arithmetic Int → Int
  | operand value => value
  | negation inner => -inner.exact
  | combination operator left right => operator.apply left.exact right.exact

/-- The value with every result wrapped before it is used. -/
def wrapped : Arithmetic Int → Int
  | operand value => value
  | negation inner => Word64.wrap (-inner.wrapped)
  | combination operator left right => Word64.wrap (operator.apply left.wrapped right.wrapped)

theorem wrapped_modEq : ∀ form : Arithmetic Int, form.wrapped ≡ form.exact [ZMOD Word64.modulus]
  | operand _ => Int.ModEq.refl _
  | negation inner => (Word64.wrap_modEq _).trans inner.wrapped_modEq.neg
  | combination operator left right =>
      (Word64.wrap_modEq _).trans (operator.apply_modEq left.wrapped_modEq right.wrapped_modEq)

theorem wrapped_inRange : ∀ {form : Arithmetic Int}, form.All Word64.InRange →
    Word64.InRange form.wrapped
  | operand _, fits => fits
  | negation _, _ | combination _ _ _, _ => Word64.wrap_inRange _

/-- Wrapping every result is wrapping once at the end. -/
theorem wrapped_eq {form : Arithmetic Int} (fits : form.All Word64.InRange) :
    form.wrapped = Word64.wrap form.exact :=
  Word64.eq_wrap_of_modEq (wrapped_inRange fits) form.wrapped_modEq

end Arithmetic

/-! ### Expressions of that form -/

mutual

def Primary.arithmetic? : Primary → Option (Arithmetic Primary)
  | .integer value => some (.operand (.integer value))
  | .parameter index => some (.operand (.parameter index))
  | .path written => some (.operand (.path written))
  | .nested inner => inner.arithmetic?
  | _ => none

def Unary.arithmetic? : Unary → Option (Arithmetic Primary)
  | .plain operand => operand.arithmetic?
  | .applied .minus operand => do
      let inner ← operand.arithmetic?
      some (.negation inner)
  | .applied _ _ => none

def Product.arithmetic? : Product → Option (Arithmetic Primary)
  | .single factor => factor.arithmetic?
  | .pair left .times right => do
      let one ← left.arithmetic?
      let two ← right.arithmetic?
      some (.combination .product one two)
  | .pair _ _ _ => none

def Sum.arithmetic? : Sum → Option (Arithmetic Primary)
  | .mk first rest => do
      let left ← first.arithmetic?
      Sum.restArithmetic? left rest

def Sum.restArithmetic? (left : Arithmetic Primary) :
    List (SumOperator × Product) → Option (Arithmetic Primary)
  | [] => some left
  | (sign, term) :: rest => do
      let right ← term.arithmetic?
      Sum.restArithmetic? (.combination (.sum sign) left right) rest

def Comparison.arithmetic? : Comparison → Option (Arithmetic Primary)
  | .single operand => operand.arithmetic?
  | .pair _ _ _ => none

def Equality.arithmetic? : Equality → Option (Arithmetic Primary)
  | .single operand => operand.arithmetic?
  | .pair _ _ _ => none

def Conjunction.arithmetic? : Conjunction → Option (Arithmetic Primary)
  | .mk first [] => first.arithmetic?
  | .mk _ (_ :: _) => none

/-- The form of an expression that is built from integer literals, parameters and paths with `+`,
`-`, `*`, negation and parentheses only. -/
def Disjunction.arithmetic? : Disjunction → Option (Arithmetic Primary)
  | .mk first [] => first.arithmetic?
  | .mk _ (_ :: _) => none

end

section Evaluate

variable (setting : Setting)

/-- Evaluate a form, each result going through the operation of the language. -/
def Arithmetic.evaluate : Arithmetic Primary → Evaluation Value
  | operand leaf => leaf.evaluate setting
  | negation inner => do
      let value ← inner.evaluate
      ofOperation (applyUnary .minus value)
  | combination operator left right => do
      let one ← left.evaluate
      let two ← right.evaluate
      ofOperation (operator.operation one two)

/-- What an evaluation gives, in its last step. -/
def Arithmetic.result (form : Arithmetic Primary) (world : World) : Except Failure Value :=
  ((form.evaluate setting).run.run world).1

/-- What all parts of a form give in an evaluation from a world, up to the first failure, in the
order in which they are evaluated; the form itself comes last. -/
def Arithmetic.results : Arithmetic Primary → World → List (Except Failure Value)
  | operand leaf, world => [(operand leaf).result setting world]
  | negation inner, world => inner.results world ++ [(negation inner).result setting world]
  | combination operator left right, world =>
      loggedThen (left.evaluate setting) left.results (fun _ => right.results) world ++
        [(combination operator left right).result setting world]

variable {setting} {form : Arithmetic Primary}

mutual

theorem Primary.evaluate_arithmetic : ∀ {tree : Primary} {form : Arithmetic Primary},
    tree.arithmetic? = some form → tree.evaluate setting = form.evaluate setting
  | .nested inner, _, shape => inner.evaluate_arithmetic shape
  | .integer _, _, shape | .parameter _, _, shape | .path _, _, shape => by
      cases shape
      rfl

theorem Unary.evaluate_arithmetic : ∀ {tree : Unary} {form : Arithmetic Primary},
    tree.arithmetic? = some form → tree.evaluate setting = form.evaluate setting
  | .plain operand, _, shape => operand.evaluate_arithmetic shape
  | .applied .minus operand, _, shape => by
      obtain ⟨inner, one, same⟩ := Option.bind_eq_some_iff.mp shape
      cases same
      rw [Unary.evaluate, operand.evaluate_arithmetic one, Arithmetic.evaluate]

theorem Product.evaluate_arithmetic : ∀ {tree : Product} {form : Arithmetic Primary},
    tree.arithmetic? = some form → tree.evaluate setting = form.evaluate setting
  | .single factor, _, shape => factor.evaluate_arithmetic shape
  | .pair left .times right, _, shape => by
      obtain ⟨one, first, shape⟩ := Option.bind_eq_some_iff.mp shape
      obtain ⟨two, second, same⟩ := Option.bind_eq_some_iff.mp shape
      cases same
      rw [Product.evaluate, left.evaluate_arithmetic first, right.evaluate_arithmetic second,
        Arithmetic.evaluate]
      rfl

theorem Sum.evaluate_arithmetic : ∀ {tree : Sum} {form : Arithmetic Primary},
    tree.arithmetic? = some form → tree.evaluate setting = form.evaluate setting
  | .mk first rest, _, shape => by
      obtain ⟨left, one, shape⟩ := Option.bind_eq_some_iff.mp shape
      rw [Sum.evaluate, first.evaluate_arithmetic one, Sum.evaluateRest_arithmetic rest shape]

theorem Sum.evaluateRest_arithmetic : ∀ (rest : List (SumOperator × Product))
    {left form : Arithmetic Primary}, Sum.restArithmetic? left rest = some form →
      (do
        let value ← left.evaluate setting
        Sum.evaluateRest setting value rest) = form.evaluate setting
  | [], _, _, shape => by
      cases shape
      exact bind_pure _
  | (sign, term) :: rest, left, _, shape => by
      obtain ⟨right, one, shape⟩ := Option.bind_eq_some_iff.mp shape
      rw [← Sum.evaluateRest_arithmetic rest shape, Arithmetic.evaluate]
      simp only [bind_assoc, Sum.evaluateRest, term.evaluate_arithmetic one]
      rfl

theorem Comparison.evaluate_arithmetic : ∀ {tree : Comparison} {form : Arithmetic Primary},
    tree.arithmetic? = some form → tree.evaluate setting = form.evaluate setting
  | .single operand, _, shape => operand.evaluate_arithmetic shape

theorem Equality.evaluate_arithmetic : ∀ {tree : Equality} {form : Arithmetic Primary},
    tree.arithmetic? = some form → tree.evaluate setting = form.evaluate setting
  | .single operand, _, shape => operand.evaluate_arithmetic shape

theorem Conjunction.evaluate_arithmetic : ∀ {tree : Conjunction} {form : Arithmetic Primary},
    tree.arithmetic? = some form → tree.evaluate setting = form.evaluate setting
  | .mk first [], _, shape => by
      rw [← first.evaluate_arithmetic shape]
      exact bind_pure _

/-- Evaluating an expression is evaluating its form. -/
theorem Disjunction.evaluate_arithmetic : ∀ {tree : Disjunction} {form : Arithmetic Primary},
    tree.arithmetic? = some form → tree.evaluate setting = form.evaluate setting
  | .mk first [], _, shape => by
      rw [← first.evaluate_arithmetic shape]
      exact bind_pure _

end

end Evaluate

/-! ### Values that wrap -/

/-- Work gives an integer. -/
def Yields (work : Evaluation Value) (before : World) (value : Int) (after : World) : Prop :=
  work.run.run before = (.ok (.integer value), after)

section Yields

variable {work other : Evaluation Value} {before between after : World} {one two result : Int}

theorem Yields.unary {operation : Value → Except EvaluationError Value}
    (first : Yields work before one after)
    (applied : operation (.integer one) = .ok (.integer result)) :
    Yields (do
      let value ← work
      ofOperation (operation value)) before result after := by
  unfold Yields
  rw [run_bind_ok first, applied]
  rfl

theorem Yields.binary {operation : Value → Value → Except EvaluationError Value}
    (first : Yields work before one between) (second : Yields other between two after)
    (applied : operation (.integer one) (.integer two) = .ok (.integer result)) :
    Yields (do
      let left ← work
      let right ← other
      ofOperation (operation left right)) before result after := by
  unfold Yields
  rw [run_bind_ok first, run_bind_ok second, applied]
  rfl

theorem loggedThen_yields {γ : Type} {first : World → List γ} {later : Value → World → List γ}
    (yields : Yields work before one after) :
    loggedThen work first later before = first before ++ later (.integer one) after := by
  unfold Yields at yields
  unfold loggedThen
  rw [yields]

end Yields

/-- A result is an integer that fits into 64 bits. -/
def FitsWord (result : Except Failure Value) : Prop :=
  ∃ value, result = .ok (.integer value) ∧ Word64.InRange value

section Wrapping

variable {setting : Setting}

theorem Yields.fitsWord {form : Arithmetic Primary} {value : Int} {world after : World}
    (yields : Yields (form.evaluate setting) world value after) (fits : Word64.InRange value) :
    FitsWord (form.result setting world) :=
  ⟨value, congrArg Prod.fst yields, fits⟩

/-- If the operands of a form give integers, one after the other, so does the form, and each of its
parts gives an integer of 64 bits. -/
theorem Arithmetic.evaluate_wrapped : ∀ {form : Arithmetic Primary} {filled : Arithmetic Int}
    {world after : World},
    (form.mapM (Primary.evaluate setting)).run.run world = (.ok (filled.map .integer), after) →
      filled.All Word64.InRange →
        Yields (form.evaluate setting) world filled.wrapped after ∧
          ∀ part ∈ form.results setting world, FitsWord part
  | .operand leaf, filled, world, after, ran, fits => by
      obtain ⟨value, between, one, ended⟩ := exists_of_run_bind ran
      cases filled with
      | operand integer =>
          cases ended
          have yields : Yields ((operand leaf).evaluate setting) world integer after := one
          exact ⟨yields, List.forall_mem_singleton.mpr (yields.fitsWord fits)⟩
      | negation | combination => cases ended
  | .negation inner, filled, world, after, ran, fits => by
      obtain ⟨value, between, one, ended⟩ := exists_of_run_bind ran
      cases filled with
      | negation filled =>
          cases ended
          obtain ⟨here, parts⟩ := inner.evaluate_wrapped one fits
          have yields : Yields ((negation inner).evaluate setting) world
              (Word64.wrap (-filled.wrapped)) after := here.unary rfl
          refine ⟨yields, List.forall_mem_append.mpr ⟨parts, List.forall_mem_singleton.mpr ?_⟩⟩
          exact yields.fitsWord (Word64.wrap_inRange _)
      | operand | combination => cases ended
  | .combination operator left right, filled, world, after, ran, fits => by
      obtain ⟨value, between, one, ran⟩ := exists_of_run_bind ran
      obtain ⟨value', between', two, ended⟩ := exists_of_run_bind ran
      cases filled with
      | combination operator first second =>
          cases ended
          obtain ⟨here, parts⟩ := left.evaluate_wrapped one fits.1
          obtain ⟨there, parts'⟩ := right.evaluate_wrapped two fits.2
          have yields : Yields ((combination operator left right).evaluate setting) world
              (Word64.wrap (operator.apply first.wrapped second.wrapped)) after :=
            here.binary there (operator.operation_integers _ _)
          rw [results, loggedThen_yields here]
          refine ⟨yields, List.forall_mem_append.mpr ⟨List.forall_mem_append.mpr ⟨parts, parts'⟩,
            List.forall_mem_singleton.mpr ?_⟩⟩
          exact yields.fitsWord (Word64.wrap_inRange _)
      | operand | negation => cases ended

/-- If the operands of an expression of `+`, `-`, `*`, negation and parentheses give integers of 64
bits, one after the other, the expression gives the one integer of 64 bits that is congruent modulo
2^64 to its value among all integers.  And it is evaluated as its form is, whose parts all give
integers of 64 bits. -/
theorem arithmetic_wraps_once {expression : Expression} {form : Arithmetic Primary}
    {filled : Arithmetic Int} {world after : World}
    (shape : expression.root.arithmetic? = some form)
    (ran : (form.mapM (Primary.evaluate setting)).run.run world =
      (.ok (filled.map .integer), after))
    (fits : filled.All Word64.InRange) :
    (∃ result, Yields (expression.evaluate setting) world result after ∧
      (Word64.InRange result ∧ result ≡ filled.exact [ZMOD Word64.modulus]) ∧
      ∀ other, Word64.InRange other ∧ other ≡ filled.exact [ZMOD Word64.modulus] →
        other = result) ∧
    expression.evaluate setting = form.evaluate setting ∧
    ∀ part ∈ form.results setting world, FitsWord part := by
  have same : expression.evaluate setting = form.evaluate setting :=
    expression.root.evaluate_arithmetic shape
  obtain ⟨yields, parts⟩ := Arithmetic.evaluate_wrapped ran fits
  refine ⟨⟨filled.wrapped, same ▸ yields,
    ⟨Arithmetic.wrapped_inRange fits, filled.wrapped_modEq⟩, ?_⟩, same, parts⟩
  rintro other ⟨inRange, congruent⟩
  rw [Arithmetic.wrapped_eq fits]
  exact Word64.eq_wrap_of_modEq inRange congruent

/-- The least integer as a literal and as a variable: the negation wraps, and so do the product and
the sum. -/
theorem arithmetic_wraps_once_least :
    ∃ expression form after,
      Expression.parse "-low + ?0 * (-9223372036854775808 - 1)" = .ok expression ∧
      expression.root.arithmetic? = some form ∧
      Yields (expression.evaluate ⟨Resolver.standard 0,
        .value (.map [(.text "low", .integer Word64.least)]), [.integer 3]⟩) {} (-3) after := by
  let root : Disjunction := .mk (.mk (.single (.single (.mk (.single (.applied .minus
    (.path "low"))) [(.plus, .pair (.plain (.parameter 0)) .times (.plain (.nested (.mk (.mk
      (.single (.single (.mk (.single (.plain (.integer Word64.least))) [(.minus, .single (.plain
        (.integer 1)))]))) []) []))))]))) []) []
  let setting : Setting :=
    ⟨Resolver.standard 0, .value (.map [(.text "low", .integer Word64.least)]), [.integer 3]⟩
  let form : Arithmetic Primary :=
    .combination (.sum .plus) (.negation (.operand (.path "low")))
      (.combination .product (.operand (.parameter 0))
        (.combination (.sum .minus) (.operand (.integer Word64.least)) (.operand (.integer 1))))
  let filled : Arithmetic Int :=
    .combination (.sum .plus) (.negation (.operand Word64.least))
      (.combination .product (.operand 3)
        (.combination (.sum .minus) (.operand Word64.least) (.operand 1)))
  have read : Expression.parse "-low + ?0 * (-9223372036854775808 - 1)" =
      .ok ⟨root, "-low + ?0 * (-9223372036854775808 - 1)"⟩ := by
    cbv
  have ran : ((form.mapM (Primary.evaluate setting)).run.run {}).1 = .ok (filled.map .integer) :=
    rfl
  obtain ⟨⟨result, yields, -, unique⟩, -⟩ := @arithmetic_wraps_once setting ⟨root, _⟩ form filled
    {} _ rfl (Prod.ext ran rfl) (by decide)
  obtain rfl : -3 = result := unique (-3) ⟨by decide, by decide⟩
  exact ⟨_, form, _, read, rfl, yields⟩

end Wrapping

/-! ### Quotients and remainders -/

/-- A sum as a whole expression. -/
def Sum.root (sum : Sum) : Disjunction :=
  .mk (.mk (.single (.single sum)) []) []

/-- A value, or a product, quotient or remainder, as a whole expression. -/
def Product.root (product : Product) : Disjunction :=
  (Sum.mk product []).root

/-- The expression `(left * right) + rest`. -/
def productAndRest (left right rest : Unary) : Disjunction :=
  (Sum.mk (.single (.plain (.nested (Product.pair left .times right).root)))
    [(.plus, .single rest)]).root

section Division

variable {setting : Setting}

theorem Sum.evaluate_root (sum : Sum) : sum.root.evaluate setting = sum.evaluate setting := by
  simp only [Sum.root, Disjunction.evaluate, Disjunction.evaluateRest, Conjunction.evaluate,
    Conjunction.evaluateRest, Equality.evaluate, Comparison.evaluate, bind_pure]

theorem Product.evaluate_root (product : Product) :
    product.root.evaluate setting = product.evaluate setting := by
  simp only [Product.root, Sum.evaluate_root, Sum.evaluate, Sum.evaluateRest, bind_pure]

variable {left right : Unary} {before between after : World} {dividend divisor : Int}

theorem Yields.product {sign : ProductOperator} {result : Int}
    (one : Yields (left.evaluate setting) before dividend between)
    (two : Yields (right.evaluate setting) between divisor after)
    (applied : multiplyIntegers sign dividend divisor = .ok (.integer result)) :
    Yields ((Product.pair left sign right).root.evaluate setting) before result after := by
  rw [Product.evaluate_root, Product.evaluate]
  exact one.binary two applied

/-- A product and what is added to it are wrapped one after the other. -/
theorem Yields.productAndRest {rest : Unary} {between' : World} {remainder : Int}
    (one : Yields (left.evaluate setting) before dividend between)
    (two : Yields (right.evaluate setting) between divisor between')
    (three : Yields (rest.evaluate setting) between' remainder after) :
    Yields ((productAndRest left right rest).evaluate setting) before
      (Word64.wrap (Word64.wrap (dividend * divisor) + remainder)) after := by
  have product : Yields ((Product.pair left .times right).root.evaluate setting) before
      (Word64.wrap (dividend * divisor)) between' := one.product two rfl
  rw [Expr.productAndRest, Sum.evaluate_root]
  simp only [Sum.evaluate, Sum.evaluateRest, bind_pure]
  exact product.binary three rfl

/-- Nothing is divided by zero. -/
theorem division_by_zero {sign : ProductOperator} (divides : sign ≠ .times)
    (one : Yields (left.evaluate setting) before dividend between)
    (two : Yields (right.evaluate setting) between 0 after) :
    ((Product.pair left sign right).root.evaluate setting).run.run before =
      (.error (.operation .integerDivisionByZero), after) := by
  rw [Product.evaluate_root, Product.evaluate, run_bind_ok one, run_bind_ok two]
  cases sign with
  | times => exact absurd rfl divides
  | divide | modulo => rfl

/-- An integer of 64 bits is not divided by zero, and by another integer it has a quotient and a
remainder of 64 bits.  The quotient is rounded toward zero, but for the least
integer divided by -1, which gives the least integer again.  The remainder is smaller than the
divisor, and zero or of the sign of the dividend.  And quotient times divisor plus remainder, as an
expression on any operands that give these integers, gives the dividend. -/
theorem division_law (one : Yields (left.evaluate setting) before dividend between)
    (two : Yields (right.evaluate setting) between divisor after)
    (fits : Word64.InRange dividend) :
    (divisor = 0 → ∀ sign, sign = .divide ∨ sign = .modulo →
      ((Product.pair left sign right).root.evaluate setting).run.run before =
        (.error (.operation .integerDivisionByZero), after)) ∧
    (divisor ≠ 0 → ∃ quotient remainder,
      Yields ((Product.pair left .divide right).root.evaluate setting) before quotient after ∧
      Yields ((Product.pair left .modulo right).root.evaluate setting) before remainder after ∧
      Word64.InRange quotient ∧ Word64.InRange remainder ∧
      (¬(dividend = Word64.least ∧ divisor = -1) →
        quotient = Word64.roundTowardZero (dividend / divisor)) ∧
      (dividend = Word64.least ∧ divisor = -1 → quotient = Word64.least) ∧
      |remainder| < |divisor| ∧ (remainder = 0 ∨ remainder.sign = dividend.sign) ∧
      ∀ (setting : Setting) (factor factor' rest : Unary) (world world' world'' last : World),
        Yields (factor.evaluate setting) world quotient world' →
        Yields (factor'.evaluate setting) world' divisor world'' →
        Yields (rest.evaluate setting) world'' remainder last →
          Yields ((productAndRest factor factor' rest).evaluate setting) world dividend last) := by
  refine ⟨?_, fun nonzero => ?_⟩
  · rintro rfl sign divides
    refine division_by_zero ?_ one two
    rintro rfl
    simp at divides
  · refine ⟨Word64.quotient dividend divisor, Word64.remainder dividend divisor,
      one.product two (if_neg nonzero), one.product two (if_neg nonzero), Word64.wrap_inRange _,
      Word64.remainder_inRange fits divisor, Word64.quotient_eq_of_inRange fits, ?_,
      Word64.abs_remainder_lt dividend nonzero, Word64.remainder_sign dividend divisor, ?_⟩
    · rintro ⟨rfl, rfl⟩
      rfl
    · intro setting factor factor' rest world world' world'' last first second third
      have sum := first.productAndRest second third
      rwa [Word64.wrap_quotient_mul_add_remainder fits] at sum

/-- The quotient that wraps: the least integer by -1. -/
theorem division_law_least :
    ∃ quotient remainder,
      Yields ((Product.pair (.plain (.parameter 0)) .divide (.plain (.parameter 1))).root.evaluate
        ⟨Resolver.standard 0, .value .null, [.integer Word64.least, .integer (-1)]⟩) {}
        quotient {} ∧
      Yields ((Product.pair (.plain (.parameter 0)) .modulo (.plain (.parameter 1))).root.evaluate
        ⟨Resolver.standard 0, .value .null, [.integer Word64.least, .integer (-1)]⟩) {}
        remainder {} ∧
      quotient = Word64.least ∧ remainder = 0 ∧
      Yields ((productAndRest (.plain (.parameter 0)) (.plain (.parameter 1))
        (.plain (.parameter 2))).evaluate ⟨Resolver.standard 0, .value .null,
          [.integer Word64.least, .integer (-1), .integer 0]⟩) {} Word64.least {} := by
  have one : Yields (Unary.evaluate ⟨Resolver.standard 0, .value .null, [.integer Word64.least,
      .integer (-1)]⟩ (.plain (.parameter 0))) {} Word64.least {} := rfl
  have two : Yields (Unary.evaluate ⟨Resolver.standard 0, .value .null, [.integer Word64.least,
      .integer (-1)]⟩ (.plain (.parameter 1))) {} (-1) {} := rfl
  obtain ⟨quotient, remainder, divided, left, -, -, -, wraps, small, -, law⟩ :=
    (division_law one two (by decide)).2 (by decide)
  obtain rfl := wraps ⟨rfl, rfl⟩
  obtain rfl : remainder = 0 := Int.abs_lt_one_iff.mp small
  exact ⟨_, _, divided, left, rfl, rfl, law _ _ _ _ _ _ _ _ rfl rfl rfl⟩

end Division

end Stencil.Expr
