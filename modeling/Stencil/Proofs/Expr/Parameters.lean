/-
Module: Stencil.Proofs.Expr.Parameters
Purpose: An expression on parameters is evaluated as the expression that has variables in their
  place, on a mapping in which the variables stand for the parameters.
Main exports: Disjunction.withVariables, withParameters, parameters_interchangeable
-/
import Mathlib
import Stencil.Expr.Evaluator
import Stencil.Proofs.Expr.Operands
import Stencil.Proofs.Expr.Paths
import Stencil.Proofs.Property.Transparency
import Stencil.Proofs.Property.Twins

namespace Stencil

/-! ### Mappings with variables -/

namespace Value

theorem get?_append (one two : List (Value × Value)) (key : String) :
    get? (one ++ two) key = (get? one key).or (get? two key) := by
  induction one with
  | nil => rfl
  | cons entry rest ih =>
      obtain ⟨name, value⟩ := entry
      cases name with
      | text name =>
          rw [List.cons_append, get?, get?]
          split
          · rfl
          · exact ih
      | _ => exact ih

end Value

namespace Expr

/-- A mapping with the parameters behind its entries, each under its name. -/
def withParameters (entries : List (Value × Value)) (names : List String)
    (parameters : List Value) : List (Value × Value) :=
  entries ++ (names.zip parameters).map fun entry => (.text entry.1, entry.2)

theorem lookup_zip {names : List String} {values : List Value} (distinct : names.Nodup) {index : Nat}
    {name : String} {value : Value} (named : names[index]? = some name)
    (given : values[index]? = some value) : (names.zip values).lookup name = some value := by
  induction names generalizing index values with
  | nil => cases named
  | cons first names ih =>
      cases values with
      | nil => cases given
      | cons here values =>
          obtain ⟨unlike, distinct⟩ := List.nodup_cons.mp distinct
          rw [List.zip_cons_cons, List.lookup_cons]
          cases index with
          | zero =>
              cases named
              cases given
              rw [beq_self_eq_true]
          | succ index =>
              have later : name ∈ names := List.mem_of_getElem? named
              have other : (name == first) = false := by
                rw [beq_eq_false_iff_ne]
                rintro rfl
                exact unlike later
              rw [other]
              exact ih distinct named given

theorem lookup_zip_of_notMem {names : List String} {values : List Value} {name : String}
    (free : name ∉ names) : (names.zip values).lookup name = none := by
  rw [List.lookup_eq_none_iff]
  rintro ⟨other, value⟩ member
  rw [bne_iff_ne]
  rintro rfl
  exact free (List.of_mem_zip member).1

section Lookup

variable {entries : List (Value × Value)} {names : List String} {parameters : List Value}

/-- A name that is no key of the mapping has the parameter. -/
theorem get?_withParameters {index : Nat} {name : String} {value : Value} (distinct : names.Nodup)
    (named : names[index]? = some name) (given : parameters[index]? = some value)
    (free : Value.get? entries name = none) :
    Value.get? (withParameters entries names parameters) name = some value := by
  rw [withParameters, Value.get?_append, free, Option.none_or, get?_ofAttributes]
  exact lookup_zip distinct named given

/-- All other keys are left as they are. -/
theorem get?_withParameters_of_notMem {key : String} (other : key ∉ names) :
    Value.get? (withParameters entries names parameters) key = Value.get? entries key := by
  rw [withParameters, Value.get?_append, get?_ofAttributes, lookup_zip_of_notMem other,
    Option.or_none]

end Lookup

/-! ### Variables for parameters -/

mutual

def Primary.withVariables (names : List String) : Primary → Primary
  | .parameter index =>
      match names[index]? with
      | some name => .path name
      | none => .parameter index
  | .nested inner => .nested (inner.withVariables names)
  | other => other

def Unary.withVariables (names : List String) : Unary → Unary
  | .plain operand => .plain (operand.withVariables names)
  | .applied sign operand => .applied sign (operand.withVariables names)

def Product.withVariables (names : List String) : Product → Product
  | .single factor => .single (factor.withVariables names)
  | .pair left sign right => .pair (left.withVariables names) sign (right.withVariables names)

def Sum.withVariables (names : List String) : Sum → Sum
  | .mk first rest => .mk (first.withVariables names) (Sum.restWithVariables names rest)

def Sum.restWithVariables (names : List String) :
    List (SumOperator × Product) → List (SumOperator × Product)
  | [] => []
  | (sign, term) :: rest => (sign, term.withVariables names) :: Sum.restWithVariables names rest

def Comparison.withVariables (names : List String) : Comparison → Comparison
  | .single operand => .single (operand.withVariables names)
  | .pair left sign right => .pair (left.withVariables names) sign (right.withVariables names)

def Equality.withVariables (names : List String) : Equality → Equality
  | .single operand => .single (operand.withVariables names)
  | .pair left sign right => .pair (left.withVariables names) sign (right.withVariables names)

def Conjunction.withVariables (names : List String) : Conjunction → Conjunction
  | .mk first rest => .mk (first.withVariables names) (Conjunction.restWithVariables names rest)

def Conjunction.restWithVariables (names : List String) : List Equality → List Equality
  | [] => []
  | term :: rest => term.withVariables names :: Conjunction.restWithVariables names rest

/-- An expression with the names given in place of its parameters. -/
def Disjunction.withVariables (names : List String) : Disjunction → Disjunction
  | .mk first rest => .mk (first.withVariables names) (Disjunction.restWithVariables names rest)

def Disjunction.restWithVariables (names : List String) : List Conjunction → List Conjunction
  | [] => []
  | term :: rest => term.withVariables names :: Disjunction.restWithVariables names rest

end

/-- No path starts with one of the names. -/
def Avoids (names : List String) (unary : Unary) : Prop :=
  ∀ written, unary.operand = .path written → pathHead (pathBase written) ∉ names

/-- Two settings in which names have the values that parameters have, and all else is the same. -/
structure Interchange (names : List String) (setting setting' : Setting) : Prop where
  path : ∀ written, pathHead (pathBase written) ∉ names →
    evaluatePath setting' written = evaluatePath setting written
  parameter : ∀ index name, names[index]? = some name →
    evaluatePath setting' name = evaluateParameter setting index

section Trees

variable {names : List String} {setting setting' : Setting}

mutual

theorem Primary.evaluate_withVariables (interchange : Interchange names setting setting') :
    ∀ (tree : Primary) (unary : Unary), Avoids names unary → unary.operand = tree →
      tree.Every (Avoids names) → tree.parameterCount ≤ names.length →
        (tree.withVariables names).evaluate setting' = tree.evaluate setting
  | .parameter index, _, _, _, _, known => by
      have named : names[index]? = some names[index] := List.getElem?_eq_getElem known
      rw [Primary.withVariables, named]
      exact interchange.parameter index _ named
  | .path written, _, avoids, same, _, _ => interchange.path written (avoids written same)
  | .nested inner, _, _, _, every, known => inner.evaluate_withVariables interchange every known
  | .boolean _, _, _, _, _, _ | .integer _, _, _, _, _, _ | .double _, _, _, _, _, _
  | .text _, _, _, _, _, _ | .null, _, _, _, _, _ => rfl

theorem Unary.evaluate_withVariables (interchange : Interchange names setting setting') :
    ∀ tree : Unary, tree.Every (Avoids names) → tree.parameterCount ≤ names.length →
      (tree.withVariables names).evaluate setting' = tree.evaluate setting
  | .plain operand, every, known =>
      operand.evaluate_withVariables interchange (.plain operand) every.1 rfl every.2 known
  | .applied sign operand, every, known => by
      rw [Unary.withVariables, Unary.evaluate, Unary.evaluate, operand.evaluate_withVariables
        interchange (.applied sign operand) every.1 rfl every.2 known]

theorem Product.evaluate_withVariables (interchange : Interchange names setting setting') :
    ∀ tree : Product, tree.Every (Avoids names) → tree.parameterCount ≤ names.length →
      (tree.withVariables names).evaluate setting' = tree.evaluate setting
  | .single factor, every, known => factor.evaluate_withVariables interchange every known
  | .pair left sign right, every, known => by
      have within := Nat.max_le.mp known
      rw [Product.withVariables, Product.evaluate, Product.evaluate,
        left.evaluate_withVariables interchange every.1 within.1,
        right.evaluate_withVariables interchange every.2 within.2]

theorem Sum.evaluate_withVariables (interchange : Interchange names setting setting') :
    ∀ tree : Sum, tree.Every (Avoids names) → tree.parameterCount ≤ names.length →
      (tree.withVariables names).evaluate setting' = tree.evaluate setting
  | .mk first rest, every, known => by
      have within := Nat.max_le.mp known
      have later := Sum.evaluateRest_withVariables interchange rest every.2 within.2
      simp only [Sum.withVariables, Sum.evaluate,
        first.evaluate_withVariables interchange every.1 within.1, later]

theorem Sum.evaluateRest_withVariables (interchange : Interchange names setting setting') :
    ∀ rest : List (SumOperator × Product), Sum.RestEvery (Avoids names) rest →
      Sum.restParameterCount rest ≤ names.length → ∀ value,
        Sum.evaluateRest setting' value (Sum.restWithVariables names rest) =
          Sum.evaluateRest setting value rest
  | [], _, _, _ => rfl
  | (sign, term) :: rest, every, known, value => by
      have within := Nat.max_le.mp known
      have later := Sum.evaluateRest_withVariables interchange rest every.2 within.2
      simp only [Sum.restWithVariables, Sum.evaluateRest,
        term.evaluate_withVariables interchange every.1 within.1, later]

theorem Comparison.evaluate_withVariables (interchange : Interchange names setting setting') :
    ∀ tree : Comparison, tree.Every (Avoids names) → tree.parameterCount ≤ names.length →
      (tree.withVariables names).evaluate setting' = tree.evaluate setting
  | .single operand, every, known => operand.evaluate_withVariables interchange every known
  | .pair left sign right, every, known => by
      have within := Nat.max_le.mp known
      rw [Comparison.withVariables, Comparison.evaluate, Comparison.evaluate,
        left.evaluate_withVariables interchange every.1 within.1,
        right.evaluate_withVariables interchange every.2 within.2]

theorem Equality.evaluate_withVariables (interchange : Interchange names setting setting') :
    ∀ tree : Equality, tree.Every (Avoids names) → tree.parameterCount ≤ names.length →
      (tree.withVariables names).evaluate setting' = tree.evaluate setting
  | .single operand, every, known => operand.evaluate_withVariables interchange every known
  | .pair left sign right, every, known => by
      have within := Nat.max_le.mp known
      rw [Equality.withVariables, Equality.evaluate, Equality.evaluate,
        left.evaluate_withVariables interchange every.1 within.1,
        right.evaluate_withVariables interchange every.2 within.2]

theorem Conjunction.evaluate_withVariables (interchange : Interchange names setting setting') :
    ∀ tree : Conjunction, tree.Every (Avoids names) → tree.parameterCount ≤ names.length →
      (tree.withVariables names).evaluate setting' = tree.evaluate setting
  | .mk first rest, every, known => by
      have within := Nat.max_le.mp known
      have later := Conjunction.evaluateRest_withVariables interchange rest every.2 within.2
      simp only [Conjunction.withVariables, Conjunction.evaluate,
        first.evaluate_withVariables interchange every.1 within.1, later]

theorem Conjunction.evaluateRest_withVariables (interchange : Interchange names setting setting') :
    ∀ rest : List Equality, Conjunction.RestEvery (Avoids names) rest →
      Conjunction.restParameterCount rest ≤ names.length → ∀ value,
        Conjunction.evaluateRest setting' value (Conjunction.restWithVariables names rest) =
          Conjunction.evaluateRest setting value rest
  | [], _, _, _ => rfl
  | term :: rest, every, known, value => by
      have within := Nat.max_le.mp known
      have later := Conjunction.evaluateRest_withVariables interchange rest every.2 within.2
      simp only [Conjunction.restWithVariables, Conjunction.evaluateRest,
        term.evaluate_withVariables interchange every.1 within.1, later]

/-- With names in place of its parameters an expression is evaluated as before, where the names have
the values of the parameters. -/
theorem Disjunction.evaluate_withVariables (interchange : Interchange names setting setting') :
    ∀ tree : Disjunction, tree.Every (Avoids names) → tree.parameterCount ≤ names.length →
      (tree.withVariables names).evaluate setting' = tree.evaluate setting
  | .mk first rest, every, known => by
      have within := Nat.max_le.mp known
      have later := Disjunction.evaluateRest_withVariables interchange rest every.2 within.2
      simp only [Disjunction.withVariables, Disjunction.evaluate,
        first.evaluate_withVariables interchange every.1 within.1, later]

theorem Disjunction.evaluateRest_withVariables (interchange : Interchange names setting setting') :
    ∀ rest : List Conjunction, Disjunction.RestEvery (Avoids names) rest →
      Disjunction.restParameterCount rest ≤ names.length → ∀ value,
        Disjunction.evaluateRest setting' value (Disjunction.restWithVariables names rest) =
          Disjunction.evaluateRest setting value rest
  | [], _, _, _ => rfl
  | term :: rest, every, known, value => by
      have within := Nat.max_le.mp known
      have later := Disjunction.evaluateRest_withVariables interchange rest every.2 within.2
      simp only [Disjunction.restWithVariables, Disjunction.evaluateRest,
        term.evaluate_withVariables interchange every.1 within.1, later]

end

end Trees

/-! ### The usual resolver -/

theorem withoutSegment?_of_notMem {path : List Char} (noPoint : '.' ∉ path) (name : List Char) :
    withoutSegment? path name = none := by
  unfold withoutSegment?
  simp only
  split
  · rename_i fits
    simp only [Bool.and_eq_true, beq_iff_eq] at fits
    refine absurd ?_ noPoint
    rw [← fits.2]
    exact List.mem_append_right _ List.mem_cons_self
  · rfl

/-- A name of one segment has no point. -/
theorem point_notMem {name : String} (simple : SimpleName name) : '.' ∉ name.toList := by
  intro member
  obtain ⟨front, rest, parts⟩ := List.append_of_mem member
  have single := congrArg List.length simple.2
  rw [pathSegments, parts, List.splitOn_append_cons_self, List.length_map, List.length_append] at single
  have front_some := List.length_pos_of_ne_nil (List.splitOn_ne_nil '.' front)
  have rest_some := List.length_pos_of_ne_nil (List.splitOn_ne_nil '.' rest)
  simp only [List.length_singleton] at single
  omega

/-- A name of one segment asks for no conversion. -/
theorem splitConversion_simple {name : String} (simple : SimpleName name) :
    splitConversion name = (name, none) := by
  unfold splitConversion
  simp only [withoutSegment?_of_notMem (point_notMem simple), Option.map_none, Option.none_or,
    Option.getD_none]

section Standard

variable {cache : Nat} {entries : List (Value × Value)} {names : List String}
  {parameters : List Value}

/-- A variable is its value, as far as it is a value of the language. -/
theorem evaluatePath_simple {name : String} {value : Value} (simple : SimpleName name)
    (found : Value.get? entries name = some value) (others : List Value) :
    evaluatePath ⟨Resolver.standard cache, .value (.map entries), others⟩ name =
      Evaluation.ofResult value.canonical := by
  have looked : (Resolver.standard cache).getValue (.value (.map entries)) name = pure value := by
    rw [getValue_value, standard_single rfl simple.1 simple.2, segments_map simple.1, found]
    rfl
  unfold evaluatePath
  rw [splitConversion_simple simple]
  simp only [looked]
  rfl

theorem interchange_withParameters (distinct : names.Nodup) (matched : names.length = parameters.length)
    (simple : ∀ name ∈ names, SimpleName name)
    (free : ∀ name ∈ names, Value.get? entries name = none) :
    Interchange names ⟨Resolver.standard cache, .value (.map entries), parameters⟩
      ⟨Resolver.standard cache, .value (.map (withParameters entries names parameters)), []⟩ where
  path written avoids := by
    have same : (Resolver.standard cache).getValue
          (.value (.map (withParameters entries names parameters))) (splitConversion written).1 =
        (Resolver.standard cache).getValue (.value (.map entries)) (splitConversion written).1 :=
      getValue_map (get?_withParameters_of_notMem avoids)
    unfold evaluatePath
    simp only [same]
    rfl
  parameter index name named := by
    have member := List.mem_of_getElem? named
    have known : index < parameters.length := by
      rw [← matched]
      exact (List.getElem?_eq_some_iff.mp named).1
    have given := List.getElem?_eq_getElem known
    rw [evaluatePath_simple (simple name member)
      (get?_withParameters distinct named given (free name member))]
    unfold evaluateParameter
    simp only [given]

/-- Parameters and variables are interchangeable: an expression on enough parameters does the same
as the expression with different simple names in place of its parameters, which stand neither at the
start of a path in it nor in the mapping, on the mapping with the parameters under these names. -/
theorem parameters_interchangeable {expression : Expression} (distinct : names.Nodup)
    (matched : names.length = parameters.length)
    (known : expression.parameterCount ≤ parameters.length)
    (simple : ∀ name ∈ names, SimpleName name)
    (avoids : expression.root.Every (Avoids names))
    (free : ∀ name ∈ names, Value.get? entries name = none) :
    (Expression.evaluate
        ⟨Resolver.standard cache, .value (.map (withParameters entries names parameters)), []⟩
        { expression with root := expression.root.withVariables names }) =
      expression.evaluate ⟨Resolver.standard cache, .value (.map entries), parameters⟩ :=
  expression.root.evaluate_withVariables
    (interchange_withParameters distinct matched simple free) avoids (matched ▸ known)

/-- A parameter that is no value of the language is refused as a variable too, after what stands in
front of it. -/
theorem parameters_interchangeable_refused :
    ∃ expression, Expression.parse "a * ?1 + ?0" = .ok expression ∧
      ((Expression.evaluate ⟨Resolver.standard 0, .value (.map (withParameters
          [(.text "a", .integer 2)] ["x", "y"] [.map [], .integer 3])), []⟩
        { expression with root := expression.root.withVariables ["x", "y"] }).run.run {}).1 =
      .error (.operation (.invalidType "builtins.dict")) := by
  let root : Disjunction := .mk (.mk (.single (.single (.mk (.pair (.plain (.path "a")) .times
    (.plain (.parameter 1))) [(.plus, .single (.plain (.parameter 0)))]))) []) []
  have read : Expression.parse "a * ?1 + ?0" = .ok ⟨root, "a * ?1 + ?0"⟩ := by cbv
  have simple : ∀ name ∈ ["x", "y"], SimpleName name :=
    List.forall_mem_cons.mpr ⟨⟨by decide, by decide⟩,
      List.forall_mem_singleton.mpr ⟨by decide, by decide⟩⟩
  have avoids : root.Every (Avoids ["x", "y"]) := by
    have start : pathHead (pathBase "a") = "a" := by decide
    simp [root, Disjunction.Every, Disjunction.RestEvery, Conjunction.Every,
      Conjunction.RestEvery, Equality.Every, Comparison.Every, Sum.Every, Sum.RestEvery,
      Product.Every, Unary.Every, Primary.Every, Avoids, Unary.operand, start]
  have free : ∀ name ∈ ["x", "y"], Value.get? [(.text "a", .integer 2)] name = none := by
    simp [Value.get?]
  have same := @parameters_interchangeable 0 [(.text "a", .integer 2)] ["x", "y"]
    [.map [], .integer 3] ⟨root, "a * ?1 + ?0"⟩ (by decide) rfl (by decide) simple avoids free
  refine ⟨⟨root, "a * ?1 + ?0"⟩, read, ?_⟩
  rw [same]
  rfl

end Standard

end Expr

end Stencil
