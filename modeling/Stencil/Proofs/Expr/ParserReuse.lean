/-
Module: Stencil.Proofs.Expr.ParserReuse
Purpose: A parser that is used again reads every text as a fresh one does, and counts its parameters.
Main exports: Parser.Inside, Follows, Reads, disjunction_reads, Parser.parse_result,
  parseAll_independent
-/
import Stencil.Expr.Descent
import Stencil.Proofs.Expr.ParameterIndexes
import Stencil.Proofs.Expr.Prediction

namespace Stencil.Expr

/-! ### The fields of a parser and the lexemes that are left -/

namespace Parser

/-- Between two steps on a text: the last lexeme is the end and has not been passed, and the greatest
index that is kept belongs to these indexes. -/
structure Inside (parser : Parser) (met : List Nat) : Prop where
  ended : Ended parser.left
  greatest : parser.greatestIndex + 1 = expectedCount met

theorem front_eq {parser : Parser} {lexeme : Lexeme} {rest : List Lexeme}
    (left : parser.left = lexeme :: rest) : parser.front = lexeme := by
  have found : parser.lexemes[parser.passed]? = some lexeme := by
    rw [← List.head?_drop, ← Parser.left, left]
    rfl
  rw [front, List.getD_eq_getElem?_getD, found]
  rfl

theorem left_passed (parser : Parser) :
    ({ parser with passed := parser.passed + 1 } : Parser).left = parser.left.tail := by
  rw [Parser.left, Parser.left, List.tail_drop]

end Parser

/-- What comes of a step on the lexemes that are left, and what comes of one on the fields: the same
result with the same lexemes left, or the same error. -/
inductive Meets {α : Type} (met : α → List Nat) :
    Except SyntaxError (α × List Lexeme) → Except SyntaxError α × Parser → Prop where
  | ok {result : α} {parser : Parser} (inside : parser.Inside (met result)) :
      Meets met (.ok (result, parser.left)) (.ok result, parser)
  | error (error : SyntaxError) (parser : Parser) : Meets met (.error error) (.error error, parser)

/-- A step on the fields does what a step on the lexemes that are left does, from a place where some
indexes have been met to one where others have been met. -/
def Follows {α : Type} (descent : Descent α) (parse : Parse α) (before : List Nat)
    (after : α → List Nat) : Prop :=
  ∀ parser : Parser, parser.Inside before →
    Meets after (parse.run parser.left) (descent.run.run parser)

/-- The two steps read the same, wherever they start, and meet the parameters of what they read. -/
def Reads {α : Type} (descent : Descent α) (parse : Parse α) (indexes : α → List Nat) : Prop :=
  ∀ before, Follows descent parse before fun result => before ++ indexes result

/-! ### Single steps and their sequences -/

section Steps

variable {α β σ : Type} {before : List Nat}

/-- A sequence of two steps on the fields: the second one is done where the first has left them, if
that has not failed. -/
theorem run_bind_descent (descent : Descent α) (next : α → Descent β) (parser : Parser) :
    (descent >>= next).run.run parser =
      match descent.run.run parser with
      | (.ok result, parser') => (next result).run.run parser'
      | (.error error, parser') => (.error error, parser') := by
  rw [ExceptT.run_bind, StateT.run_bind]
  generalize descent.run.run parser = outcome
  obtain ⟨result, parser'⟩ := outcome
  cases result <;> rfl

theorem Follows.pure {after : α → List Nat} (result : α) (same : after result = before) :
    Follows (Pure.pure result) (Pure.pure result) before after := by
  intro parser inside
  rw [← same] at inside
  exact .ok inside

theorem Follows.bind {descent : Descent α} {parse : Parse α} {next : α → Descent β}
    {next' : α → Parse β} {middle : α → List Nat} {after : β → List Nat}
    (first : Follows descent parse before middle)
    (later : ∀ result, Follows (next result) (next' result) (middle result) after) :
    Follows (descent >>= next) (parse >>= next') before after := by
  intro parser inside
  have step := first parser inside
  rw [StateT.run_bind, run_bind_descent]
  generalize parse.run parser.left = outcome, descent.run.run parser = outcome' at step
  cases step with
  | @ok result parser' inside' => exact later result parser' inside'
  | error error parser' => exact .error error parser'

/-- An operand that is read is met behind all that has been met before. -/
theorem Reads.bind {descent : Descent α} {parse : Parse α} {next : α → Descent β}
    {next' : α → Parse β} {indexes : α → List Nat} {after : β → List Nat}
    (first : Reads descent parse indexes)
    (later : ∀ result, Follows (next result) (next' result) (before ++ indexes result) after) :
    Follows (descent >>= next) (parse >>= next') before after :=
  (first before).bind later

/-- What is read is put into a shape that has the same parameters. -/
theorem Reads.map {descent : Descent α} {parse : Parse α} {indexes : α → List Nat} {shape : α → β}
    {after : β → List Nat} (reads : Reads descent parse indexes)
    (same : ∀ result, after (shape result) = before ++ indexes result) :
    Follows (descent >>= fun result => Pure.pure (shape result))
      (parse >>= fun result => Pure.pure (shape result)) before after := by
  apply reads.bind
  intro result
  exact Follows.pure _ (same result)

theorem run_current_descent (parser : Parser) :
    Descent.current.run.run parser = (.ok parser.front, parser) := rfl

theorem run_advance_descent {parser : Parser} (inner : parser.front.token ≠ .endOfText) :
    Descent.advance.run.run parser =
      (.ok (), { parser with passed := parser.passed + 1 }) := by
  change (Except.ok (), if parser.front.token = .endOfText then parser else _) = _
  rw [if_neg inner]

theorem Parser.Inside.exists_cons {parser : Parser} (inside : parser.Inside before) :
    ∃ lexeme rest, parser.left = lexeme :: rest ∧ parser.front = lexeme := by
  obtain ⟨lexeme, rest, left⟩ := inside.ended.exists_cons
  exact ⟨lexeme, rest, left, Parser.front_eq left⟩

/-- Passing a lexeme that is not the end leaves the parser inside the text. -/
theorem Parser.Inside.passed {parser : Parser} (inside : parser.Inside before)
    (inner : parser.front.token ≠ .endOfText) :
    ({ parser with passed := parser.passed + 1 } : Parser).Inside before := by
  obtain ⟨lexeme, rest, left, same⟩ := inside.exists_cons
  have ended := inside.ended
  rw [left] at ended
  rw [same] at inner
  refine ⟨?_, inside.greatest⟩
  rw [Parser.left_passed, left]
  exact ended.tail inner

/-- Looking at the front, and then going on in a way that depends on what is there. -/
theorem Follows.look {next : Lexeme → Descent α} {next' : Lexeme → Parse α}
    {after : α → List Nat}
    (later : ∀ parser : Parser, parser.Inside before →
      Meets after ((next' parser.front).run parser.left) ((next parser.front).run.run parser)) :
    Follows (Descent.current >>= next) (Parse.current >>= next') before after := by
  intro parser inside
  obtain ⟨lexeme, rest, left, same⟩ := inside.exists_cons
  have here := later parser inside
  rw [run_bind_descent, run_current_descent, run_bind_of_ok (run_current _), left, List.headD_cons]
  rw [left] at here
  rwa [same] at here ⊢

/-- Passing the front, which is not the end, and then going on. -/
theorem Meets.pass {next : Descent α} {next' : Parse α} {after : α → List Nat} {parser : Parser}
    (inside : parser.Inside before) (inner : parser.front.token ≠ .endOfText)
    (later : Follows next next' before after) :
    Meets after ((Parse.advance >>= fun _ => next').run parser.left)
      ((Descent.advance >>= fun _ => next).run.run parser) := by
  have passed : Parse.advance.run parser.left =
      .ok ((), ({ parser with passed := parser.passed + 1 } : Parser).left) := by
    rw [Parser.left_passed, ← List.drop_one]
    rfl
  rw [run_bind_descent, run_advance_descent inner, run_bind_of_ok passed]
  exact later _ (inside.passed inner)

theorem Follows.accept? {sign? : Token → Option σ} (atEnd : sign? .endOfText = none) :
    Follows (Descent.accept? sign?) (Parse.accept? sign?) before fun _ => before := by
  apply Follows.look
  intro parser inside
  cases present : sign? parser.front.token with
  | none => exact .ok inside
  | some sign =>
      apply Meets.pass inside
      · intro same
        rw [same, atEnd] at present
        cases present
      · exact Follows.pure _ rfl

/-- The indexes in pairs of a sign and an operand. -/
def linkIndexes (indexes : α → List Nat) (links : List (σ × α)) : List Nat :=
  links.flatMap fun link => indexes link.2

theorem Reads.pairs {sign? : Token → Option σ} {operand : Descent α} {operand' : Parse α}
    {indexes : α → List Nat} (atEnd : sign? .endOfText = none)
    (reads : Reads operand operand' indexes) (bound : Nat) :
    Reads (Descent.pairs sign? operand bound) (Parse.pairs sign? operand' bound)
      (linkIndexes indexes) := by
  induction bound with
  | zero =>
      intro before
      exact Follows.pure [] (List.append_nil before)
  | succ bound ih =>
      intro before
      apply (Follows.accept? atEnd).bind
      intro found
      cases found with
      | none => exact Follows.pure [] (List.append_nil before)
      | some sign =>
          apply reads.bind
          intro right
          apply ih.bind
          intro later
          apply Follows.pure
          rw [linkIndexes, List.flatMap_cons, List.append_assoc]
          rfl

theorem Reads.chain {sign? : Token → Option σ} {operand : Descent α} {operand' : Parse α}
    {indexes : α → List Nat} (atEnd : sign? .endOfText = none)
    (reads : Reads operand operand' indexes) :
    Reads (Descent.chain sign? operand) (Parse.chain sign? operand')
      fun parts => indexes parts.1 ++ linkIndexes indexes parts.2 := by
  intro before
  apply reads.bind
  intro first parser inside
  -- Both bounds are the number of lexemes that are left here.
  have rest : Follows
      (Descent.pairs sign? operand parser.left.length >>= fun links => Pure.pure (first, links))
      (Parse.pairs sign? operand' parser.left.length >>= fun links => Pure.pure (first, links))
      (before ++ indexes first)
      fun parts => before ++ (indexes parts.1 ++ linkIndexes indexes parts.2) := by
    exact (Reads.pairs atEnd reads _).map fun links => (List.append_assoc ..).symm
  exact rest parser inside

end Steps

/-! ### The levels of the grammar -/

section Levels

variable {inner : Descent Disjunction} {inner' : Parse Disjunction} {seen : List Nat}

/-- A parameter is met when it is passed. -/
theorem Follows.meet (index : Nat) (before : List Nat) :
    Follows (do Descent.meet index; Pure.pure (Primary.parameter index))
      (Pure.pure (Primary.parameter index)) before
      fun result : Primary => before ++ result.parameterIndexes := by
  intro parser inside
  have counted : max parser.greatestIndex (index : Int) + 1 =
      expectedCount (before ++ [index]) := by
    have kept := inside.greatest
    rw [expectedCount_append]
    change _ = ((max (expectedCount before) (max (index + 1) 0) : Nat) : Int)
    omega
  exact @Meets.ok Primary _ _ { parser with greatestIndex := max parser.greatestIndex index }
    ⟨inside.ended, counted⟩

/-- A number is no parameter. -/
theorem numberLiteral_parameterIndexes {written : String} {literal : Primary}
    (read : numberLiteral written = .ok literal) : literal.parameterIndexes = [] := by
  obtain ⟨-, rfl⟩ := (numberLiteral_eq_ok_iff written literal).mp read
  unfold numberTree
  cases integerValue? written <;> rfl

/-- A parenthesis is closed, or is missed where it should stand. -/
theorem Follows.close (nested : Disjunction) (before : List Nat)
    (same : before = seen ++ nested.parameterIndexes) :
    Follows
      (do
        let closing ← Descent.current
        if closing.token = .closeParenthesis then Descent.advance
        else throw ⟨.closingExpected, closing.position⟩
        Pure.pure (.nested nested))
      (do
        if (← Parse.current).token == .closeParenthesis then Parse.advance
        else Parse.failHere .closingExpected
        Pure.pure (.nested nested)) before fun result : Primary => seen ++ result.parameterIndexes := by
  apply Follows.look
  intro parser inside
  by_cases closes : parser.front.token = .closeParenthesis
  · simp only [closes, beq_self_eq_true, if_true]
    apply Meets.pass inside
    · rw [closes]
      nofun
    · exact Follows.pure _ same.symm
  · have open' : (parser.front.token == .closeParenthesis) = false := beq_eq_false_iff_ne.mpr closes
    simp only [closes, open', Bool.false_eq_true, if_false]
    obtain ⟨lexeme, rest, left, front⟩ := inside.exists_cons
    rw [left, front]
    exact .error _ parser

theorem primary_reads (reads : Reads inner inner' Disjunction.parameterIndexes) :
    Reads (Descent.primary inner) (primary inner') Primary.parameterIndexes := by
  intro before
  apply Follows.look
  intro parser inside
  obtain ⟨lexeme, rest, left, front⟩ := inside.exists_cons
  have constant : ∀ literal : Primary, literal.parameterIndexes = [] →
      Follows (Pure.pure literal) (Pure.pure literal) before
        fun result : Primary => before ++ result.parameterIndexes := by
    intro literal unindexed
    exact Follows.pure literal (by rw [unindexed, List.append_nil])
  cases token : parser.front.token with
  | endOfText | operator sign | closeParenthesis =>
      rw [left, front]
      exact .error _ parser
  | keyword word =>
      cases word with
      | isTrue | isFalse | null =>
          apply Meets.pass inside
          · rw [token]
            nofun
          · exact constant _ rfl
      | empty =>
          rw [left, front]
          exact .error _ parser
  | text content =>
      apply Meets.pass inside
      · rw [token]
        nofun
      · exact constant _ rfl
  | path written =>
      apply Meets.pass inside
      · rw [token]
        nofun
      · exact constant _ rfl
  | parameter written =>
      have inner : parser.front.token ≠ .endOfText := by
        rw [token]
        nofun
      cases number : parameterIndex written with
      | ok index =>
          simp only [number]
          apply Meets.pass inside inner
          exact Follows.meet index before
      | error fault =>
          simp only [number]
          rw [run_bind_descent, run_advance_descent inner, left, front]
          exact .error _ _
  | number written =>
      have inner : parser.front.token ≠ .endOfText := by
        rw [token]
        nofun
      cases literal : numberLiteral written with
      | ok value =>
          simp only [literal]
          apply Meets.pass inside inner
          exact constant _ (numberLiteral_parameterIndexes literal)
      | error fault =>
          -- The number has been passed on one side only when both fail.
          simp only [literal]
          rw [run_bind_descent, run_advance_descent inner, left, front]
          exact .error _ _
  | openParenthesis =>
      apply Meets.pass inside
      · rw [token]
        nofun
      · apply reads.bind
        intro nested
        exact Follows.close nested _ rfl

theorem unary_reads (reads : Reads inner inner' Disjunction.parameterIndexes) :
    Reads (Descent.unary inner) (unary inner') Unary.parameterIndexes := by
  intro before
  apply (Follows.accept? rfl).bind
  intro found
  cases found with
  | none =>
      exact (primary_reads reads).map fun _ => rfl
  | some sign =>
      apply Follows.look
      intro parser inside
      by_cases least : (sign == .minus && isLeastMagnitude parser.front.token) = true
      · simp only [least, if_true]
        apply Meets.pass inside
        · intro same
          rw [same] at least
          simp [isLeastMagnitude] at least
        · exact Follows.pure _ (List.append_nil before)
      · have operand : Follows
            (do
              let operand ← Descent.primary inner
              Pure.pure (Unary.applied sign operand))
            (do
              let operand ← primary inner'
              Pure.pure (Unary.applied sign operand)) before
            fun result : Unary => before ++ result.parameterIndexes :=
          (primary_reads reads).map fun _ => rfl
        simp only [least, Bool.false_eq_true, if_false]
        exact operand parser inside

theorem product_reads (reads : Reads inner inner' Disjunction.parameterIndexes) :
    Reads (Descent.product inner) (product inner') Product.parameterIndexes := by
  intro before
  apply (unary_reads reads).bind
  intro left
  apply (Follows.accept? rfl).bind
  intro found
  cases found with
  | none => exact Follows.pure _ rfl
  | some sign => exact (unary_reads reads).map fun right => (List.append_assoc ..).symm

theorem sum_reads (reads : Reads inner inner' Disjunction.parameterIndexes) :
    Reads (Descent.sum inner) (sum inner') Sum.parameterIndexes := by
  intro before
  apply (Reads.chain rfl (product_reads reads)).map
  intro parts
  rw [Sum.parameterIndexes, Sum.restIndexes_eq]
  rfl

theorem comparison_reads (reads : Reads inner inner' Disjunction.parameterIndexes) :
    Reads (Descent.comparison inner) (comparison inner') Comparison.parameterIndexes := by
  intro before
  apply (sum_reads reads).bind
  intro left
  apply (Follows.accept? rfl).bind
  intro found
  cases found with
  | none => exact Follows.pure _ rfl
  | some sign => exact (sum_reads reads).map fun right => (List.append_assoc ..).symm

theorem equality_reads (reads : Reads inner inner' Disjunction.parameterIndexes) :
    Reads (Descent.equality inner) (equality inner') Equality.parameterIndexes := by
  intro before
  apply (comparison_reads reads).bind
  intro left
  apply (Follows.accept? rfl).bind
  intro found
  cases found with
  | none => exact Follows.pure _ rfl
  | some sign => exact (comparison_reads reads).map fun right => (List.append_assoc ..).symm

theorem conjunction_reads (reads : Reads inner inner' Disjunction.parameterIndexes) :
    Reads (Descent.conjunction inner) (conjunction inner') Conjunction.parameterIndexes := by
  intro before
  apply (Reads.chain rfl (equality_reads reads)).map
  intro parts
  rw [Conjunction.parameterIndexes, Conjunction.restIndexes_eq, List.flatMap_map]
  rfl

end Levels

/-- At any depth of parentheses both read the same expression. -/
theorem disjunction_reads (depth : Nat) :
    Reads (Descent.disjunction depth) (disjunction depth) Disjunction.parameterIndexes := by
  induction depth with
  | zero =>
      intro before
      apply Follows.look
      intro parser _
      exact .error _ parser
  | succ depth ih =>
      intro before
      apply (Reads.chain rfl (conjunction_reads ih)).map
      intro parts
      rw [Disjunction.parameterIndexes, Disjunction.restIndexes_eq, List.flatMap_map]
      rfl

/-! ### Whole texts -/

/-- A parser that has just been set to the lexemes of a text. -/
theorem Parser.inside_fresh {text : String} {lexemes : List Lexeme}
    (cut : tokenize text = .ok lexemes) : ({ lexemes } : Parser).Inside [] := by
  obtain ⟨front, last, rfl, lexical⟩ := tokenize_lexical cut
  exact ⟨Ended.of_append last (endOfText_not_mem lexical), rfl⟩

theorem run_takeUp {text : String} {lexemes : List Lexeme} (cut : tokenize text = .ok lexemes)
    (parser : Parser) :
    (Descent.takeUp text).run.run parser = (.ok lexemes.length, { lexemes }) := by
  unfold Descent.takeUp
  rw [cut]
  rfl

theorem run_takeUp_of_error {text : String} {error : SyntaxError}
    (stops : tokenize text = .error error) (parser : Parser) :
    (Descent.takeUp text).run.run parser = (.error error, parser) := by
  unfold Descent.takeUp
  rw [stops]
  rfl

/-- Nothing is left of a text exactly if the end is at the front. -/
theorem run_finish {parser : Parser} {met : List Nat} (inside : parser.Inside met) :
    Descent.finish.run.run parser =
      if frontToken (tokensOf parser.left) = .endOfText then (.ok (), parser)
      else (.error ⟨.unexpectedToken (frontToken (tokensOf parser.left)).content,
        (parser.left.headD ⟨.endOfText, 0⟩).position⟩, parser) := by
  obtain ⟨lexeme, rest, left, front⟩ := inside.exists_cons
  unfold Descent.finish
  rw [run_bind_descent, run_current_descent, left, front, tokensOf_cons, frontToken_cons,
    List.headD_cons]
  by_cases atEnd : lexeme.token = .endOfText
  · simp only [atEnd, if_true]
    rfl
  · simp only [atEnd, if_false]
    rfl

/-- A parser reads a text that has been cut into lexemes as they are read without any fields, and the
parameters that it has met are those of the expression. -/
theorem run_whole {text : String} {lexemes : List Lexeme} (cut : tokenize text = .ok lexemes)
    (parser : Parser) :
    ((Descent.whole text).run.run parser).1 =
      (parseLexemes lexemes).map fun root =>
        ⟨⟨root, text⟩, expectedCount root.parameterIndexes⟩ := by
  have inside := Parser.inside_fresh cut
  have start : ({ lexemes } : Parser).front.token = frontToken (tokensOf lexemes) := by
    obtain ⟨lexeme, rest, left, front⟩ := inside.exists_cons
    change lexemes = lexeme :: rest at left
    rw [front, left]
    rfl
  unfold Descent.whole
  rw [run_bind_descent, run_takeUp cut]
  simp only
  rw [run_bind_descent, run_current_descent]
  simp only
  rw [start, parseLexemes_eq]
  by_cases empty : frontToken (tokensOf lexemes) = .endOfText
  · rw [if_pos empty, if_pos empty]
    rfl
  · have step := disjunction_reads lexemes.length [] _ inside
    change Meets _ ((disjunction lexemes.length).run lexemes) _ at step
    rw [if_neg empty, if_neg empty, run_bind_descent]
    generalize (disjunction lexemes.length).run lexemes = outcome,
      (Descent.disjunction lexemes.length).run.run ({ lexemes } : Parser) = outcome' at step
    cases step with
    | error error parser' => rfl
    | @ok root parser' inside' =>
        simp only
        rw [run_bind_descent, run_finish inside']
        by_cases atEnd : frontToken (tokensOf parser'.left) = .endOfText
        · have counted : parser'.greatestIndex + 1 = expectedCount root.parameterIndexes :=
            inside'.greatest
          simp only [atEnd, if_true, Except.bind, Except.map]
          rw [← counted]
          rfl
        · simp only [atEnd, if_false, Except.bind, Except.map]

/-- Whatever a parser has been used for, it reads a text as it is read without any fields, and it
counts the parameters of the expression. -/
theorem Parser.parse_result (parser : Parser) (text : String) :
    (parser.parse text).1 =
      (Expression.parse text).map fun expression => ⟨expression, expression.parameterCount⟩ := by
  cases cut : tokenize text with
  | error error =>
      unfold Parser.parse Descent.whole Expression.parse
      rw [run_bind_descent, run_takeUp_of_error cut, cut]
      rfl
  | ok lexemes =>
      change ((Descent.whole text).run.run parser).1 = _
      rw [run_whole cut, parse_of_tokenize cut]
      cases parseLexemes lexemes with
      | error error => rfl
      | ok root =>
          simp only [Except.map, Expression.parameterCount, root.parameterCount_eq]

/-! ### One text after another -/

/-- A parser may be used for any texts, whatever it has been used for before and whichever of them
fail: what comes of each is what comes of it with a fresh parser, an expression or an error at its
position; and this is how texts are read without any fields.  An expression expects no parameters if
none occurs in it, at any depth, and otherwise one more than the greatest index. -/
theorem parseAll_independent (parser : Parser) (texts : List String) :
    ((parser.parseAll texts).1 = texts.map fun text => (({} : Parser).parse text).1) ∧
    (∀ text, (({} : Parser).parse text).1 =
      (Expression.parse text).map fun expression => ⟨expression, expression.parameterCount⟩) ∧
    ∀ parsed, .ok parsed ∈ (parser.parseAll texts).1 →
      parsed.parameterCount =
        ((parsed.expression.root.parameterIndexes.max?.elim 0 (· + 1) : Nat) : Int) := by
  have results : (parser.parseAll texts).1 = texts.map fun text => (({} : Parser).parse text).1 := by
    induction texts generalizing parser with
    | nil => rfl
    | cons text later ih =>
        have first : (parser.parse text).1 = (({} : Parser).parse text).1 := by
          rw [parser.parse_result, Parser.parse_result]
        rw [List.map_cons, ← first, ← ih (parser.parse text).2]
        rfl
  refine ⟨results, Parser.parse_result {}, fun parsed member => ?_⟩
  rw [results, List.mem_map] at member
  obtain ⟨text, -, read⟩ := member
  rw [Parser.parse_result] at read
  cases found : Expression.parse text with
  | error error =>
      rw [found] at read
      cases read
  | ok expression =>
      rw [found] at read
      cases read
      have counted : expression.parameterCount = expectedCount expression.root.parameterIndexes :=
        expression.root.parameterCount_eq
      simp only [counted, expectedCount_eq_max?]

/-- Parameters of a text that fails are not counted in the next one. -/
example :
    (({} : Parser).parseAll ["(?3 > 1) || ?1", "?7 +", "a"]).1.map
        (fun result => result.toOption.map (·.parameterCount)) = [some 4, none, some 0] := by
  decide +kernel

end Stencil.Expr
