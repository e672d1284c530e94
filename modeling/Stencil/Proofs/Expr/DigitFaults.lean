/-
Module: Stencil.Proofs.Expr.DigitFaults
Purpose: A text is refused with an error of the syntax, or because an integer in it has too many digits to
  be read.
Main exports: Token.digits, SyntaxError.Founded, Founded, parseLexemes_founded, parseLexemes_long
-/
import Stencil.Proofs.Expr.Parsing
import Stencil.Proofs.Property.Lockstep

namespace Stencil.Expr

open Parse

/-- The digits of an integer literal and of a parameter; other tokens have none. -/
def Token.digits : Token → List Char
  | .number written => if isDoubleLiteral written.toList then [] else written.toList
  | .parameter written => written.toList.drop 1
  | _ => []

/-- An error is one of the syntax, or it is found at a lexeme with too many digits. -/
def SyntaxError.Founded (lexemes : List Lexeme) (error : SyntaxError) : Prop :=
  error.fault.isSyntax = true ∨
    ∃ lexeme ∈ lexemes, ¬ IsReadable lexeme.token.digits ∧
      error = ⟨.tooManyDigits lexeme.token.digits.length, lexeme.position⟩

theorem SyntaxError.Founded.mono {lexemes later : List Lexeme} {error : SyntaxError}
    (founded : error.Founded later) (suffix : later <:+ lexemes) : error.Founded lexemes := by
  rcases founded with syntactic | ⟨lexeme, member, long, same⟩
  · exact .inl syntactic
  · exact .inr ⟨lexeme, suffix.mem member, long, same⟩

/-- What a parser leaves is the end of what there was, and its errors are founded there. -/
def Founded {α : Type} (parser : Parse α) : Prop :=
  ∀ lexemes : List Lexeme,
    Ends (fun ran => ran.2 <:+ lexemes) (SyntaxError.Founded lexemes) (parser.run lexemes)

namespace Founded

variable {α β σ : Type}

theorem pure (value : α) : Founded (Pure.pure value : Parse α) :=
  fun lexemes => List.suffix_refl lexemes

theorem bind {parser : Parse α} {next : α → Parse β} (first : Founded parser)
    (second : ∀ value, Founded (next value)) : Founded (parser >>= next) := by
  intro lexemes
  have here := first lexemes
  rw [StateT.run_bind]
  apply here.bind
  rintro ⟨value, between⟩ suffix
  refine (second value between).mono ?_ ?_
  · exact fun ran later => later.trans suffix
  · exact fun error founded => founded.mono suffix

theorem state : Founded (get : Parse (List Lexeme)) :=
  fun lexemes => List.suffix_refl lexemes

theorem front : Founded current :=
  fun lexemes => List.suffix_refl lexemes

theorem passed : Founded advance :=
  fun lexemes => List.drop_suffix 1 lexemes

/-- An error of the syntax can stand anywhere. -/
theorem refusal {fault : SyntaxFault} (syntactic : fault.isSyntax = true) :
    Founded (failHere fault : Parse α) :=
  fun _ => .inl syntactic

theorem accepted (sign? : Token → Option σ) : Founded (accept? sign?) := by
  refine front.bind fun lexeme => ?_
  split
  · exact passed.bind fun _ => .pure _
  · exact .pure _

theorem paired (sign? : Token → Option σ) {operand : Parse α} (founded : Founded operand)
    (bound : Nat) : Founded (pairs sign? operand bound) := by
  induction bound with
  | zero => exact .pure []
  | succ bound ih =>
      refine (accepted sign?).bind fun found => ?_
      cases found with
      | none => exact .pure []
      | some sign => exact founded.bind fun right => ih.bind fun later => .pure _

theorem chained (sign? : Token → Option σ) {operand : Parse α} (founded : Founded operand) :
    Founded (chain sign? operand) :=
  founded.bind fun _ => state.bind fun lexemes =>
    (paired sign? founded lexemes.length).bind fun _ => .pure _

/-- An operand, perhaps a sign, and what follows both. -/
theorem linked {operand : Parse α} {sign? : Token → Option σ} {next : α → Option σ → Parse β}
    (founded : Founded operand) (ending : ∀ left, Founded (next left none))
    (further : ∀ left sign, Founded (next left (some sign))) :
    Founded (operand >>= fun left => accept? sign? >>= next left) := by
  refine founded.bind fun left => (accepted sign?).bind fun found => ?_
  cases found with
  | none => exact ending left
  | some sign => exact further left sign

end Founded

/-! ### Values -/

/-- A number is refused because it is out of range, or because it cannot be read. -/
theorem numberLiteral_fault {written : String} {fault : SyntaxFault}
    (refused : numberLiteral written = .error fault) :
    fault.isSyntax = true ∨ ¬ IsReadable (Token.number written).digits ∧
      fault = .tooManyDigits (Token.number written).digits.length := by
  unfold numberLiteral at refused
  simp only [Token.digits] at refused ⊢
  split at refused
  · cases refused
  · rename_i whole
    rw [if_neg whole]
    split at refused
    · split at refused <;> cases refused
      exact .inl rfl
    · rename_i long
      cases refused
      exact .inr ⟨long, rfl⟩

theorem parameterIndex_fault {written : String} {fault : SyntaxFault}
    (refused : parameterIndex written = .error fault) :
    ¬ IsReadable (Token.parameter written).digits ∧
      fault = .tooManyDigits (Token.parameter written).digits.length := by
  unfold parameterIndex at refused
  split at refused
  · cases refused
  · rename_i long
    cases refused
    exact ⟨long, rfl⟩

theorem primary_founded {inner : Parse Disjunction} (founded : Founded inner) :
    Founded (primary inner) := by
  intro lexemes
  cases lexemes with
  | nil => exact .inl rfl
  | cons lexeme rest =>
      unfold primary
      rw [run_bind_of_ok (run_current (lexeme :: rest))]
      have passing (value : Primary) : Founded (do advance; pure value) :=
        Founded.passed.bind fun _ => .pure value
      simp only [List.headD_cons]
      cases token : lexeme.token with
      | openParenthesis =>
          refine (Founded.passed.bind fun _ => founded.bind fun nested => ?_) (lexeme :: rest)
          refine Founded.front.bind fun closing => ?_
          split
          · exact passing (.nested nested)
          · exact (Founded.refusal rfl).bind fun _ => .pure _
      | number written =>
          simp only
          cases read : numberLiteral written with
          | ok literal => exact passing literal (lexeme :: rest)
          | error fault =>
              rcases numberLiteral_fault read with syntactic | ⟨long, rfl⟩
              · exact Founded.refusal syntactic (lexeme :: rest)
              · rw [← token] at long ⊢
                exact .inr ⟨lexeme, List.mem_cons_self, long, rfl⟩
      | parameter written =>
          simp only
          cases read : parameterIndex written with
          | ok index => exact passing (.parameter index) (lexeme :: rest)
          | error fault =>
              obtain ⟨long, rfl⟩ := parameterIndex_fault read
              rw [← token] at long ⊢
              exact .inr ⟨lexeme, List.mem_cons_self, long, rfl⟩
      | text content => exact passing (.text content) (lexeme :: rest)
      | path written => exact passing (.path written) (lexeme :: rest)
      | keyword word =>
          cases word with
          | isTrue => exact passing (.boolean true) (lexeme :: rest)
          | isFalse => exact passing (.boolean false) (lexeme :: rest)
          | null => exact passing .null (lexeme :: rest)
          | empty => exact Founded.refusal rfl (lexeme :: rest)
      | endOfText | closeParenthesis | operator =>
          exact Founded.refusal rfl (lexeme :: rest)

theorem unary_founded {inner : Parse Disjunction} (founded : Founded inner) :
    Founded (unary inner) := by
  refine (Founded.accepted unarySign?).bind fun found => ?_
  cases found with
  | none => exact (primary_founded founded).bind fun _ => .pure _
  | some sign =>
      refine Founded.front.bind fun lexeme => ?_
      split
      · exact Founded.passed.bind fun _ => .pure _
      · exact (primary_founded founded).bind fun _ => .pure _

/-! ### Expressions -/

theorem product_founded {inner : Parse Disjunction} (founded : Founded inner) :
    Founded (product inner) :=
  (unary_founded founded).linked (fun _ => .pure _) fun _ _ =>
    (unary_founded founded).bind fun _ => .pure _

theorem sum_founded {inner : Parse Disjunction} (founded : Founded inner) : Founded (sum inner) :=
  (Founded.chained sumSign? (product_founded founded)).bind fun _ => .pure _

theorem comparison_founded {inner : Parse Disjunction} (founded : Founded inner) :
    Founded (comparison inner) :=
  (sum_founded founded).linked (fun _ => .pure _) fun _ _ =>
    (sum_founded founded).bind fun _ => .pure _

theorem equality_founded {inner : Parse Disjunction} (founded : Founded inner) :
    Founded (equality inner) :=
  (comparison_founded founded).linked (fun _ => .pure _) fun _ _ =>
    (comparison_founded founded).bind fun _ => .pure _

theorem conjunction_founded {inner : Parse Disjunction} (founded : Founded inner) :
    Founded (conjunction inner) :=
  (Founded.chained andSign? (equality_founded founded)).bind fun _ => .pure _

theorem disjunction_founded (depth : Nat) : Founded (disjunction depth) := by
  induction depth with
  | zero => exact .refusal rfl
  | succ depth ih =>
      exact (Founded.chained orSign? (conjunction_founded ih)).bind fun _ => .pure _

/-- Lexemes are refused with an error of the syntax, or because one of them has too many digits. -/
theorem parseLexemes_founded (lexemes : List Lexeme) :
    Ends (fun _ => True) (SyntaxError.Founded lexemes) (parseLexemes lexemes) := by
  unfold parseLexemes
  split
  · exact .inl rfl
  · apply (disjunction_founded lexemes.length lexemes).bind
    rintro ⟨root, rest⟩ -
    simp only
    split
    · trivial
    · exact .inl rfl

/-! ### Numbers at the front -/

/-- A number with too many digits has neither a point nor an exponent. -/
theorem whole_of_long {written : String} (long : ¬ IsReadable (Token.number written).digits) :
    isDoubleLiteral written.toList = false ∧
      (Token.number written).digits = written.toList := by
  cases double : isDoubleLiteral written.toList with
  | false => simp [Token.digits, double]
  | true => exact absurd (by simp [Token.digits, double, IsReadable]) long

section Long

variable {lexeme : Lexeme} {rest : List Lexeme} {inner : Parse Disjunction}
  (long : ¬ IsReadable lexeme.token.digits)

include long

/-- Too many digits stand in a number or a parameter. -/
theorem primary_long :
    (primary inner).run (lexeme :: rest) =
      .error ⟨.tooManyDigits lexeme.token.digits.length, lexeme.position⟩ := by
  unfold primary
  rw [run_bind_of_ok (run_current (lexeme :: rest))]
  simp only [List.headD_cons]
  cases token : lexeme.token with
  | number written =>
      rw [token] at long
      obtain ⟨whole, digits⟩ := whole_of_long long
      have read : numberLiteral written =
          .error (.tooManyDigits (Token.number written).digits.length) := by
        rw [digits] at long ⊢
        simp [numberLiteral, whole, long]
      simp only [read]
      rfl
  | parameter written =>
      rw [token] at long
      have read : parameterIndex written =
          .error (.tooManyDigits (Token.parameter written).digits.length) := if_neg long
      simp only [read]
      rfl
  | _ =>
      rw [token] at long
      exact absurd (Nat.zero_le digitLimit) long

theorem unarySign?_long : unarySign? lexeme.token = none := by
  cases token : lexeme.token with
  | number written | parameter written => rfl
  | _ =>
      rw [token] at long
      exact absurd (Nat.zero_le digitLimit) long

theorem isLeastMagnitude_long : isLeastMagnitude lexeme.token = false := by
  cases token : lexeme.token with
  | number written =>
      rw [token] at long
      obtain ⟨whole, digits⟩ := whole_of_long long
      rw [digits] at long
      simp [isLeastMagnitude, whole, long]
  | _ => rfl

theorem unary_long :
    (unary inner).run (lexeme :: rest) =
      .error ⟨.tooManyDigits lexeme.token.digits.length, lexeme.position⟩ := by
  unfold unary
  rw [run_bind_of_ok (run_accept?_of_none (unarySign?_long long))]
  exact run_bind_of_error (primary_long long)

/-- Behind a minus sign the number is no literal together with it. -/
theorem unary_minus_long {sign : Lexeme} (minus : sign.token = .operator .minus) :
    (unary inner).run (sign :: lexeme :: rest) =
      .error ⟨.tooManyDigits lexeme.token.digits.length, lexeme.position⟩ := by
  have present : unarySign? sign.token = some .minus := by
    rw [minus]
    rfl
  unfold unary
  rw [run_bind_of_ok (run_accept?_of_some present)]
  simp only
  rw [run_bind_of_ok (run_current (lexeme :: rest))]
  have noLiteral := isLeastMagnitude_long long
  simp only [List.headD_cons, noLiteral, Bool.and_false, Bool.false_eq_true, if_false]
  exact run_bind_of_error (primary_long long)

end Long

/-- An expression is refused where its first value is. -/
theorem disjunction_refused {depth : Nat} {lexemes : List Lexeme} {error : SyntaxError}
    (refused : (unary (disjunction depth)).run lexemes = .error error) :
    (disjunction (depth + 1)).run lexemes = .error error := by
  have products : (product (disjunction depth)).run lexemes = .error error :=
    run_bind_of_error refused
  have sums : (sum (disjunction depth)).run lexemes = .error error :=
    run_bind_of_error (run_bind_of_error products)
  have comparisons : (comparison (disjunction depth)).run lexemes = .error error :=
    run_bind_of_error sums
  have equalities : (equality (disjunction depth)).run lexemes = .error error :=
    run_bind_of_error comparisons
  have conjunctions : (conjunction (disjunction depth)).run lexemes = .error error :=
    run_bind_of_error (run_bind_of_error equalities)
  exact run_bind_of_error (run_bind_of_error conjunctions)

/-- Lexemes that start with a number of too many digits, or with a minus sign and such a number, are
refused at the number. -/
theorem parseLexemes_long {front rest : List Lexeme} {lexeme : Lexeme}
    (long : ¬ IsReadable lexeme.token.digits)
    (start : front = [] ∨ ∃ sign : Lexeme, sign.token = .operator .minus ∧ front = [sign]) :
    parseLexemes (front ++ lexeme :: rest) =
      .error ⟨.tooManyDigits lexeme.token.digits.length, lexeme.position⟩ := by
  have refused (depth : Nat) : (unary (disjunction depth)).run (front ++ lexeme :: rest) =
      .error ⟨.tooManyDigits lexeme.token.digits.length, lexeme.position⟩ := by
    rcases start with rfl | ⟨sign, minus, rfl⟩
    · exact unary_long long
    · exact unary_minus_long long minus
  have given : ((front ++ lexeme :: rest).headD ⟨.endOfText, 0⟩).token ≠ .endOfText := by
    rcases start with rfl | ⟨sign, minus, rfl⟩
    · rintro ended
      rw [List.nil_append, List.headD_cons] at ended
      rw [ended] at long
      exact long (Nat.zero_le digitLimit)
    · rw [List.singleton_append, List.headD_cons, minus]
      decide
  obtain ⟨depth, size⟩ : ∃ depth, (front ++ lexeme :: rest).length = depth + 1 :=
    ⟨front.length + rest.length, by simp; omega⟩
  unfold parseLexemes
  rw [if_neg given, size]
  have failed := disjunction_refused (refused depth)
  simp only [failed]
  rfl

end Stencil.Expr
