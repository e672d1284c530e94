/-
Module: Stencil.Proofs.Expr.Prediction
Purpose: The parser goes on for as long as a phrase can start with what it has read, and stops at the
  first lexeme with which none can.
Main exports: Ended, PhraseClass.Completes, PhraseClass.Begins, Decides, Predictive,
  disjunction_predictive, parseLexemes_refused
-/
import Stencil.Proofs.Expr.ParserExactness

namespace Stencil.Expr

open Parse

/-! ### Lexemes with an end -/

/-- Lexemes of which the last one is the end, and no other. -/
inductive Ended : List Lexeme → Prop where
  | last (position : Nat) : Ended [⟨.endOfText, position⟩]
  | cons {lexeme : Lexeme} {rest : List Lexeme} (inner : lexeme.token ≠ .endOfText)
      (later : Ended rest) : Ended (lexeme :: rest)

theorem Ended.exists_cons {lexemes : List Lexeme} (ended : Ended lexemes) :
    ∃ lexeme rest, lexemes = lexeme :: rest := by
  cases ended with
  | last position => exact ⟨_, _, rfl⟩
  | cons inner later => exact ⟨_, _, rfl⟩

theorem Ended.tail {lexeme : Lexeme} {rest : List Lexeme} (ended : Ended (lexeme :: rest))
    (inner : lexeme.token ≠ .endOfText) : Ended rest := by
  cases ended with
  | last position => exact absurd rfl inner
  | cons _ later => exact later

theorem Ended.of_append {front : List Lexeme} (last : Nat) (inner : .endOfText ∉ tokensOf front) :
    Ended (front ++ [⟨.endOfText, last⟩]) := by
  induction front with
  | nil => exact .last last
  | cons lexeme front ih =>
      rw [tokensOf_cons, List.mem_cons, not_or] at inner
      exact .cons (Ne.symm inner.1) (ih inner.2)

/-- What comes first is the first of a part, or what follows the part. -/
theorem frontToken_prefix (front : List Lexeme) (lexeme : Lexeme) (rest : List Lexeme) :
    [frontToken (tokensOf (front ++ lexeme :: rest))] <+: tokensOf front ++ [lexeme.token] := by
  cases front with
  | nil => exact List.prefix_rfl
  | cons first front => exact List.prefix_append [first.token] (tokensOf front ++ [lexeme.token])

/-! ### What phrases can start with -/

/-- Tokens that complete what has been read: values, and the ends of parentheses. -/
def Padding (more : List Token) : Prop :=
  ∀ token ∈ more, token = .keyword .null ∨ token = .closeParenthesis

namespace PhraseClass

variable {P α : Type} (phrases : PhraseClass P α)

/-- Some phrase that fits is made up of the tokens and of values and parentheses behind them. -/
def Completes (seen : List Token) : Prop :=
  ∃ phrase more, phrases.Fits phrase ∧ phrases.tokens phrase = seen ++ more ∧ Padding more

/-- Some phrase that fits starts with the tokens, together with what may follow it: what binds less
than `strength`. -/
def Begins (strength : Nat) (seen : List Token) : Prop :=
  ∃ phrase after, phrases.Fits phrase ∧ (frontToken after).binding < strength ∧
    seen <+: phrases.tokens phrase ++ after

/-- A phrase that fits and starts with the tokens is over where the next token follows them. -/
def Closes (strength : Nat) (seen : List Token) (next : Token) : Prop :=
  ∀ phrase after, phrases.Fits phrase → (frontToken after).binding < strength →
    seen ++ [next] <+: phrases.tokens phrase ++ after → phrases.tokens phrase = seen

end PhraseClass

/-- How a parser ends that goes on for as long as a phrase can start with what it has read: it has
read a phrase, which is over at the next lexeme, or it points at the first lexeme with which no
phrase can start. -/
inductive Decides {P α β : Type} (phrases : PhraseClass P α) (strength : Nat)
    (lexemes : List Lexeme) : Except SyntaxError (β × List Lexeme) → Prop where
  | read {front rest : List Lexeme} {lexeme : Lexeme} {phrase : P} (result : β)
      (parts : lexemes = front ++ lexeme :: rest) (ended : Ended (lexeme :: rest))
      (fits : phrases.Fits phrase) (tokens : phrases.tokens phrase = tokensOf front)
      (closes : phrases.Closes strength (tokensOf front) lexeme.token) :
      Decides phrases strength lexemes (.ok (result, lexeme :: rest))
  | refused {front rest : List Lexeme} {lexeme : Lexeme} {error : SyntaxError}
      (parts : lexemes = front ++ lexeme :: rest) (position : lexeme.position = error.position)
      (viable : phrases.Completes (tokensOf front))
      (impossible : ¬ phrases.Begins strength (tokensOf front ++ [lexeme.token])) :
      Decides phrases strength lexemes (.error error)

/-- A parser decides at each lexeme, on no more lexemes than a bound, whether a phrase can start with
what it has read. -/
def Predictive {P α β : Type} (parser : Parse β) (phrases : PhraseClass P α)
    (strength bound : Nat) : Prop :=
  ∀ lexemes, Ended lexemes → lexemes.length ≤ bound →
    Decides phrases strength lexemes (parser.run lexemes)

/-! ### Rules -/

section Rules

variable {P Q α β γ δ : Type} {strength bound : Nat} {lexemes : List Lexeme}

/-- What is made of the result does not matter. -/
theorem Decides.map {phrases : PhraseClass P α} {parser : Parse γ} (shape : γ → δ)
    (decides : Decides phrases strength lexemes (parser.run lexemes)) :
    Decides phrases strength lexemes ((shape <$> parser).run lexemes) := by
  rw [StateT.run_map]
  generalize parser.run lexemes = outcome at decides
  cases decides with
  | read result parts ended fits tokens closes =>
      exact .read (shape result) parts ended fits tokens closes
  | refused parts position viable impossible => exact .refused parts position viable impossible

/-- A class that is another one in a different form is decided like it. -/
theorem Presents.decides {phrases : PhraseClass Q β} {base : PhraseClass P α} {parts : Q → P}
    {shape : α → β} {outcome : Except SyntaxError (γ × List Lexeme)}
    (form : Presents phrases base parts shape) (decides : Decides base strength lexemes outcome) :
    Decides phrases strength lexemes outcome := by
  cases decides with
  | read result split ended fits tokens closes =>
      obtain ⟨phrase, rfl⟩ := form.onto _ fits
      refine .read result split ended ((form.fits phrase).mpr fits)
        ((form.tokens phrase).trans tokens) fun other after fits' stops starts => ?_
      rw [form.tokens] at starts ⊢
      exact closes _ after ((form.fits other).mp fits') stops starts
  | refused split position viable impossible =>
      refine .refused split position ?_ ?_
      · obtain ⟨inner, more, fits, tokens, padding⟩ := viable
        obtain ⟨phrase, rfl⟩ := form.onto _ fits
        exact ⟨phrase, more, (form.fits phrase).mpr fits, (form.tokens phrase).trans tokens, padding⟩
      · rintro ⟨phrase, after, fits, stops, starts⟩
        rw [form.tokens] at starts
        exact impossible ⟨_, after, (form.fits phrase).mp fits, stops, starts⟩

theorem Presents.predictive {phrases : PhraseClass Q β} {base : PhraseClass P α} {parts : Q → P}
    {shape : α → β} {parser : Parse γ} {result : γ → δ} (form : Presents phrases base parts shape)
    (predictive : Predictive parser base strength bound) :
    Predictive (result <$> parser) phrases strength bound :=
  fun lexemes ended short => (form.decides (predictive lexemes ended short)).map result

/-- A phrase of one class and a phrase of another one behind it. -/
def PhraseClass.followedBy (first : PhraseClass P α) (second : PhraseClass Q β) :
    PhraseClass (P × Q) (α × β) where
  tokens parts := first.tokens parts.1 ++ second.tokens parts.2
  tree parts := (first.tree parts.1, second.tree parts.2)
  Fits parts := first.Fits parts.1 ∧ second.Fits parts.2

theorem PhraseClass.followedBy_tokens (first : PhraseClass P α) (second : PhraseClass Q β)
    (one : P) (two : Q) :
    (first.followedBy second).tokens (one, two) = first.tokens one ++ second.tokens two := rfl

/-- What starts like a phrase and the next lexeme behind it starts with this phrase, and goes on with
a phrase of the second class. -/
theorem PhraseClass.Closes.inside {first : PhraseClass P α} {second : PhraseClass Q β} {tight : Nat}
    {front more : List Lexeme} {lexeme : Lexeme} {token : Token} {phrase : P} {phrase' : Q}
    {after : List Token} (closes : first.Closes tight (tokensOf front) lexeme.token)
    (follows : (frontToken (second.tokens phrase' ++ after)).binding < tight)
    (fits : first.Fits phrase) (starts : [lexeme.token] <+: tokensOf more ++ [token])
    (whole : tokensOf (front ++ more) ++ [token] <+:
      (first.followedBy second).tokens (phrase, phrase') ++ after) :
    first.tokens phrase = tokensOf front ∧
      tokensOf more ++ [token] <+: second.tokens phrase' ++ after := by
  rw [tokensOf_append, List.append_assoc, followedBy_tokens, List.append_assoc] at whole
  have here := closes phrase _ fits follows
    (((List.prefix_append_right_inj _).mpr starts).trans whole)
  rw [here, List.prefix_append_right_inj] at whole
  exact ⟨here, whole⟩

/-- Two parsers decide one after the other, if a phrase of the second class can be added where the
first parser stops, and if such phrases, with what may follow them, may follow the first class. -/
theorem Decides.followedBy {first : PhraseClass P α} {second : PhraseClass Q β} {tight : Nat}
    {parser : Parse γ} {next : γ → Parse δ}
    (added : second.Completes [])
    (follows : ∀ phrase after, (frontToken after).binding < strength →
      (frontToken (second.tokens phrase ++ after)).binding < tight)
    (one : Decides first tight lexemes (parser.run lexemes))
    (two : ∀ value front rest, lexemes = front ++ rest → Ended rest →
      Decides second strength rest ((next value).run rest)) :
    Decides (first.followedBy second) strength lexemes ((parser >>= next).run lexemes) := by
  generalize ran : parser.run lexemes = outcome at one
  cases one with
  | @refused front rest lexeme error parts position viable impossible =>
      rw [run_bind_of_error ran]
      refine .refused parts position ?_ ?_
      · obtain ⟨phrase, more, fits, tokens, padding⟩ := viable
        obtain ⟨phrase', more', fits', tokens', padding'⟩ := added
        refine ⟨(phrase, phrase'), more ++ more', ⟨fits, fits'⟩, ?_,
          List.forall_mem_append.mpr ⟨padding, padding'⟩⟩
        rw [PhraseClass.followedBy_tokens, tokens, tokens', List.nil_append, List.append_assoc]
      · rintro ⟨⟨phrase, phrase'⟩, after, ⟨fits, -⟩, stops, starts⟩
        rw [PhraseClass.followedBy_tokens, List.append_assoc] at starts
        exact impossible ⟨phrase, _, fits, follows phrase' after stops, starts⟩
  | @read front rest lexeme phrase value parts ended fits tokens closes =>
      rw [run_bind_of_ok ran]
      have later := two value front (lexeme :: rest) parts ended
      generalize (next value).run (lexeme :: rest) = outcome at later
      cases later with
      | @read front' rest' lexeme' phrase' result parts' ended' fits' tokens' closes' =>
          have whole : lexemes = (front ++ front') ++ lexeme' :: rest' := by
            rw [parts, parts', List.append_assoc]
          have both : (first.followedBy second).Fits (phrase, phrase') := ⟨fits, fits'⟩
          refine .read result whole ended' both ?_ ?_
          · rw [PhraseClass.followedBy_tokens, tokens, tokens', tokensOf_append]
          · rintro ⟨other, other'⟩ after ⟨fitsOne, fitsTwo⟩ stops starts
            have head := frontToken_prefix front' lexeme' rest'
            rw [← parts'] at head
            obtain ⟨same, behind⟩ := closes.inside (follows other' after stops) fitsOne head starts
            rw [PhraseClass.followedBy_tokens, same, tokensOf_append,
              closes' other' after fitsTwo stops behind]
      | @refused front' rest' lexeme' error parts' position viable impossible =>
          have whole : lexemes = (front ++ front') ++ lexeme' :: rest' := by
            rw [parts, parts', List.append_assoc]
          refine .refused whole position ?_ ?_
          · obtain ⟨last, more, fitsLast, tokensLast, padding⟩ := viable
            refine ⟨(phrase, last), more, ⟨fits, fitsLast⟩, ?_, padding⟩
            rw [PhraseClass.followedBy_tokens, tokens, tokensLast, tokensOf_append,
              List.append_assoc]
          · rintro ⟨⟨other, other'⟩, after, ⟨fitsOne, fitsTwo⟩, stops, starts⟩
            have head := frontToken_prefix front' lexeme' rest'
            rw [← parts'] at head
            obtain ⟨-, behind⟩ := closes.inside (follows other' after stops) fitsOne head starts
            exact impossible ⟨other', after, fitsTwo, stops, behind⟩

/-- A class is decided like another one, if its phrases that start like the lexemes are those of the
other class with a few lexemes in front. -/
theorem Decides.within {inner : PhraseClass P α} {outer : PhraseClass Q β} {build : P → Q}
    {outcome : Except SyntaxError (γ × List Lexeme)} (before : List Lexeme)
    (tokens : ∀ phrase, outer.tokens (build phrase) = tokensOf before ++ inner.tokens phrase)
    (fits : ∀ phrase, inner.Fits phrase → outer.Fits (build phrase))
    (only : ∀ phrase after, outer.Fits phrase → (frontToken after).binding < strength →
      tokensOf before ++ [frontToken (tokensOf lexemes)] <+: outer.tokens phrase ++ after →
        ∃ phrase', inner.Fits phrase' ∧ build phrase' = phrase)
    (decides : Decides inner strength lexemes outcome) :
    Decides outer strength (before ++ lexemes) outcome := by
  -- A phrase that starts like what has been read is one of the other class, which starts so behind
  -- the lexemes in front.
  have inside : ∀ {front rest : List Lexeme} {lexeme : Lexeme} {phrase : Q} {after : List Token},
      lexemes = front ++ lexeme :: rest → outer.Fits phrase →
      (frontToken after).binding < strength →
      tokensOf (before ++ front) ++ [lexeme.token] <+: outer.tokens phrase ++ after →
        ∃ phrase', inner.Fits phrase' ∧ build phrase' = phrase ∧
          tokensOf front ++ [lexeme.token] <+: inner.tokens phrase' ++ after := by
    intro front rest lexeme phrase after parts fits' stops starts
    have head := frontToken_prefix front lexeme rest
    rw [← parts] at head
    rw [tokensOf_append, List.append_assoc] at starts
    obtain ⟨phrase', fitsInner, rfl⟩ := only phrase after fits' stops
      (((List.prefix_append_right_inj _).mpr head).trans starts)
    rw [tokens, List.append_assoc, List.prefix_append_right_inj] at starts
    exact ⟨phrase', fitsInner, rfl, starts⟩
  cases decides with
  | @read front rest lexeme phrase result parts ended fits' tokens' closes =>
      have whole : before ++ lexemes = (before ++ front) ++ lexeme :: rest := by
        rw [parts, List.append_assoc]
      refine .read result whole ended (fits _ fits') ?_ ?_
      · rw [tokens, tokens', tokensOf_append]
      · intro other after fitsOther stops starts
        obtain ⟨phrase', fitsInner, rfl, behind⟩ := inside parts fitsOther stops starts
        rw [tokens, tokensOf_append, closes phrase' after fitsInner stops behind]
  | @refused front rest lexeme error parts position viable impossible =>
      have whole : before ++ lexemes = (before ++ front) ++ lexeme :: rest := by
        rw [parts, List.append_assoc]
      refine .refused whole position ?_ ?_
      · obtain ⟨phrase, more, fits', tokens', padding⟩ := viable
        refine ⟨build phrase, more, fits _ fits', ?_, padding⟩
        rw [tokens, tokens', tokensOf_append, List.append_assoc]
      · rintro ⟨other, after, fitsOther, stops, starts⟩
        obtain ⟨phrase', fitsInner, -, behind⟩ := inside parts fitsOther stops starts
        exact impossible ⟨phrase', after, fitsInner, stops, behind⟩

end Rules

/-! ### Links -/

section Linked

variable {P α σ : Type} {operand : Parse α} {phrases : PhraseClass P α} {sign : σ → Token}
  {sign? : Token → Option σ} {strength bound : Nat}

/-- Signs with an operand behind each, up to a limit if there is one. -/
def PhraseClass.links (operand : PhraseClass P α) (sign : σ → Token) (limit? : Option Nat) :
    PhraseClass (List (σ × P)) (List (σ × α)) where
  tokens := linkTokens sign operand.tokens
  tree links := links.map fun link => (link.1, operand.tree link.2)
  Fits links := (∀ link ∈ links, operand.Fits link.2) ∧ ∀ limit ∈ limit?, links.length ≤ limit

theorem PhraseClass.links_nil (operand : PhraseClass P α) (sign : σ → Token)
    (limit? : Option Nat) : (operand.links sign limit?).Fits [] :=
  ⟨List.forall_mem_nil _, fun _ _ => Nat.zero_le _⟩

theorem PhraseClass.links_completes (operand : PhraseClass P α) (sign : σ → Token)
    (limit? : Option Nat) : (operand.links sign limit?).Completes [] :=
  ⟨[], [], operand.links_nil sign limit?, rfl, List.forall_mem_nil _⟩

theorem PhraseClass.links_fits_cons {limit? : Option Nat} {link : σ × P} {links : List (σ × P)} :
    (phrases.links sign (limit?.map (· + 1))).Fits (link :: links) ↔
      phrases.Fits link.2 ∧ (phrases.links sign limit?).Fits links := by
  simp only [PhraseClass.links, List.forall_mem_cons, List.length_cons, and_assoc]
  cases limit? <;> simp

/-- Where no link can be read, none is. -/
theorem Decides.noLink {β : Type} {limit? : Option Nat} {lexeme : Lexeme} {rest : List Lexeme}
    (result : β) (ended : Ended (lexeme :: rest))
    (stuck : ∀ operator, sign operator ≠ lexeme.token ∨ limit? = some 0) :
    Decides (phrases.links sign limit?) strength (lexeme :: rest)
      (.ok (result, lexeme :: rest)) := by
  refine .read result (List.nil_append _).symm ended (phrases.links_nil sign limit?) rfl ?_
  rintro (_ | ⟨⟨operator, phrase⟩, links⟩) after ⟨-, few⟩ - starts
  · rfl
  · rcases stuck operator with other | begun
    · exact absurd (List.cons_prefix_cons.mp starts).1.symm other
    · exact absurd (few 0 begun) (Nat.not_succ_le_zero _)

/-- A count of links to read is the limit, or there is no limit and the count is as large as there are
lexemes. -/
def Suffices (count : Nat) (lexemes : List Lexeme) : Option Nat → Prop
  | some limit => limit = count
  | none => lexemes.length ≤ count

/-- Behind a link there is one link less to read. -/
theorem Suffices.behind {count : Nat} {lexeme : Lexeme} {rest : List Lexeme} :
    ∀ {limit? : Option Nat}, Suffices (count + 1) (lexeme :: rest) limit? →
      ∃ later? : Option Nat, limit? = later?.map (· + 1) ∧
        ∀ behind : List Lexeme, behind.length ≤ rest.length → Suffices count behind later?
  | some _, enough => ⟨some count, congrArg some enough, fun _ _ => rfl⟩
  | none, enough =>
      ⟨none, rfl, fun _ shorter => shorter.trans (Nat.le_of_succ_le_succ enough)⟩

/-- A link that its sign is in front of is decided like its operand and the links behind it. -/
theorem Decides.link {β : Type} {later? : Option Nat} {operator : σ} {lexeme : Lexeme}
    {rest : List Lexeme} {outcome : Except SyntaxError (β × List Lexeme)}
    (distinct : Function.Injective sign) (binds : ∀ operator, (sign operator).binding = strength)
    (here : lexeme.token = sign operator)
    (both : Decides (phrases.followedBy (phrases.links sign later?)) strength rest outcome) :
    Decides (phrases.links sign (later?.map (· + 1))) strength (lexeme :: rest) outcome := by
  let build (parts : P × List (σ × P)) : List (σ × P) := (operator, parts.1) :: parts.2
  have tokens : ∀ parts, (phrases.links sign (later?.map (· + 1))).tokens (build parts) =
      tokensOf [lexeme] ++ (phrases.followedBy (phrases.links sign later?)).tokens parts := by
    intro parts
    rw [tokensOf_cons, here]
    rfl
  have fits : ∀ parts, (phrases.followedBy (phrases.links sign later?)).Fits parts →
      (phrases.links sign (later?.map (· + 1))).Fits ((operator, parts.1) :: parts.2) :=
    fun parts inside => PhraseClass.links_fits_cons.mpr inside
  refine Decides.within [lexeme] tokens fits ?_ both
  rintro (_ | ⟨⟨operator', phrase⟩, links⟩) after inside stops ⟨behind, starts⟩
  · have front : frontToken after = sign operator := by
      change lexeme.token :: (frontToken (tokensOf rest) :: behind) = after at starts
      rw [← starts, frontToken_cons, here]
    rw [front, binds] at stops
    exact absurd stops (Nat.lt_irrefl _)
  · obtain rfl : operator = operator' := distinct (here.symm.trans (List.cons.inj starts).1)
    exact ⟨(phrase, links), PhraseClass.links_fits_cons.mp inside, rfl⟩

/-- Links are read one after the other, each once its sign has been seen. -/
theorem pairs_decides
    (reads : ∀ token operator, sign? token = some operator ↔ token = sign operator)
    (atEnd : sign? .endOfText = none) (binds : ∀ operator, (sign operator).binding = strength)
    (predictive : Predictive operand phrases (strength + 1) bound) :
    ∀ (count : Nat) (limit? : Option Nat) (lexemes : List Lexeme), Ended lexemes →
      lexemes.length ≤ bound → Suffices count lexemes limit? →
        Decides (phrases.links sign limit?) strength lexemes
          ((pairs sign? operand count).run lexemes)
  | 0, limit?, lexemes, ended, _, enough => by
      obtain ⟨lexeme, rest, rfl⟩ := ended.exists_cons
      refine Decides.noLink [] ended fun operator => .inr ?_
      cases limit? with
      | none => exact absurd enough (Nat.not_succ_le_zero _)
      | some limit => exact congrArg some enough
  | count + 1, limit?, lexemes, ended, short, enough => by
      obtain ⟨lexeme, rest, rfl⟩ := ended.exists_cons
      unfold pairs
      cases found : sign? lexeme.token with
      | none =>
          rw [run_bind_of_ok (run_accept?_of_none found)]
          refine Decides.noLink [] ended fun operator => .inl fun same => ?_
          rw [(reads _ operator).mpr same.symm] at found
          cases found
      | some operator =>
          rw [run_bind_of_ok (run_accept?_of_some found)]
          have later : Ended rest := ended.tail fun last => by
            rw [last, atEnd] at found
            cases found
          have distinct : Function.Injective sign := fun one two same =>
            Option.some.inj (((reads _ one).mpr rfl).symm.trans ((reads _ two).mpr same))
          obtain ⟨later?, rfl, enough'⟩ := enough.behind
          have short' : rest.length ≤ bound := Nat.le_of_succ_le short
          refine Decides.link distinct binds ((reads _ _).mp found) ?_
          refine Decides.followedBy (phrases.links_completes sign later?)
            (fun links after => binding_front_link_lt binds links)
            (predictive rest later short') fun right front behind parts inner => ?_
          have shorter : behind.length ≤ rest.length := by
            rw [parts, List.length_append]
            omega
          have links := pairs_decides reads atEnd binds predictive count later? behind inner
            (shorter.trans short') (enough' behind shorter)
          have made := links.map ((operator, right) :: ·)
          rwa [map_eq_pure_bind] at made

/-- An operand and what is linked to it are decided if the operand is. -/
theorem linked_predictive {limit? : Option Nat}
    (reads : ∀ token operator, sign? token = some operator ↔ token = sign operator)
    (atEnd : sign? .endOfText = none) (binds : ∀ operator, (sign operator).binding = strength)
    (predictive : Predictive operand phrases (strength + 1) bound) :
    Predictive (Parse.linked sign? operand limit?) (phrases.linked sign limit?) strength bound := by
  intro lexemes ended short
  have both : Decides (phrases.followedBy (phrases.links sign limit?)) strength lexemes
      ((Parse.linked sign? operand limit?).run lexemes) := by
    refine Decides.followedBy (phrases.links_completes sign limit?)
      (fun links after => binding_front_link_lt binds links)
      (predictive lexemes ended short) fun left front rest parts inner => ?_
    have short' : rest.length ≤ bound := by
      rw [parts, List.length_append] at short
      omega
    have enough : Suffices (limit?.getD rest.length) rest limit? := by
      cases limit? with
      | none => exact Nat.le_refl _
      | some limit => rfl
    have links := pairs_decides reads atEnd binds predictive _ limit? rest inner short' enough
    have made := links.map fun links => (left, links)
    rwa [map_eq_pure_bind] at made
  exact both

end Linked

/-! ### Values -/

theorem PrimaryPhrase.completes_nil : PrimaryPhrase.phrases.Completes [] :=
  ⟨.null, [.keyword .null], trivial, rfl, List.forall_mem_singleton.mpr (.inl rfl)⟩

/-- A value is a single token, or it starts with a parenthesis. -/
theorem PrimaryPhrase.single_or_group (phrase : PrimaryPhrase) :
    (∃ token, phrase.tokens = [token] ∧ token ≠ .openParenthesis) ∨
      ∃ inner, phrase = .group inner := by
  cases phrase with
  | group inner => exact .inr ⟨inner, rfl⟩
  | boolean | number | text | null | parameter | path => exact .inl ⟨_, rfl, by simp⟩

/-- A value that starts with a token other than a parenthesis is this token. -/
theorem PrimaryPhrase.tokens_of_prefix {phrase : PrimaryPhrase} {token : Token}
    {behind after : List Token} (noGroup : token ≠ .openParenthesis)
    (starts : token :: behind <+: phrase.tokens ++ after) : phrase.tokens = [token] := by
  obtain ⟨more, starts⟩ := starts
  rcases phrase.single_or_group with ⟨first, same, -⟩ | ⟨content, rfl⟩
  · rw [same] at starts
    rw [(List.cons.inj starts).1]
    exact same
  · exact absurd (List.cons.inj starts).1 noGroup

/-- A token that is a value is read. -/
theorem primary_read {token : Token} {position : Nat} {rest : List Lexeme} {phrase : PrimaryPhrase}
    (result : Primary) (ended : Ended (⟨token, position⟩ :: rest)) (tokens : phrase.tokens = [token])
    (fits : phrase.InRange) :
    Decides PrimaryPhrase.phrases 7 (⟨token, position⟩ :: rest) (.ok (result, rest)) := by
  have inner : token ≠ .endOfText := by
    rintro rfl
    exact phrase.endOfText_notMem (by simp [tokens])
  have noGroup : token ≠ .openParenthesis := by
    rcases phrase.single_or_group with ⟨other, same, noGroup⟩ | ⟨content, rfl⟩
    · rw [tokens] at same
      cases same
      exact noGroup
    · simp [PrimaryPhrase.tokens] at tokens
  have later := ended.tail inner
  obtain ⟨next, behind, rfl⟩ := later.exists_cons
  refine .read result (List.singleton_append).symm later fits tokens ?_
  exact fun other after _ _ starts => PrimaryPhrase.tokens_of_prefix noGroup starts

/-- A token that no value in range starts with is refused. -/
theorem primary_refused {token : Token} {position : Nat} {rest : List Lexeme} {error : SyntaxError}
    (place : position = error.position)
    (fitsNone : ∀ phrase : PrimaryPhrase, phrase.InRange → frontToken phrase.tokens ≠ token) :
    Decides (β := Primary) PrimaryPhrase.phrases 7 (⟨token, position⟩ :: rest) (.error error) := by
  refine .refused (List.nil_append _).symm place PrimaryPhrase.completes_nil ?_
  rintro ⟨phrase, after, fits, -, more, starts⟩
  obtain ⟨first, tokens, parts⟩ := List.exists_cons_of_ne_nil phrase.tokens_ne_nil
  change _ = phrase.tokens ++ after at starts
  refine fitsNone phrase fits ?_
  rw [parts] at starts ⊢
  exact (List.cons.inj starts).1.symm

/-- Whether some value starts with a token. -/
def Token.startsValue : Token → Bool
  | .operator _ | .keyword .empty | .closeParenthesis | .endOfText => false
  | _ => true

theorem PrimaryPhrase.frontToken_ne {token : Token} (stray : token.startsValue = false)
    (phrase : PrimaryPhrase) (_ : phrase.InRange) : frontToken phrase.tokens ≠ token := by
  rintro rfl
  cases phrase with
  | boolean flag => cases flag <;> cases stray
  | number | text | null | parameter | path | group => cases stray

/-- Only a number in range starts a value. -/
theorem numberLiteral_of_frontToken {phrase : PrimaryPhrase} {written : String}
    (fits : phrase.InRange) (starts : frontToken phrase.tokens = .number written) :
    ∃ literal, numberLiteral written = .ok literal := by
  cases phrase with
  | number other =>
      cases starts
      exact ⟨_, (numberLiteral_eq_ok_iff written _).mpr ⟨fits, rfl⟩⟩
  | boolean flag => cases flag <;> cases starts
  | text | null | parameter | path | group => cases starts

/-- Only a parameter whose index can be read starts a value. -/
theorem parameterIndex_of_frontToken {phrase : PrimaryPhrase} {written : String}
    (fits : phrase.InRange) (starts : frontToken phrase.tokens = .parameter written) :
    ∃ index, parameterIndex written = .ok index := by
  cases phrase with
  | parameter other =>
      cases starts
      exact ⟨_, (parameterIndex_eq_ok_iff written _).mpr ⟨fits, rfl⟩⟩
  | boolean flag => cases flag <;> cases starts
  | text | null | number | path | group => cases starts

/-- A closing parenthesis as a phrase. -/
def closing : PhraseClass Unit Unit where
  tokens _ := [.closeParenthesis]
  tree _ := ()
  Fits _ := True

theorem closing_completes : closing.Completes [] :=
  ⟨(), [.closeParenthesis], trivial, rfl, List.forall_mem_singleton.mpr (.inr rfl)⟩

/-- The end of a group as the parser reads it. -/
def closeGroup (nested : Disjunction) : Parse Primary := do
  if (← current).token == .closeParenthesis then advance else failHere .closingExpected
  pure (.nested nested)

theorem closeGroup_predictive (nested : Disjunction) (bound : Nat) :
    Predictive (closeGroup nested) closing 7 bound := by
  intro lexemes ended _
  obtain ⟨lexeme, rest, rfl⟩ := ended.exists_cons
  by_cases closes : lexeme.token = .closeParenthesis
  · obtain ⟨token, position⟩ := lexeme
    obtain rfl : token = .closeParenthesis := closes
    have later : Ended rest := ended.tail (by simp)
    obtain ⟨next, behind, rfl⟩ := later.exists_cons
    have fits : closing.Fits () := trivial
    exact .read (Primary.nested nested) List.singleton_append.symm later fits rfl
      fun _ _ _ _ _ => rfl
  · have run : (closeGroup nested).run (lexeme :: rest) =
        .error ⟨.closingExpected, lexeme.position⟩ := by
      unfold closeGroup
      rw [run_bind_of_ok (run_current _), List.headD_cons, beq_false_of_ne closes]
      rfl
    rw [run]
    refine .refused (List.nil_append _).symm rfl closing_completes ?_
    rintro ⟨_, after, _, _, more, starts⟩
    exact closes (List.cons.inj starts).1

/-- Groups are decided like what stands in them and the parenthesis behind it. -/
theorem primary_group_decides {inner : Parse Disjunction} {bound position : Nat}
    {rest : List Lexeme} (predictive : Predictive inner DisjunctionPhrase.phrases 1 bound)
    (later : Ended rest) (short : rest.length ≤ bound) :
    Decides PrimaryPhrase.phrases 7 (⟨.openParenthesis, position⟩ :: rest)
      ((primary inner).run (⟨.openParenthesis, position⟩ :: rest)) := by
  rw [run_primary_group]
  let build (parts : DisjunctionPhrase × Unit) : PrimaryPhrase := .group parts.1
  have tokens : ∀ parts, PrimaryPhrase.phrases.tokens (build parts) =
      tokensOf [⟨.openParenthesis, position⟩] ++
        (DisjunctionPhrase.phrases.followedBy closing).tokens parts := fun parts => rfl
  have fits : ∀ parts, (DisjunctionPhrase.phrases.followedBy closing).Fits parts →
      PrimaryPhrase.phrases.Fits (build parts) := fun parts inside => inside.1
  refine Decides.within [_] tokens fits ?_ (Decides.followedBy closing_completes ?_
    (predictive rest later short) fun nested front behind _ inner =>
      closeGroup_predictive nested behind.length behind inner (Nat.le_refl _))
  · rintro phrase after inside - ⟨more, starts⟩
    rcases phrase.single_or_group with ⟨token, same, other⟩ | ⟨content, rfl⟩
    · change _ = phrase.tokens ++ after at starts
      rw [same] at starts
      exact absurd (List.cons.inj starts).1.symm other
    · exact ⟨(content, ()), ⟨inside, trivial⟩, rfl⟩
  · intro phrase after _
    exact Nat.zero_lt_one

theorem primary_predictive {inner : Parse Disjunction} {bound : Nat}
    (predictive : Predictive inner DisjunctionPhrase.phrases 1 bound) :
    Predictive (primary inner) PrimaryPhrase.phrases 7 (bound + 1) := by
  intro lexemes ended short
  obtain ⟨⟨token, position⟩, rest, rfl⟩ := ended.exists_cons
  cases token with
  | openParenthesis =>
      exact primary_group_decides predictive (ended.tail (by simp)) (Nat.le_of_succ_le_succ short)
  | number written =>
      unfold primary
      rw [run_bind_of_ok (run_current _)]
      simp only [List.headD_cons]
      cases literal : numberLiteral written with
      | ok value =>
          have tokens : (PrimaryPhrase.number written).tokens = [.number written] := rfl
          exact primary_read value ended tokens ((numberLiteral_eq_ok_iff written value).mp literal).1
      | error fault =>
          refine primary_refused rfl fun phrase fits starts => ?_
          obtain ⟨value, read⟩ := numberLiteral_of_frontToken fits starts
          rw [literal] at read
          cases read
  | text content =>
      have tokens : (PrimaryPhrase.text content).tokens = [.text content] := rfl
      exact primary_read (.text content) ended tokens trivial
  | parameter written =>
      unfold primary
      rw [run_bind_of_ok (run_current _)]
      simp only [List.headD_cons]
      cases number : parameterIndex written with
      | ok index =>
          have tokens : (PrimaryPhrase.parameter written).tokens = [.parameter written] := rfl
          exact primary_read (.parameter index) ended tokens
            ((parameterIndex_eq_ok_iff written index).mp number).1
      | error fault =>
          refine primary_refused rfl fun phrase fits starts => ?_
          obtain ⟨index, read⟩ := parameterIndex_of_frontToken fits starts
          rw [number] at read
          cases read
  | path written =>
      have tokens : (PrimaryPhrase.path written).tokens = [.path written] := rfl
      exact primary_read (.path written) ended tokens trivial
  | keyword word =>
      cases word with
      | isTrue =>
          have tokens : (PrimaryPhrase.boolean true).tokens = [.keyword .isTrue] := rfl
          exact primary_read (.boolean true) ended tokens trivial
      | isFalse =>
          have tokens : (PrimaryPhrase.boolean false).tokens = [.keyword .isFalse] := rfl
          exact primary_read (.boolean false) ended tokens trivial
      | null =>
          have tokens : PrimaryPhrase.null.tokens = [.keyword .null] := rfl
          exact primary_read .null ended tokens trivial
      | empty => exact primary_refused rfl (PrimaryPhrase.frontToken_ne rfl)
  | operator sign => exact primary_refused rfl (PrimaryPhrase.frontToken_ne rfl)
  | closeParenthesis => exact primary_refused rfl (PrimaryPhrase.frontToken_ne rfl)
  | endOfText => exact primary_refused rfl (PrimaryPhrase.frontToken_ne rfl)

/-! ### Values with an operator in front -/

/-- The values that may stand behind an operator: 2^63 is in range behind a minus sign. -/
def PrimaryPhrase.behindSign (sign : UnaryOperator) : PhraseClass PrimaryPhrase Primary where
  tokens := tokens
  tree := tree
  Fits operand := (UnaryPhrase.applied sign operand).InRange

/-- Where 2^63 does not stand behind a minus sign, an operator makes no difference to its operand. -/
theorem behindSign_decides {β : Type} {sign : UnaryOperator} {lexemes : List Lexeme}
    {outcome : Except SyntaxError (β × List Lexeme)}
    (ordinary : ¬ (sign = .minus ∧ isLeastMagnitude (frontToken (tokensOf lexemes)) = true))
    (decides : Decides PrimaryPhrase.phrases 7 lexemes outcome) :
    Decides (PrimaryPhrase.behindSign sign) 7 lexemes outcome := by
  have tokens : ∀ operand, (PrimaryPhrase.behindSign sign).tokens (id operand) =
      tokensOf [] ++ PrimaryPhrase.phrases.tokens operand := fun operand => rfl
  refine Decides.within [] tokens (fun operand => .inl) ?_ decides
  rintro operand after (fits | ⟨minus, least⟩) - ⟨more, starts⟩
  · exact ⟨operand, fits, rfl⟩
  · change frontToken (tokensOf lexemes) :: more = operand.tokens ++ after at starts
    refine absurd ⟨minus, ?_⟩ ordinary
    have front := (isLeastMagnitude_frontToken operand after).mpr least
    rwa [← starts, frontToken_cons] at front

/-- The operand of an operator as the parser reads it. -/
def operandOf (inner : Parse Disjunction) (sign : UnaryOperator) : Parse Unary := do
  if sign == .minus && isLeastMagnitude (← current).token then
    advance
    pure (.plain (.integer Word64.least))
  else
    let operand ← primary inner
    pure (.applied sign operand)

theorem operandOf_decides {inner : Parse Disjunction} {bound : Nat} {sign : UnaryOperator}
    {lexemes : List Lexeme} (predictive : Predictive inner DisjunctionPhrase.phrases 1 bound)
    (ended : Ended lexemes) (short : lexemes.length ≤ bound + 1) :
    Decides (PrimaryPhrase.behindSign sign) 7 lexemes ((operandOf inner sign).run lexemes) := by
  have operand := primary_predictive predictive lexemes ended short
  obtain ⟨⟨token, position⟩, rest, rfl⟩ := ended.exists_cons
  by_cases least : sign = .minus ∧ isLeastMagnitude token = true
  · obtain ⟨rfl, magnitude⟩ := least
    have run : (operandOf inner .minus).run (⟨token, position⟩ :: rest) =
        .ok (.plain (.integer Word64.least), rest) := by
      unfold operandOf
      rw [run_bind_of_ok (run_current _)]
      simp only [List.headD_cons, magnitude, beq_self_eq_true, Bool.and_self, if_true]
      rfl
    rw [run]
    cases token with
    | number written =>
        have later := ended.tail (by simp)
        obtain ⟨next, behind, rfl⟩ := later.exists_cons
        have fits : (PrimaryPhrase.behindSign .minus).Fits (.number written) :=
          .inr ⟨rfl, (isLeastMagnitude_number written).mp magnitude⟩
        exact .read _ List.singleton_append.symm later fits rfl fun other after _ _ starts =>
          PrimaryPhrase.tokens_of_prefix (by simp) starts
    | _ => cases magnitude
  · have run : (operandOf inner sign).run (⟨token, position⟩ :: rest) =
        (Unary.applied sign <$> primary inner).run (⟨token, position⟩ :: rest) := by
      have test : (sign == .minus && isLeastMagnitude token) = false := by
        simpa using least
      unfold operandOf
      rw [run_bind_of_ok (run_current _)]
      simp only [List.headD_cons, test, Bool.false_eq_true, if_false, map_eq_pure_bind]
    rw [run]
    exact (behindSign_decides least operand).map _

theorem unary_predictive {inner : Parse Disjunction} {bound : Nat}
    (predictive : Predictive inner DisjunctionPhrase.phrases 1 bound) :
    Predictive (unary inner) UnaryPhrase.phrases 7 (bound + 1) := by
  intro lexemes ended short
  obtain ⟨lexeme, rest, rfl⟩ := ended.exists_cons
  unfold unary
  cases found : unarySign? lexeme.token with
  | none =>
      have tokens : ∀ operand, UnaryPhrase.phrases.tokens (.plain operand) =
          tokensOf [] ++ PrimaryPhrase.phrases.tokens operand := fun operand => rfl
      have plain := (primary_predictive predictive _ ended short).map Unary.plain
      rw [map_eq_pure_bind] at plain
      rw [run_bind_of_ok (run_accept?_of_none found)]
      refine Decides.within [] tokens (fun operand => id) ?_ plain
      rintro (operand | ⟨sign, operand⟩) after inside - ⟨more, starts⟩
      · exact ⟨operand, inside, rfl⟩
      · have sign' := (unarySign?_eq_some _ sign).mpr (List.cons.inj starts).1
        rw [tokensOf_cons, frontToken_cons, found] at sign'
        cases sign'
  | some sign =>
      rw [run_bind_of_ok (run_accept?_of_some found)]
      have here := (unarySign?_eq_some _ _).mp found
      have later : Ended rest := ended.tail fun last => by
        rw [last] at found
        cases found
      have tokens : ∀ operand, UnaryPhrase.phrases.tokens (.applied sign operand) =
          tokensOf [lexeme] ++ (PrimaryPhrase.behindSign sign).tokens operand := by
        intro operand
        rw [tokensOf_cons, here]
        rfl
      refine Decides.within [lexeme] tokens (fun operand => id) ?_
        (operandOf_decides predictive later (Nat.le_of_succ_le short))
      rintro (operand | ⟨sign', operand⟩) after inside - ⟨more, starts⟩
      · rw [tokensOf_cons, here] at starts
        exact absurd starts.symm (operand.tokens_ne_sign sign _ after)
      · obtain rfl : sign = sign' :=
          UnaryOperator.token_injective (here.symm.trans (List.cons.inj starts).1)
        exact ⟨operand, inside, rfl⟩

/-! ### All levels -/

/-- Expressions are decided, if there are no more lexemes than the nesting may be deep. -/
theorem disjunction_predictive (depth : Nat) :
    Predictive (disjunction depth) DisjunctionPhrase.phrases 1 depth := by
  induction depth with
  | zero =>
      intro lexemes ended short
      obtain ⟨lexeme, rest, rfl⟩ := ended.exists_cons
      exact absurd short (Nat.not_succ_le_zero _)
  | succ depth ih =>
      have product :
          Predictive (product (disjunction depth)) ProductPhrase.phrases 6 (depth + 1) := by
        rw [product_eq]
        exact ProductPhrase.presents.predictive (linked_predictive productSign?_eq_some rfl
          ProductOperator.token_binding (unary_predictive ih))
      have sum : Predictive (sum (disjunction depth)) SumPhrase.phrases 5 (depth + 1) := by
        rw [sum_eq]
        exact SumPhrase.presents.predictive (linked_predictive sumSign?_eq_some rfl
          SumOperator.token_binding product)
      have comparison :
          Predictive (comparison (disjunction depth)) ComparisonPhrase.phrases 4 (depth + 1) := by
        rw [comparison_eq]
        exact ComparisonPhrase.presents.predictive (linked_predictive comparisonSign?_eq_some rfl
          ComparisonOperator.token_binding sum)
      have equality :
          Predictive (equality (disjunction depth)) EqualityPhrase.phrases 3 (depth + 1) := by
        rw [equality_eq]
        exact EqualityPhrase.presents.predictive (linked_predictive equalitySign?_eq_some rfl
          EqualityOperator.token_binding comparison)
      have conjunction :
          Predictive (conjunction (disjunction depth)) ConjunctionPhrase.phrases 2 (depth + 1) := by
        rw [conjunction_eq]
        exact ConjunctionPhrase.presents.predictive (linked_predictive andSign?_eq_some rfl
          andToken_binding equality)
      rw [disjunction_eq]
      exact DisjunctionPhrase.presents.predictive (linked_predictive orSign?_eq_some rfl
        orToken_binding conjunction)

/-- Where lexemes are refused that are not only the end, the error is at the first lexeme with which
no expression can start: what stands in front of it can be completed, and nothing starts with it and
this lexeme, the end behind expressions counted in. -/
theorem parseLexemes_refused {lexemes : List Lexeme} {error : SyntaxError} (ended : Ended lexemes)
    (solid : frontToken (tokensOf lexemes) ≠ .endOfText)
    (refused : parseLexemes lexemes = .error error) :
    ∃ front lexeme rest, lexemes = front ++ lexeme :: rest ∧ lexeme.position = error.position ∧
      DisjunctionPhrase.phrases.Completes (tokensOf front) ∧
      ∀ phrase : DisjunctionPhrase, phrase.InRange →
        ¬ tokensOf front ++ [lexeme.token] <+: phrase.tokens ++ [.endOfText] := by
  rw [parseLexemes_eq, if_neg solid] at refused
  have decides := disjunction_predictive lexemes.length lexemes ended (Nat.le_refl _)
  generalize (disjunction lexemes.length).run lexemes = outcome at decides refused
  cases decides with
  | @refused front rest lexeme error' parts position viable impossible =>
      cases refused
      refine ⟨front, lexeme, rest, parts, position, viable, fun phrase fits starts => ?_⟩
      exact impossible ⟨phrase, [.endOfText], fits, Nat.zero_lt_one, starts⟩
  | @read front rest lexeme phrase root parts inner fits tokens closes =>
      simp only [Except.bind] at refused
      by_cases last : frontToken (tokensOf (lexeme :: rest)) = .endOfText
      · rw [if_pos last] at refused
        cases refused
      · rw [if_neg last] at refused
        cases refused
        refine ⟨front, lexeme, rest, parts, rfl, ⟨phrase, [], fits, ?_, List.forall_mem_nil _⟩, ?_⟩
        · rw [tokens, List.append_nil]
        · intro other fits' starts
          have same := closes other [.endOfText] fits' Nat.zero_lt_one starts
          change other.tokens = tokensOf front at same
          rw [same, List.prefix_append_right_inj] at starts
          exact last (List.cons_prefix_cons.mp starts).1

end Stencil.Expr
