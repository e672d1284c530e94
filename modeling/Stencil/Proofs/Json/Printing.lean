/-
Module: Stencil.Proofs.Json.Printing
Purpose: The written form of a document is a JSON text on one line, and spells that document alone.
Main exports: Document.IsFinite, spells_print, newline_notMem_print, spellsElement_print_iff
-/
import Stencil.Proofs.Expr.IntegerTexts
import Stencil.Proofs.Json.Unambiguity
import Stencil.Proofs.Number.Signed

namespace Stencil.Json

/-! ### Texts -/

theorem isCode_control : ∀ code < 0x20, IsCode (Text.hexadecimal 4 code) code := by
  unfold IsCode
  decide

/-- The written form of a character spells it. -/
theorem spells_textCharacter (character : Char) :
    SpellsCharacter (textCharacter character) character := by
  have ofCode : ∀ code, character.toNat = code → Char.ofNat code = character := by
    rintro code rfl
    exact Char.ofNat_toNat character
  unfold textCharacter
  split_ifs with quote backslash newline carriage tab backspace feed control
  · rw [beq_iff_eq.mp quote]
    exact .escape (by decide)
  · rw [beq_iff_eq.mp backslash]
    exact .escape (by decide)
  · rw [beq_iff_eq.mp newline]
    exact .escape (by decide)
  · rw [beq_iff_eq.mp carriage]
    exact .escape (by decide)
  · rw [beq_iff_eq.mp tab]
    exact .escape (by decide)
  · rw [← ofCode _ backspace]
    exact .escape (by decide)
  · rw [← ofCode _ feed]
    exact .escape (by decide)
  · have spelled := SpellsCharacter.code (isCode_control _ control) (.inl (by omega))
    rwa [ofCode _ rfl] at spelled
  · exact .plain (by simpa using quote) (by simpa using backslash) (Nat.not_lt.mp control)

theorem spells_textCharacters (content : List Char) :
    SpellsCharacters (content.flatMap textCharacter) content := by
  induction content with
  | nil => exact .nil
  | cons character later hypothesis => exact .cons (spells_textCharacter character) hypothesis

theorem spells_quoteText (content : List Char) :
    Spells (quoteText content) (.text (String.ofList content)) :=
  .text (spells_textCharacters content)

theorem spellsName_quoteText (name : String) : SpellsName (quoteText name.toList) name := by
  have blank : Spaces [] := by simp [Spaces]
  have spelled := SpellsName.quoted blank blank (spells_textCharacters name.toList)
  rwa [String.ofList_toList] at spelled

/-! ### Numbers -/

theorem isWhole_naturalDigits (value : Nat) : IsWhole (naturalDigits value) := by
  obtain rfl | positive := Nat.eq_zero_or_pos value
  · exact .inl rfl
  · exact .inr ⟨⟨naturalDigits_ne_nil value, naturalDigits_isDigit value⟩,
      head?_naturalDigits positive⟩

theorem readInteger?_integerText (value : Int) :
    readInteger? (integerText value).toList = some value := by
  obtain ⟨negative, digits, digital, -, written, denoted⟩ := Expr.integerText_eq_signedText value
  rw [written, Expr.readInteger?_signed digital, denoted]

theorem isMinus_sign (negative : Bool) : IsMinus (if negative then ['-'] else []) := by
  cases negative
  · exact .inl rfl
  · exact .inr rfl

theorem spells_integerText (value : Int) :
    SpellsNumber (integerText value).toList (.integer value) := by
  have read := readInteger?_integerText value
  have text : (integerText value).toList =
      (if decide (value < 0) then ['-'] else []) ++ naturalDigits value.natAbs := by
    simp [integerText]
  rw [text] at read ⊢
  exact .integer (isMinus_sign _) (isWhole_naturalDigits _) read

section Parts

variable {numeral : Numeral}

theorem isWhole_whole (leading : numeral.whole = ['0'] ∨ numeral.whole.head? ≠ some '0') :
    IsWhole numeral.whole :=
  leading.imp_right fun noZero => ⟨⟨numeral.whole_ne_nil, numeral.whole_digits⟩, noZero⟩

theorem isFraction_fractionText (nonempty : numeral.fraction ≠ []) :
    IsFraction (Numeral.fractionText numeral.fraction) := by
  refine ⟨numeral.fraction, ?_, nonempty, numeral.fraction_digits⟩
  simp [Numeral.fractionText, nonempty]

theorem isExponent_exponentText (given : numeral.exponent? ≠ none) :
    IsExponent (Numeral.exponentText numeral.exponent?) := by
  obtain ⟨⟨negative, digits⟩, parts⟩ := Option.ne_none_iff_exists'.mp given
  obtain ⟨nonempty, plain⟩ := numeral.exponent_digits (negative, digits) parts
  rw [parts]
  refine ⟨'e', [if negative then '-' else '+'], digits, .inl rfl, ?_, ⟨nonempty, plain⟩, rfl⟩
  cases negative
  · exact .inr (.inl rfl)
  · exact .inr (.inr rfl)

end Parts

theorem IsFraction.ne_nil {text : List Char} (behind : IsFraction text) : text ≠ [] := by
  obtain ⟨digits, rfl, -⟩ := behind
  simp

theorem IsExponent.ne_nil {text : List Char} (power : IsExponent text) : text ≠ [] := by
  obtain ⟨mark, sign, digits, -, -, -, rfl⟩ := power
  simp

/-- The written form of a finite number spells it. -/
theorem spells_doubleText {value : Double} (finite : value.isFinite) :
    SpellsNumber value.text.toList (.double value) := by
  have read := Double.readDouble?_text finite
  obtain ⟨numeral, text, leading, marked, -⟩ := Double.exists_signedNumeral finite
  rw [text, Numeral.text, ← List.append_assoc, ← List.append_assoc] at read ⊢
  refine .double (isMinus_sign _) (isWhole_whole leading) ?_ ?_ ?_ read
  · by_cases noFraction : numeral.fraction = []
    · exact .inl (by simp [noFraction, Numeral.fractionText])
    · exact .inr (isFraction_fractionText noFraction)
  · by_cases noExponent : numeral.exponent? = none
    · exact .inl (by simp [noExponent, Numeral.exponentText])
    · exact .inr (isExponent_exponentText noExponent)
  · exact marked.imp (fun there => (isFraction_fractionText there).ne_nil)
      fun there => (isExponent_exponentText there).ne_nil

/-! ### Documents -/

namespace Document

mutual

/-- The numbers of a document are finite. -/
def IsFinite : Document → Prop
  | null | boolean _ | integer _ | text _ => True
  | double value => value.isFinite
  | array items => AreFinite items
  | object members => AreFiniteMembers members

def AreFinite : List Document → Prop
  | [] => True
  | item :: rest => item.IsFinite ∧ AreFinite rest

def AreFiniteMembers : List (String × Document) → Prop
  | [] => True
  | (_, item) :: rest => item.IsFinite ∧ AreFiniteMembers rest

end

end Document

open Document

/-! ### Blanks in front -/

theorem SpellsElement.of_spells {text : List Char} {document : Document}
    (spells : Spells text document) : SpellsElement text document := by
  have blank : Spaces [] := by simp [Spaces]
  have element := SpellsElement.value blank spells blank
  rwa [List.append_nil, List.nil_append] at element

theorem spaces_cons {blanks : List Char} (blank : Spaces blanks) : Spaces (' ' :: blanks) :=
  List.forall_mem_cons.mpr ⟨rfl, blank⟩

theorem SpellsElement.space {text : List Char} {document : Document}
    (element : SpellsElement text document) : SpellsElement (' ' :: text) document := by
  cases element with
  | value before value after => exact .value (spaces_cons before) value after

theorem SpellsName.space {text : List Char} {name : String} (key : SpellsName text name) :
    SpellsName (' ' :: text) name := by
  cases key with
  | quoted before after characters => exact .quoted (spaces_cons before) after characters

theorem SpellsItems.space {text : List Char} {documents : List Document}
    (items : SpellsItems text documents) : SpellsItems (' ' :: text) documents := by
  cases items with
  | last item => exact .last item.space
  | more item later => exact .more item.space later

theorem SpellsMembers.space {text : List Char} {entries : List (String × Document)}
    (members : SpellsMembers text entries) : SpellsMembers (' ' :: text) entries := by
  cases members with
  | last key item => exact .last key.space item
  | more key item later => exact .more key.space item later

/-! ### Collections -/

theorem joinParts_cons {part : List Char} {parts : List (List Char)} (nonempty : parts ≠ []) :
    joinParts (part :: parts) = part ++ ',' :: ' ' :: joinParts parts := by
  cases parts with
  | nil => exact absurd rfl nonempty
  | cons next later => rfl

mutual

/-- The written form of a document whose numbers are finite spells the document. -/
theorem spells_print : ∀ {document : Document}, document.IsFinite →
    Spells document.print document
  | .null, _ => .null
  | .boolean true, _ => .isTrue
  | .boolean false, _ => .isFalse
  | .integer value, _ => .number (spells_integerText value)
  | .double _, finite => .number (spells_doubleText finite)
  | .text characters, _ => by
      have spelled := spells_quoteText characters.toList
      rwa [String.ofList_toList] at spelled
  | .array [], _ => .noItems (by simp [Spaces, printItems, joinParts])
  | .array (item :: rest), finite => .items (spells_printItems (item :: rest) (by simp) finite)
  | .object [], _ => .noMembers (by simp [Spaces, printMembers, joinParts])
  | .object (member :: rest), finite =>
      .members (spells_printMembers (member :: rest) (by simp) finite)

theorem spells_printItems : ∀ items : List Document, items ≠ [] → AreFinite items →
    SpellsItems (joinParts (printItems items)) items
  | [], nonempty, _ => absurd rfl nonempty
  | [_], _, finite => .last (.of_spells (spells_print finite.1))
  | item :: next :: later, _, finite => by
      have first := SpellsElement.of_spells (spells_print finite.1)
      have others := (spells_printItems (next :: later) (by simp) finite.2).space
      rw [printItems, joinParts_cons (by simp [printItems])]
      exact .more first others

theorem spells_printMembers : ∀ members : List (String × Document), members ≠ [] →
    AreFiniteMembers members → SpellsMembers (joinParts (printMembers members)) members
  | [], nonempty, _ => absurd rfl nonempty
  | [(name, _)], _, finite =>
      .last (spellsName_quoteText name) (SpellsElement.of_spells (spells_print finite.1)).space
  | (name, item) :: next :: later, _, finite => by
      have first := (SpellsElement.of_spells (spells_print finite.1)).space
      have others := (spells_printMembers (next :: later) (by simp) finite.2).space
      have joined := SpellsMembers.more (spellsName_quoteText name) first others
      rw [printMembers, joinParts_cons (by simp [printMembers])]
      simpa using joined

end

/-- The written form of a document whose numbers are finite spells that document alone. -/
theorem spellsElement_print_iff {document document' : Document} (finite : document.IsFinite) :
    SpellsElement document.print document' ↔ document' = document := by
  have printed := SpellsElement.of_spells (spells_print finite)
  constructor
  · exact fun other => other.unambiguous printed
  · rintro rfl
    exact printed

/-! ### Lines -/

theorem newline_notMem_control : ∀ code < 0x20, '\n' ∉ '\\' :: 'u' :: Text.hexadecimal 4 code := by
  decide

theorem newline_notMem_textCharacter (character : Char) : '\n' ∉ textCharacter character := by
  unfold textCharacter
  split_ifs with _ _ newline _ _ _ _ control
  · decide
  · decide
  · decide
  · decide
  · decide
  · decide
  · decide
  · exact newline_notMem_control _ control
  · rw [List.mem_singleton]
    rintro rfl
    exact newline rfl

theorem newline_notMem_quoteText (content : List Char) : '\n' ∉ quoteText content := by
  simp [quoteText, newline_notMem_textCharacter]

theorem notMem_joinParts {character : Char} (noComma : character ≠ ',') (noBlank : character ≠ ' ')
    {parts : List (List Char)} (notMem : ∀ part ∈ parts, character ∉ part) :
    character ∉ joinParts parts := by
  induction parts with
  | nil => simp [joinParts]
  | cons part rest hypothesis =>
      cases rest with
      | nil => simpa [joinParts] using notMem
      | cons next later =>
          have first := notMem part (by simp)
          have others := hypothesis fun part member => notMem part (List.mem_cons_of_mem _ member)
          simp [joinParts_cons, first, others, noComma, noBlank]

theorem newline_notMem_number {text : List Char} {document : Document}
    (number : SpellsNumber text document) : '\n' ∉ text := fun member =>
  absurd (number.characters _ member) (by decide)

mutual

/-- A document is written on one line. -/
theorem newline_notMem_print : ∀ {document : Document}, document.IsFinite → '\n' ∉ document.print
  | .null, _ => by decide
  | .boolean true, _ => by decide
  | .boolean false, _ => by decide
  | .integer value, _ => newline_notMem_number (spells_integerText value)
  | .double _, finite => newline_notMem_number (spells_doubleText finite)
  | .text characters, _ => newline_notMem_quoteText characters.toList
  | .array items, finite => by
      have joined :=
        notMem_joinParts (by decide) (by decide) (newline_notMem_printItems items finite)
      simp [print, joined]
  | .object members, finite => by
      have joined :=
        notMem_joinParts (by decide) (by decide) (newline_notMem_printMembers members finite)
      simp [print, joined]

theorem newline_notMem_printItems : ∀ items : List Document, AreFinite items →
    ∀ part ∈ printItems items, '\n' ∉ part
  | [], _ => by simp [printItems]
  | item :: rest, finite => by
      rw [printItems]
      exact List.forall_mem_cons.mpr
        ⟨newline_notMem_print finite.1, newline_notMem_printItems rest finite.2⟩

theorem newline_notMem_printMembers : ∀ members : List (String × Document),
    AreFiniteMembers members → ∀ part ∈ printMembers members, '\n' ∉ part
  | [], _ => by simp [printMembers]
  | (name, item) :: rest, finite => by
      have value := newline_notMem_print finite.1
      have key := newline_notMem_quoteText name.toList
      have first : '\n' ∉ quoteText name.toList ++ ':' :: ' ' :: item.print := by
        simp [key, value]
      rw [printMembers]
      exact List.forall_mem_cons.mpr ⟨first, newline_notMem_printMembers rest finite.2⟩

end

end Stencil.Json
