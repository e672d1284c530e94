/-
Module: Stencil.Proofs.Json.Unambiguity
Purpose: A JSON text spells one document only.
Main exports: SpellsCharacters.unique, SpellsNumber.unique, Spells.unique, SpellsElement.unambiguous
-/
import Stencil.Proofs.Json.Grammar

namespace Stencil.Json

variable {text text' rest rest' : List Char}

/-! ### Runs -/

/-- The rest does not go on with a character of a class. -/
def Stops (class? : Char → Bool) (rest : List Char) : Prop :=
  ∀ next ∈ rest.head?, class? next = false

theorem takeWhile_run {class? : Char → Bool}
    (inside : ∀ character ∈ text, class? character = true) (stops : Stops class? rest) :
    (text ++ rest).takeWhile class? = text := by
  rw [List.takeWhile_append_of_pos inside]
  cases rest with
  | nil => simp
  | cons next later =>
      have stopped : class? next = false := stops next rfl
      simp [stopped]

/-- Two runs of a class that end in one text are the same. -/
theorem run_unique {class? : Char → Bool} (inside : ∀ character ∈ text, class? character = true)
    (inside' : ∀ character ∈ text', class? character = true) (stops : Stops class? rest)
    (stops' : Stops class? rest') (same : text ++ rest = text' ++ rest') : text = text' := by
  rw [← takeWhile_run inside stops, same, takeWhile_run inside' stops']

/-! ### Texts -/

theorem IsCode.unique {digits digits' : List Char} {value value' : Nat}
    (first : IsCode digits value) (second : IsCode digits' value')
    (same : digits ++ rest = digits' ++ rest') :
    digits = digits' ∧ value = value' ∧ rest = rest' := by
  obtain ⟨rfl, rests⟩ := List.append_inj same (by rw [first.1, second.1])
  exact ⟨rfl, Option.some.inj (first.2.symm.trans second.2), rests⟩

theorem shortEscapes_unique : ∀ first ∈ shortEscapes, ∀ second ∈ shortEscapes,
    first.1 = second.1 → first.2 = second.2 := by
  decide

theorem shortEscapes_ne_u : ∀ escape ∈ shortEscapes, escape.1 ≠ 'u' := by
  decide

/-- At each place there is one character that is spelled. -/
theorem SpellsCharacter.unique {character character' : Char}
    (first : SpellsCharacter text character) (second : SpellsCharacter text' character')
    (same : text ++ rest = text' ++ rest') : text = text' ∧ character = character' := by
  cases first with
  | plain _ noEscape =>
      cases second with
      | plain =>
          simp only [List.cons_append, List.nil_append, List.cons.injEq] at same
          exact ⟨by rw [same.1], same.1⟩
      | escape | code | pair => exact absurd (List.cons.inj same).1 noEscape
  | @escape mark meant listed =>
      cases second with
      | plain _ noEscape => exact absurd (List.cons.inj same).1.symm noEscape
      | escape listed' =>
          simp only [List.cons_append, List.nil_append, List.cons.injEq, true_and] at same
          obtain ⟨rfl, _⟩ := same
          exact ⟨rfl, shortEscapes_unique _ listed _ listed' rfl⟩
      | code | pair =>
          simp only [List.cons_append, List.nil_append, List.cons.injEq, true_and] at same
          exact absurd same.1 (shortEscapes_ne_u _ listed)
  | code isCode single =>
      cases second with
      | plain _ noEscape => exact absurd (List.cons.inj same).1.symm noEscape
      | escape listed =>
          simp only [List.cons_append, List.nil_append, List.cons.injEq, true_and] at same
          exact absurd same.1.symm (shortEscapes_ne_u _ listed)
      | code isCode' =>
          simp only [List.cons_append, List.cons.injEq, true_and] at same
          obtain ⟨rfl, rfl, _⟩ := isCode.unique isCode' same
          exact ⟨rfl, rfl⟩
      | pair isHigh _ isUpper _ =>
          simp only [List.cons_append, List.cons.injEq, true_and, List.append_assoc] at same
          obtain ⟨-, rfl, _⟩ := isCode.unique isHigh same
          omega
  | pair isHigh isLow isUpper _ =>
      cases second with
      | plain _ noEscape => exact absurd (List.cons.inj same).1.symm noEscape
      | escape listed =>
          simp only [List.cons_append, List.nil_append, List.cons.injEq, true_and] at same
          exact absurd same.1.symm (shortEscapes_ne_u _ listed)
      | code isCode single =>
          simp only [List.cons_append, List.cons.injEq, true_and, List.append_assoc] at same
          obtain ⟨-, rfl, _⟩ := isHigh.unique isCode same
          omega
      | pair isHigh' isLow' =>
          simp only [List.cons_append, List.cons.injEq, true_and, List.append_assoc] at same
          obtain ⟨rfl, rfl, same⟩ := isHigh.unique isHigh' same
          simp only [List.cons.injEq, true_and] at same
          obtain ⟨rfl, rfl, _⟩ := isLow.unique isLow' same
          exact ⟨rfl, rfl⟩

theorem SpellsCharacter.head {character : Char} (spells : SpellsCharacter text character) :
    ∃ first later, text = first :: later ∧ first ≠ '"' := by
  cases spells with
  | plain noQuote => exact ⟨_, _, rfl, noQuote⟩
  | escape | code | pair => exact ⟨_, _, rfl, by decide⟩

/-- A text ends at the first quote that is not part of an escape. -/
theorem SpellsCharacters.unique {content content' : List Char}
    (first : SpellsCharacters text content) (second : SpellsCharacters text' content')
    (same : text ++ '"' :: rest = text' ++ '"' :: rest') : text = text' ∧ content = content' := by
  induction first generalizing text' content' with
  | nil =>
      cases second with
      | nil => exact ⟨rfl, rfl⟩
      | cons spells =>
          obtain ⟨character, later, rfl, noQuote⟩ := spells.head
          exact absurd (List.cons.inj same).1.symm noQuote
  | cons spells _ hypothesis =>
      cases second with
      | nil =>
          obtain ⟨character, later, rfl, noQuote⟩ := spells.head
          exact absurd (List.cons.inj same).1 noQuote
      | cons spells' later' =>
          simp only [List.append_assoc] at same
          obtain ⟨rfl, rfl⟩ := spells.unique spells' same
          obtain ⟨rfl, rfl⟩ := hypothesis later' (List.append_cancel_left same)
          exact ⟨rfl, rfl⟩

/-! ### Numbers -/

/-- The characters of a number. -/
def isNumberCharacter (character : Char) : Bool :=
  character.isDigit || ['-', '+', '.', 'e', 'E'].contains character

theorem isNumberCharacter_of_digits {digits : List Char} (plain : IsDigits digits) :
    ∀ character ∈ digits, isNumberCharacter character = true := by
  intro character member
  simp [isNumberCharacter, plain.2 character member]

theorem IsWhole.isDigits {digits : List Char} (whole : IsWhole digits) : IsDigits digits := by
  obtain rfl | ⟨plain, _⟩ := whole
  · exact ⟨by simp, List.forall_mem_singleton.mpr (by decide)⟩
  · exact plain

theorem IsFraction.characters (behind : IsFraction text) :
    ∀ character ∈ text, isNumberCharacter character = true := by
  obtain ⟨digits, rfl, plain⟩ := behind
  exact List.forall_mem_cons.mpr ⟨by decide, isNumberCharacter_of_digits plain⟩

theorem IsExponent.characters (power : IsExponent text) :
    ∀ character ∈ text, isNumberCharacter character = true := by
  obtain ⟨mark, sign, digits, isMark, isSign, plain, rfl⟩ := power
  have ofMark : isNumberCharacter mark = true := by
    obtain rfl | rfl := isMark <;> decide
  have ofSign : ∀ character ∈ sign, isNumberCharacter character = true := by
    obtain rfl | rfl | rfl := isSign <;> simp [isNumberCharacter]
  exact List.forall_mem_cons.mpr
    ⟨ofMark, List.forall_mem_append.mpr ⟨ofSign, isNumberCharacter_of_digits plain⟩⟩

theorem IsMinus.characters {sign : List Char} (minus : IsMinus sign) :
    ∀ character ∈ sign, isNumberCharacter character = true := by
  obtain rfl | rfl := minus <;> simp [isNumberCharacter]

theorem SpellsNumber.characters {document : Document} (spells : SpellsNumber text document) :
    ∀ character ∈ text, isNumberCharacter character = true := by
  cases spells with
  | integer minus whole =>
      exact List.forall_mem_append.mpr
        ⟨minus.characters, isNumberCharacter_of_digits whole.isDigits⟩
  | @double sign digits fraction exponent _ minus whole behind power =>
      have ofFraction : ∀ character ∈ fraction, isNumberCharacter character = true := by
        obtain rfl | behind := behind
        · simp
        · exact behind.characters
      have ofExponent : ∀ character ∈ exponent, isNumberCharacter character = true := by
        obtain rfl | power := power
        · simp
        · exact power.characters
      simp only [List.forall_mem_append]
      exact ⟨⟨⟨minus.characters, isNumberCharacter_of_digits whole.isDigits⟩, ofFraction⟩,
        ofExponent⟩

/-- A number starts with a minus or with a digit. -/
theorem SpellsNumber.head {document : Document} (spells : SpellsNumber text document) :
    ∃ first later, text = first :: later ∧ (first = '-' ∨ first.isDigit = true) := by
  have front : ∀ {sign digits : List Char}, IsMinus sign → IsWhole digits → ∀ later,
      ∃ first others, sign ++ digits ++ later = first :: others ∧
        (first = '-' ∨ first.isDigit = true) := by
    intro sign digits minus whole later
    obtain ⟨nonempty, plain⟩ := whole.isDigits
    obtain ⟨digit, others, rfl⟩ := List.exists_cons_of_ne_nil nonempty
    obtain rfl | rfl := minus
    · exact ⟨digit, others ++ later, rfl, .inr (plain digit (by simp))⟩
    · exact ⟨'-', digit :: others ++ later, rfl, .inl rfl⟩
  cases spells with
  | integer minus whole => simpa using front minus whole []
  | double minus whole => simpa using front minus whole _

/-- The marks of a fraction and of an exponent. -/
def isMark (character : Char) : Bool :=
  ['.', 'e', 'E'].contains character

theorem not_isMark_of_isDigit {digit : Char} (plain : digit.isDigit = true) :
    isMark digit = false := by
  rw [Bool.eq_false_iff]
  intro marked
  simp only [isMark, List.contains_eq_mem, List.mem_cons, List.not_mem_nil, or_false,
    decide_eq_true_eq] at marked
  obtain rfl | rfl | rfl := marked <;> exact absurd plain (by decide)

theorem not_isMark_of_integer {sign digits : List Char} (minus : IsMinus sign)
    (whole : IsWhole digits) : (sign ++ digits).any isMark = false := by
  have ofSign : sign.any isMark = false := by
    obtain rfl | rfl := minus <;> decide
  have ofDigits : digits.any isMark = false := by
    simp only [List.any_eq_false, Bool.not_eq_true]
    exact fun digit member => not_isMark_of_isDigit (whole.isDigits.2 digit member)
  simp [List.any_append, ofSign, ofDigits]

theorem isMark_of_double {front fraction exponent : List Char}
    (behind : fraction = [] ∨ IsFraction fraction) (power : exponent = [] ∨ IsExponent exponent)
    (marked : fraction ≠ [] ∨ exponent ≠ []) :
    (front ++ fraction ++ exponent).any isMark = true := by
  simp only [List.any_append, Bool.or_eq_true]
  cases marked with
  | inl fractional =>
      obtain ⟨digits, rfl, _⟩ := behind.resolve_left fractional
      exact .inl (.inr (by simp [isMark]))
  | inr scaled =>
      obtain ⟨mark, sign, digits, isMark', _, _, rfl⟩ := power.resolve_left scaled
      apply Or.inr
      obtain rfl | rfl := isMark' <;> simp [isMark]

/-- What a number spells is told by its text: an integer without marks, and a double-precision
number with one. -/
theorem SpellsNumber.reads {document : Document} (spells : SpellsNumber text document) :
    if text.any isMark then (readDouble? text).map Document.double = some document
    else (readInteger? text).map Document.integer = some document := by
  cases spells with
  | integer minus whole read => simp [not_isMark_of_integer minus whole, read]
  | double _ _ behind power marked read =>
      rw [if_pos (isMark_of_double behind power marked), read, Option.map_some]

theorem SpellsNumber.unique {document document' : Document} (first : SpellsNumber text document)
    (second : SpellsNumber text document') : document = document' := by
  have reads := first.reads
  have reads' := second.reads
  split at reads
  · rename_i marked
    rw [if_pos marked, reads] at reads'
    exact Option.some.inj reads'
  · rename_i unmarked
    rw [if_neg unmarked, reads] at reads'
    exact Option.some.inj reads'

/-! ### Values -/

theorem SpellsNumber.not_of_other {document : Document} {first : Char} {later : List Char}
    (noMinus : first ≠ '-') (noDigit : first.isDigit = false) :
    ¬ SpellsNumber (first :: later) document := by
  intro spells
  obtain ⟨_, _, same, head⟩ := spells.head
  obtain ⟨rfl, _⟩ := List.cons.inj same
  simp [noMinus, noDigit] at head

theorem isNumberCharacter_of_isSpace {character : Char} (blank : isSpace character = true) :
    isNumberCharacter character = false := by
  simp only [isSpace, Bool.or_eq_true, beq_iff_eq] at blank
  obtain ((rfl | rfl) | rfl) | rfl := blank <;> decide

/-- The characters that a value may start with. -/
def startsValue (character : Char) : Bool :=
  character.isDigit || ['-', '"', '[', '\x7b', 'n', 't', 'f'].contains character

theorem Spells.head {document : Document} (spells : Spells text document) :
    ∃ first later, text = first :: later ∧ startsValue first = true := by
  cases spells with
  | number number =>
      obtain ⟨first, later, rfl, rfl | digit⟩ := number.head
      · exact ⟨'-', later, rfl, by decide⟩
      · exact ⟨first, later, rfl, by simp [startsValue, digit]⟩
  | null | isTrue | isFalse | text | noItems | items | noMembers | members =>
      exact ⟨_, _, rfl, by decide⟩

theorem isSpace_of_startsValue {character : Char} (starts : startsValue character = true) :
    isSpace character = false := by
  rw [Bool.eq_false_iff]
  intro blank
  simp only [isSpace, Bool.or_eq_true, beq_iff_eq] at blank
  obtain ((rfl | rfl) | rfl) | rfl := blank <;> exact absurd starts (by decide)

/-- No text with another first character is a value with blanks around it. -/
theorem SpellsElement.starts {first : Char} {later : List Char} {document : Document}
    (element : SpellsElement (first :: later) document) :
    isSpace first = true ∨ startsValue first = true := by
  generalize whole : first :: later = spelling at element
  cases element with
  | @value before _ _ _ blank value =>
      cases before with
      | nil =>
          obtain ⟨first', later', rfl, starts⟩ := value.head
          obtain ⟨rfl, -⟩ := List.cons.inj whole
          exact .inr starts
      | cons first' before' =>
          obtain ⟨rfl, -⟩ := List.cons.inj whole
          exact .inl (blank first (by simp))

/-- There is no number that is written as a word. -/
example : ¬ ∃ document, SpellsElement ['N', 'a', 'N'] document := by
  rintro ⟨document, element⟩
  exact absurd element.starts (by decide)

/-- A quote starts a text. -/
theorem Spells.of_quote {document : Document} (spells : Spells ('"' :: text) document) :
    ∃ inner content, text = inner ++ ['"'] ∧ SpellsCharacters inner content ∧
      document = .text (String.ofList content) := by
  generalize whole : '"' :: text = spelling at spells
  cases spells with
  | number number =>
      subst whole
      exact absurd number (SpellsNumber.not_of_other (by decide) (by decide))
  | text characters => exact ⟨_, _, (List.cons.inj whole).2, characters, rfl⟩
  | null | isTrue | isFalse | noItems | items | noMembers | members =>
      exact absurd (List.cons.inj whole).1 (by decide)

/-- A bracket starts an array. -/
theorem Spells.of_bracket {document : Document} (spells : Spells ('[' :: text) document) :
    (∃ blanks, text = blanks ++ [']'] ∧ Spaces blanks ∧ document = .array []) ∨
      ∃ inner documents, text = inner ++ [']'] ∧ SpellsItems inner documents ∧
        document = .array documents := by
  generalize whole : '[' :: text = spelling at spells
  cases spells with
  | number number =>
      subst whole
      exact absurd number (SpellsNumber.not_of_other (by decide) (by decide))
  | noItems blank => exact .inl ⟨_, (List.cons.inj whole).2, blank, rfl⟩
  | items items => exact .inr ⟨_, _, (List.cons.inj whole).2, items, rfl⟩
  | null | isTrue | isFalse | text | noMembers | members =>
      exact absurd (List.cons.inj whole).1 (by decide)

/-- A brace starts an object. -/
theorem Spells.of_brace {document : Document} (spells : Spells ('\x7b' :: text) document) :
    (∃ blanks, text = blanks ++ ['\x7d'] ∧ Spaces blanks ∧ document = .object []) ∨
      ∃ inner entries, text = inner ++ ['\x7d'] ∧ SpellsMembers inner entries ∧
        document = .object entries := by
  generalize whole : '\x7b' :: text = spelling at spells
  cases spells with
  | number number =>
      subst whole
      exact absurd number (SpellsNumber.not_of_other (by decide) (by decide))
  | noMembers blank => exact .inl ⟨_, (List.cons.inj whole).2, blank, rfl⟩
  | members members => exact .inr ⟨_, _, (List.cons.inj whole).2, members, rfl⟩
  | null | isTrue | isFalse | text | noItems | items =>
      exact absurd (List.cons.inj whole).1 (by decide)

/-- The letters n, t and f start the three words. -/
theorem Spells.of_letter {first : Char} {document : Document}
    (spells : Spells (first :: text) document) (letter : first = 'n' ∨ first = 't' ∨ first = 'f') :
    first :: text = ['n', 'u', 'l', 'l'] ∧ document = .null ∨
      first :: text = ['t', 'r', 'u', 'e'] ∧ document = .boolean true ∨
      first :: text = ['f', 'a', 'l', 's', 'e'] ∧ document = .boolean false := by
  generalize whole : first :: text = spelling at spells
  cases spells with
  | null => exact .inl ⟨rfl, rfl⟩
  | isTrue => exact .inr (.inl ⟨rfl, rfl⟩)
  | isFalse => exact .inr (.inr ⟨rfl, rfl⟩)
  | number number =>
      subst whole
      obtain rfl | rfl | rfl := letter <;>
        exact absurd number (SpellsNumber.not_of_other (by decide) (by decide))
  | text | noItems | items | noMembers | members =>
      obtain ⟨rfl, _⟩ := List.cons.inj whole
      simp at letter

/-- What starts as a number is one. -/
theorem Spells.of_number {first : Char} {document : Document}
    (spells : Spells (first :: text) document) (head : first = '-' ∨ first.isDigit = true) :
    SpellsNumber (first :: text) document := by
  generalize whole : first :: text = spelling at spells
  cases spells with
  | number number => exact number
  | null | isTrue | isFalse | text | noItems | items | noMembers | members =>
      obtain ⟨rfl, _⟩ := List.cons.inj whole
      simp at head

/-- Two values at one place have the first character in common. -/
theorem Spells.same_head {first : Char} {later : List Char} {document : Document}
    (spells : Spells text document) (same : first :: later ++ rest = text ++ rest') :
    ∃ later', text = first :: later' ∧ later ++ rest = later' ++ rest' := by
  obtain ⟨first', later', rfl, _⟩ := spells.head
  obtain ⟨rfl, others⟩ := List.cons.inj same
  exact ⟨later', rfl, others⟩

/-! ### Values without parts -/

/-- Each of the three words is told from the others by its first letter. -/
theorem Spells.word_unique {first : Char} {later : List Char} {document document' : Document}
    (word : Spells (first :: later) document) (second : Spells text' document')
    (letter : first = 'n' ∨ first = 't' ∨ first = 'f')
    (same : first :: later ++ rest = text' ++ rest') :
    first :: later = text' ∧ document = document' := by
  obtain ⟨later', rfl, -⟩ := second.same_head same
  have words := word.of_letter letter
  have words' := second.of_letter letter
  obtain rfl | rfl | rfl := letter <;> simp_all

theorem Spells.number_unique {document document' : Document} (number : SpellsNumber text document)
    (second : Spells text' document') (same : text ++ rest = text' ++ rest')
    (ends : Stops isNumberCharacter rest) (ends' : Stops isNumberCharacter rest') :
    text = text' ∧ document = document' := by
  obtain ⟨first, later, rfl, head⟩ := number.head
  obtain ⟨later', rfl, -⟩ := second.same_head same
  have number' := second.of_number head
  have texts : first :: later = first :: later' :=
    run_unique number.characters number'.characters ends ends' same
  rw [← texts] at number' ⊢
  exact ⟨rfl, number.unique number'⟩

theorem Spells.text_unique {content : List Char} {document' : Document}
    (characters : SpellsCharacters text content) (second : Spells text' document')
    (same : '"' :: (text ++ ['"']) ++ rest = text' ++ rest') :
    '"' :: (text ++ ['"']) = text' ∧ .text (String.ofList content) = document' := by
  obtain ⟨later', rfl, others⟩ := second.same_head same
  obtain ⟨inner, content', rfl, characters', rfl⟩ := second.of_quote
  simp only [List.append_assoc, List.cons_append, List.nil_append] at others
  obtain ⟨rfl, rfl⟩ := characters.unique characters' others
  exact ⟨rfl, rfl⟩

/-! ### Blanks -/

theorem spaces_unique {mark mark' : Char} (blank : Spaces text) (blank' : Spaces text')
    (visible : isSpace mark = false) (visible' : isSpace mark' = false)
    (same : text ++ mark :: rest = text' ++ mark' :: rest') :
    text = text' ∧ mark = mark' ∧ rest = rest' := by
  have texts : text = text' :=
    run_unique blank blank' (by simpa [Stops] using visible) (by simpa [Stops] using visible') same
  subst texts
  exact ⟨rfl, List.cons.inj (List.append_cancel_left same)⟩

/-- The characters that stand behind a value with its blanks. -/
def IsClosing (mark : Char) : Prop :=
  mark = ',' ∨ mark = ']' ∨ mark = '\x7d'

theorem IsClosing.visible {mark : Char} (closing : IsClosing mark) : isSpace mark = false := by
  obtain rfl | rfl | rfl := closing <;> decide

/-- No number goes on behind blanks, or at the mark behind them. -/
theorem IsClosing.stops {mark : Char} {blanks : List Char} (closing : IsClosing mark)
    (blank : Spaces blanks) : Stops isNumberCharacter (blanks ++ mark :: rest) := by
  cases blanks with
  | nil =>
      have outside : isNumberCharacter mark = false := by
        obtain rfl | rfl | rfl := closing <;> decide
      simpa [Stops] using outside
  | cons first later =>
      have outside := isNumberCharacter_of_isSpace (blank first (by simp))
      simpa [Stops] using outside

theorem SpellsName.unique {name name' : String} (first : SpellsName text name)
    (second : SpellsName text' name') (same : text ++ ':' :: rest = text' ++ ':' :: rest') :
    text = text' ∧ name = name' ∧ rest = rest' := by
  cases first with
  | quoted before after characters =>
      cases second with
      | quoted before' after' characters' =>
          simp only [List.append_assoc, List.cons_append] at same
          obtain ⟨rfl, -, inner⟩ := spaces_unique before before' (by decide) (by decide) same
          obtain ⟨rfl, rfl⟩ := characters.unique characters' inner
          have behind := List.cons.inj (List.append_cancel_left inner)
          obtain ⟨rfl, -, rests⟩ := spaces_unique after after' (by decide) (by decide) behind.2
          exact ⟨rfl, rfl, rests⟩

theorem Spells.front_unique {blanks blanks' : List Char} {document document' : Document}
    (value : Spells text document) (value' : Spells text' document') (blank : Spaces blanks)
    (blank' : Spaces blanks') (same : blanks ++ (text ++ rest) = blanks' ++ (text' ++ rest')) :
    blanks = blanks' ∧ text ++ rest = text' ++ rest' := by
  obtain ⟨first, later, rfl, starts⟩ := value.head
  obtain ⟨first', later', rfl, starts'⟩ := value'.head
  obtain ⟨rfl, rfl, others⟩ := spaces_unique blank blank' (isSpace_of_startsValue starts)
    (isSpace_of_startsValue starts') same
  exact ⟨rfl, congrArg (List.cons first) others⟩

/-- The first character behind the blanks, which is none that closes. -/
def IsFilled (closing : Char) (text : List Char) : Prop :=
  ∃ blanks first later, text = blanks ++ first :: later ∧ Spaces blanks ∧
    isSpace first = false ∧ first ≠ closing

theorem IsFilled.append {closing : Char} (filled : IsFilled closing text) :
    IsFilled closing (text ++ rest) := by
  obtain ⟨blanks, first, later, rfl, others⟩ := filled
  exact ⟨blanks, first, later ++ rest, by simp, others⟩

/-- What is filled does not close behind blanks. -/
theorem IsFilled.ne_blank {closing : Char} {blanks : List Char} (filled : IsFilled closing text)
    (blank : Spaces blanks) (visible : isSpace closing = false) :
    text ++ closing :: rest ≠ blanks ++ closing :: rest' := by
  obtain ⟨blanks', first, later, rfl, blank', visible', other⟩ := filled
  intro same
  rw [List.append_assoc, List.cons_append] at same
  exact other (spaces_unique blank' blank visible' visible same).2.1

theorem SpellsItems.isFilled {documents : List Document} (items : SpellsItems text documents) :
    IsFilled ']' text := by
  have ofElement : ∀ {text document}, SpellsElement text document → IsFilled ']' text := by
    rintro _ _ ⟨blank, value, _⟩
    obtain ⟨first, later, rfl, starts⟩ := value.head
    have other : first ≠ ']' := by
      rintro rfl
      exact absurd starts (by decide)
    exact ⟨_, first, _, rfl, blank, isSpace_of_startsValue starts, other⟩
  cases items with
  | last item => exact ofElement item
  | more item => exact (ofElement item).append

theorem SpellsMembers.isFilled {entries : List (String × Document)}
    (members : SpellsMembers text entries) : IsFilled '\x7d' text := by
  have ofName : ∀ {text name}, SpellsName text name → IsFilled '\x7d' text := by
    rintro _ _ ⟨blank, _, _⟩
    exact ⟨_, '"', _, rfl, blank, by decide, by decide⟩
  cases members with
  | last key | more key => exact (ofName key).append

/-! ### Values with parts -/

theorem Spells.noItems_unique {blanks : List Char} {document' : Document} (blank : Spaces blanks)
    (second : Spells text' document') (same : '[' :: (blanks ++ [']']) ++ rest = text' ++ rest') :
    '[' :: (blanks ++ [']']) = text' ∧ .array [] = document' := by
  obtain ⟨later', rfl, others⟩ := second.same_head same
  obtain ⟨blanks', rfl, blank', rfl⟩ | ⟨inner, documents, rfl, items, rfl⟩ := second.of_bracket
  · simp only [List.append_assoc, List.cons_append, List.nil_append] at others
    obtain ⟨rfl, -, -⟩ := spaces_unique blank blank' (by decide) (by decide) others
    exact ⟨rfl, rfl⟩
  · simp only [List.append_assoc, List.cons_append, List.nil_append] at others
    exact absurd others.symm (items.isFilled.ne_blank blank (by decide))

theorem Spells.noMembers_unique {blanks : List Char} {document' : Document} (blank : Spaces blanks)
    (second : Spells text' document')
    (same : '\x7b' :: (blanks ++ ['\x7d']) ++ rest = text' ++ rest') :
    '\x7b' :: (blanks ++ ['\x7d']) = text' ∧ .object [] = document' := by
  obtain ⟨later', rfl, others⟩ := second.same_head same
  obtain ⟨blanks', rfl, blank', rfl⟩ | ⟨inner, entries, rfl, members, rfl⟩ := second.of_brace
  · simp only [List.append_assoc, List.cons_append, List.nil_append] at others
    obtain ⟨rfl, -, -⟩ := spaces_unique blank blank' (by decide) (by decide) others
    exact ⟨rfl, rfl⟩
  · simp only [List.append_assoc, List.cons_append, List.nil_append] at others
    exact absurd others.symm (members.isFilled.ne_blank blank (by decide))

mutual

/-- At each place there is one value. -/
theorem Spells.unique {text text' rest rest' : List Char} {document document' : Document}
    (first : Spells text document) (second : Spells text' document')
    (same : text ++ rest = text' ++ rest') (ends : Stops isNumberCharacter rest)
    (ends' : Stops isNumberCharacter rest') : text = text' ∧ document = document' := by
  cases first with
  | null => exact Spells.null.word_unique second (by decide) same
  | isTrue => exact Spells.isTrue.word_unique second (by decide) same
  | isFalse => exact Spells.isFalse.word_unique second (by decide) same
  | number number => exact Spells.number_unique number second same ends ends'
  | text characters => exact Spells.text_unique characters second same
  | noItems blank => exact Spells.noItems_unique blank second same
  | items items =>
      obtain ⟨later', rfl, others⟩ := second.same_head same
      obtain ⟨blanks, rfl, blank, rfl⟩ | ⟨inner, documents', rfl, items', rfl⟩ := second.of_bracket
      · simp only [List.append_assoc, List.cons_append, List.nil_append] at others
        exact absurd others (items.isFilled.ne_blank blank (by decide))
      · simp only [List.append_assoc, List.cons_append, List.nil_append] at others
        obtain ⟨rfl, rfl⟩ := SpellsItems.unique items items' others
        exact ⟨rfl, rfl⟩
  | noMembers blank => exact Spells.noMembers_unique blank second same
  | members members =>
      obtain ⟨later', rfl, others⟩ := second.same_head same
      obtain ⟨blanks, rfl, blank, rfl⟩ | ⟨inner, entries', rfl, members', rfl⟩ := second.of_brace
      · simp only [List.append_assoc, List.cons_append, List.nil_append] at others
        exact absurd others (members.isFilled.ne_blank blank (by decide))
      · simp only [List.append_assoc, List.cons_append, List.nil_append] at others
        obtain ⟨rfl, rfl⟩ := SpellsMembers.unique members members' others
        exact ⟨rfl, rfl⟩
termination_by (sizeOf document, 0)

theorem SpellsElement.unique {text text' rest rest' : List Char} {mark mark' : Char}
    {document document' : Document} (first : SpellsElement text document)
    (second : SpellsElement text' document') (closing : IsClosing mark) (closing' : IsClosing mark')
    (same : text ++ mark :: rest = text' ++ mark' :: rest') :
    text = text' ∧ document = document' ∧ mark = mark' ∧ rest = rest' := by
  cases first with
  | value before value after =>
      cases second with
      | value before' value' after' =>
          simp only [List.append_assoc] at same
          obtain ⟨rfl, values⟩ := value.front_unique value' before before' same
          obtain ⟨rfl, rfl⟩ := Spells.unique value value' values (closing.stops after)
            (closing'.stops after')
          obtain ⟨rfl, rfl, rfl⟩ := spaces_unique after after' closing.visible closing'.visible
            (List.append_cancel_left values)
          exact ⟨rfl, rfl, rfl, rfl⟩
termination_by (sizeOf document, 1)

theorem SpellsItems.unique {text text' rest rest' : List Char}
    {documents documents' : List Document} (first : SpellsItems text documents)
    (second : SpellsItems text' documents') (same : text ++ ']' :: rest = text' ++ ']' :: rest') :
    text = text' ∧ documents = documents' := by
  have comma : IsClosing ',' := .inl rfl
  have bracket : IsClosing ']' := .inr (.inl rfl)
  cases first with
  | last item =>
      cases second with
      | last item' =>
          obtain ⟨rfl, rfl, -⟩ := SpellsElement.unique item item' bracket bracket same
          exact ⟨rfl, rfl⟩
      | more item' =>
          rw [List.append_assoc, List.cons_append] at same
          have marks := (SpellsElement.unique item item' bracket comma same).2.2.1
          exact absurd marks (by decide)
  | more item later =>
      rw [List.append_assoc, List.cons_append] at same
      cases second with
      | last item' =>
          have marks := (SpellsElement.unique item item' comma bracket same).2.2.1
          exact absurd marks (by decide)
      | more item' later' =>
          rw [List.append_assoc, List.cons_append] at same
          obtain ⟨rfl, rfl, -, laters⟩ := SpellsElement.unique item item' comma comma same
          obtain ⟨rfl, rfl⟩ := SpellsItems.unique later later' laters
          exact ⟨rfl, rfl⟩
termination_by (sizeOf documents, 0)

theorem SpellsMembers.unique {text text' rest rest' : List Char}
    {entries entries' : List (String × Document)} (first : SpellsMembers text entries)
    (second : SpellsMembers text' entries')
    (same : text ++ '\x7d' :: rest = text' ++ '\x7d' :: rest') :
    text = text' ∧ entries = entries' := by
  have comma : IsClosing ',' := .inl rfl
  have brace : IsClosing '\x7d' := .inr (.inr rfl)
  cases first with
  | last key item =>
      cases second with
      | last key' item' =>
          simp only [List.append_assoc, List.cons_append] at same
          obtain ⟨rfl, rfl, items⟩ := key.unique key' same
          obtain ⟨rfl, rfl, -⟩ := SpellsElement.unique item item' brace brace items
          exact ⟨rfl, rfl⟩
      | more key' item' =>
          simp only [List.append_assoc, List.cons_append] at same
          obtain ⟨-, -, items⟩ := key.unique key' same
          have marks := (SpellsElement.unique item item' brace comma items).2.2.1
          exact absurd marks (by decide)
  | more key item later =>
      cases second with
      | last key' item' =>
          simp only [List.append_assoc, List.cons_append] at same
          obtain ⟨-, -, items⟩ := key.unique key' same
          have marks := (SpellsElement.unique item item' comma brace items).2.2.1
          exact absurd marks (by decide)
      | more key' item' later' =>
          simp only [List.append_assoc, List.cons_append] at same
          obtain ⟨rfl, rfl, items⟩ := key.unique key' same
          obtain ⟨rfl, rfl, -, laters⟩ := SpellsElement.unique item item' comma comma items
          obtain ⟨rfl, rfl⟩ := SpellsMembers.unique later later' laters
          exact ⟨rfl, rfl⟩
termination_by (sizeOf entries, 0)

end

/-- A text spells one document. -/
theorem SpellsElement.unambiguous {document document' : Document}
    (first : SpellsElement text document) (second : SpellsElement text document') :
    document = document' := by
  have comma : IsClosing ',' := .inl rfl
  have same : text ++ ',' :: [] = text ++ ',' :: [] := rfl
  exact (first.unique second comma comma same).2.1

end Stencil.Json
