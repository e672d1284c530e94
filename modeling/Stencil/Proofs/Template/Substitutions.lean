/-
Module: Stencil.Proofs.Template.Substitutions
Purpose: Lines with references in them: how such a line falls into pieces, which fault a line has that
  does not, and what is written of it.
Main exports: Opens, WrittenReference, FallsInto, FallsInto.unique, SpoiltBy, feed_of_literal, LineRun,
  substitution_exact
-/
import Stencil.Proofs.Template.Steps
import Stencil.Template.Compiler

namespace Stencil.Template

/-! ### Marks of references -/

/-- A reference opens somewhere in a text. -/
def Opens (text : List Char) : Prop :=
  ['$', '\x7b'] <:+: text

theorem not_opens_nil : ¬ Opens [] := by
  intro opens
  have nothing := List.infix_nil.mp opens
  cases nothing

theorem opens_cons_iff {character : Char} {text : List Char} :
    Opens (character :: text) ↔
      (character = '$' ∧ ∃ rest, text = '\x7b' :: rest) ∨ Opens text := by
  unfold Opens
  rw [List.infix_cons_iff]
  refine or_congr_left ⟨?_, ?_⟩
  · rintro ⟨rest, same⟩
    cases same
    exact ⟨rfl, rest, rfl⟩
  · rintro ⟨rfl, rest, rfl⟩
    exact ⟨rest, rfl⟩

/-- The first opening of a reference is found. -/
theorem splitOpening_eq_some_iff {text before after : List Char} :
    splitOpening text = some (before, after) ↔
      text = before ++ '$' :: '\x7b' :: after ∧ ¬ Opens before := by
  induction text using splitOpening.induct generalizing before with
  | case1 => simp [splitOpening]
  | case2 rest =>
      simp only [splitOpening, Option.some.injEq, Prod.mk.injEq]
      constructor
      · rintro ⟨rfl, rfl⟩
        exact ⟨rfl, not_opens_nil⟩
      · rintro ⟨parts, noOpening⟩
        rcases before with - | ⟨first, - | ⟨second, later⟩⟩
        · cases parts
          exact ⟨rfl, rfl⟩
        · cases parts
        · cases parts
          exact absurd (opens_cons_iff.mpr (.inl ⟨rfl, later, rfl⟩)) noOpening
  | case3 character rest other ih =>
      rw [splitOpening]
      · constructor
        · intro found
          obtain ⟨⟨front, behind⟩, inner, same⟩ := Option.map_eq_some_iff.mp found
          cases same
          obtain ⟨rfl, noOpening⟩ := ih.mp inner
          refine ⟨rfl, fun opens => ?_⟩
          rcases opens_cons_iff.mp opens with ⟨rfl, later, rfl⟩ | opens
          · exact other _ rfl rfl
          · exact noOpening opens
        · rintro ⟨parts, noOpening⟩
          cases before with
          | nil =>
              cases parts
              exact absurd rfl (other _ rfl)
          | cons first front =>
              cases parts
              have inner := ih.mpr ⟨rfl, fun opens => noOpening (opens_cons_iff.mpr (.inr opens))⟩
              rw [inner]
              rfl
      · exact other

theorem isSome_splitOpening (text : List Char) : (splitOpening text).isSome ↔ Opens text := by
  induction text using splitOpening.induct with
  | case1 => simpa [splitOpening] using not_opens_nil
  | case2 rest => simpa [splitOpening] using opens_cons_iff.mpr (.inl ⟨rfl, rest, rfl⟩)
  | case3 character rest other ih =>
      rw [splitOpening, Option.isSome_map, ih, opens_cons_iff]
      · refine (or_iff_right ?_).symm
        rintro ⟨rfl, later, rfl⟩
        exact other _ rfl rfl
      · exact other

instance (text : List Char) : Decidable (Opens text) :=
  decidable_of_iff _ (isSome_splitOpening text)

theorem splitOpening_eq_none_iff {text : List Char} : splitOpening text = none ↔ ¬ Opens text := by
  rw [← isSome_splitOpening, Bool.not_eq_true, Option.isSome_eq_false_iff, Option.isNone_iff_eq_none]

/-- The first closing of a reference is found. -/
theorem splitClosing_eq_some_iff {text inside rest : List Char} :
    splitClosing text = some (inside, rest) ↔
      text = inside ++ '\x7d' :: rest ∧ '\x7d' ∉ inside := by
  induction text using splitClosing.induct generalizing inside with
  | case1 => simp [splitClosing]
  | case2 later =>
      simp only [splitClosing, Option.some.injEq, Prod.mk.injEq]
      constructor
      · rintro ⟨rfl, rfl⟩
        exact ⟨rfl, List.not_mem_nil⟩
      · rintro ⟨parts, noClosing⟩
        cases inside with
        | nil =>
            cases parts
            exact ⟨rfl, rfl⟩
        | cons first front =>
            cases parts
            exact absurd List.mem_cons_self noClosing
  | case3 character later other ih =>
      rw [splitClosing]
      · constructor
        · intro found
          obtain ⟨⟨front, behind⟩, inner, same⟩ := Option.map_eq_some_iff.mp found
          cases same
          obtain ⟨rfl, noClosing⟩ := ih.mp inner
          exact ⟨rfl, List.not_mem_cons_of_ne_of_not_mem (Ne.symm other) noClosing⟩
        · rintro ⟨parts, noClosing⟩
          cases inside with
          | nil =>
              cases parts
              exact absurd rfl other
          | cons first front =>
              cases parts
              rw [ih.mpr ⟨rfl, List.not_mem_of_not_mem_cons noClosing⟩]
              rfl
      · exact other

theorem splitClosing_eq_none_iff {text : List Char} :
    splitClosing text = none ↔ '\x7d' ∉ text := by
  constructor
  · intro unclosed closing
    obtain ⟨inside, rest, split⟩ := List.eq_append_cons_of_mem closing
    rw [splitClosing_eq_some_iff.mpr split] at unclosed
    cases unclosed
  · intro noClosing
    cases found : splitClosing text with
    | none => rfl
    | some split =>
        obtain ⟨rfl, -⟩ := splitClosing_eq_some_iff.mp found
        exact absurd (by simp) noClosing


/-! ### Pieces of a line -/

/-- A reference as it is written: the text in front of it, and what stands between its marks. -/
structure WrittenReference where
  before : List Char
  inside : List Char

namespace WrittenReference

/-- The characters of a reference, its marks included. -/
def characters (reference : WrittenReference) : List Char :=
  reference.before ++ '$' :: '\x7b' :: (reference.inside ++ ['\x7d'])

/-- What a reference is read as. -/
def meant (reference : WrittenReference) : Reference :=
  ⟨reference.before, Text.trim reference.inside⟩

/-- The path that a reference names. -/
def path (reference : WrittenReference) : String :=
  String.ofList (Text.trim reference.inside)

/-- No reference opens in front of this one, none opens or closes inside of it, and it is not
blank. -/
structure Proper (reference : WrittenReference) : Prop where
  plain : ¬ Opens reference.before
  closed : '\x7d' ∉ reference.inside
  single : ¬ Opens reference.inside
  named : Text.trim reference.inside ≠ []

end WrittenReference

/-- The characters of references, one behind the other. -/
def allCharacters (references : List WrittenReference) : List Char :=
  references.flatMap WrittenReference.characters

/-- A text is made of proper references and a text behind the last one in which none opens. -/
structure FallsInto (text : List Char) (references : List WrittenReference) (tail : List Char) :
    Prop where
  parts : text = allCharacters references ++ tail
  proper : ∀ reference ∈ references, reference.Proper
  plain : ¬ Opens tail

/-- What is wrong with a reference, given the text behind its opening. -/
inductive Spoils : SubstitutionFault → List Char → Prop where
  | unterminated {after : List Char} (unclosed : '\x7d' ∉ after) : Spoils .unterminated after
  | nested {inside rest : List Char} (closed : '\x7d' ∉ inside) (opens : Opens inside) :
      Spoils .nested (inside ++ '\x7d' :: rest)
  | empty {inside rest : List Char} (closed : '\x7d' ∉ inside) (single : ¬ Opens inside)
      (blank : Text.trim inside = []) : Spoils .empty (inside ++ '\x7d' :: rest)

/-- The first reference of a text that is not proper has a fault. -/
def SpoiltBy (fault : SubstitutionFault) (text : List Char) : Prop :=
  ∃ references before after, text = allCharacters references ++ (before ++ '$' :: '\x7b' :: after) ∧
    (∀ reference ∈ references, reference.Proper) ∧ ¬ Opens before ∧ Spoils fault after

section Pieces

variable {text tail : List Char} {references : List WrittenReference} {reference : WrittenReference}
  {fault : SubstitutionFault}

theorem allCharacters_cons_append (reference : WrittenReference)
    (references : List WrittenReference) (behind : List Char) :
    allCharacters (reference :: references) ++ behind =
      reference.before ++ '$' :: '\x7b' ::
        (reference.inside ++ '\x7d' :: (allCharacters references ++ behind)) := by
  simp [allCharacters, WrittenReference.characters]

theorem FallsInto.plainText (plain : ¬ Opens text) : FallsInto text [] text :=
  ⟨rfl, List.forall_mem_nil _, plain⟩

theorem FallsInto.cons (proper : reference.Proper) (falls : FallsInto text references tail) :
    FallsInto (reference.characters ++ text) (reference :: references) tail := by
  refine ⟨?_, List.forall_mem_cons.mpr ⟨proper, falls.proper⟩, falls.plain⟩
  rw [falls.parts, allCharacters, allCharacters, List.flatMap_cons, List.append_assoc]

theorem SpoiltBy.cons (proper : reference.Proper) (spoilt : SpoiltBy fault text) :
    SpoiltBy fault (reference.characters ++ text) := by
  obtain ⟨references, before, after, rfl, all, plain, spoils⟩ := spoilt
  refine ⟨reference :: references, before, after, ?_, List.forall_mem_cons.mpr ⟨proper, all⟩,
    plain, spoils⟩
  rw [allCharacters, allCharacters, List.flatMap_cons, List.append_assoc]

/-- A text with proper references in front has one way to go on. -/
theorem splitOpening_references (proper : reference.Proper) (references : List WrittenReference)
    (behind : List Char) :
    splitOpening (allCharacters (reference :: references) ++ behind) =
        some (reference.before,
          reference.inside ++ '\x7d' :: (allCharacters references ++ behind)) ∧
      splitClosing (reference.inside ++ '\x7d' :: (allCharacters references ++ behind)) =
        some (reference.inside, allCharacters references ++ behind) :=
  ⟨splitOpening_eq_some_iff.mpr ⟨allCharacters_cons_append _ _ _, proper.plain⟩,
    splitClosing_eq_some_iff.mpr ⟨rfl, proper.closed⟩⟩

/-- A text falls into references in one way only. -/
theorem FallsInto.unique {references' : List WrittenReference} {tail' : List Char}
    (falls : FallsInto text references tail) (falls' : FallsInto text references' tail') :
    references = references' ∧ tail = tail' := by
  have opens : ∀ {rest tail : List Char} {references : List WrittenReference}
      {reference : WrittenReference}, FallsInto rest (reference :: references) tail →
        Opens rest := by
    intro rest tail references reference falls
    obtain ⟨found, -⟩ := splitOpening_references
      (falls.proper reference List.mem_cons_self) references tail
    rw [← falls.parts] at found
    rw [← isSome_splitOpening, found]
    rfl
  induction references generalizing text references' with
  | nil =>
      obtain rfl := falls.parts
      cases references' with
      | nil => exact ⟨rfl, falls'.parts⟩
      | cons reference' rest' => exact absurd (opens falls') falls.plain
  | cons reference rest ih =>
      cases references' with
      | nil =>
          obtain rfl := falls'.parts
          exact absurd (opens falls) falls'.plain
      | cons reference' rest' =>
          obtain ⟨here, later⟩ := List.forall_mem_cons.mp falls.proper
          obtain ⟨here', later'⟩ := List.forall_mem_cons.mp falls'.proper
          obtain ⟨opening, closing⟩ := splitOpening_references here rest tail
          obtain ⟨opening', closing'⟩ := splitOpening_references here' rest' tail'
          rw [← falls.parts] at opening
          rw [← falls'.parts, opening] at opening'
          obtain ⟨before, after⟩ := Prod.mk.inj (Option.some.inj opening')
          rw [after, closing'] at closing
          obtain ⟨inside, behind⟩ := Prod.mk.inj (Option.some.inj closing)
          obtain ⟨same, tails⟩ := ih ⟨rfl, later, falls.plain⟩ ⟨behind.symm, later', falls'.plain⟩
          obtain ⟨_, _⟩ := reference
          obtain ⟨_, _⟩ := reference'
          cases before
          cases inside
          exact ⟨congrArg _ same, tails⟩

/-! ### Reading a line -/

theorem read_of_plain (plain : ¬ Opens text) : SubstitutedLine.read text = .ok ⟨[], text⟩ := by
  rw [SubstitutedLine.read]
  split
  · rfl
  · next found =>
      rw [splitOpening_eq_none_iff.mpr plain] at found
      cases found

theorem read_of_opening {before after : List Char} (plain : ¬ Opens before) :
    SubstitutedLine.read (before ++ '$' :: '\x7b' :: after) =
      match splitClosing after with
      | none => .error .unterminated
      | some (inside, rest) => (do
          let path ← referencePath inside
          let later ← SubstitutedLine.read rest
          pure ⟨⟨before, path⟩ :: later.references, later.tail⟩) := by
  rw [SubstitutedLine.read]
  split
  · next found =>
      rw [splitOpening_eq_some_iff.mpr ⟨rfl, plain⟩] at found
      cases found
  · next found =>
      rw [splitOpening_eq_some_iff.mpr ⟨rfl, plain⟩] at found
      cases found
      split
      · next closing => rw [closing]
      · next closing => rw [closing]

/-- A proper reference at the front of a line is read, and then what stands behind it. -/
theorem read_of_reference (proper : reference.Proper) (behind : List Char) :
    SubstitutedLine.read (reference.characters ++ behind) =
      (SubstitutedLine.read behind).map fun later =>
        ⟨reference.meant :: later.references, later.tail⟩ := by
  have parts : reference.characters ++ behind =
      reference.before ++ '$' :: '\x7b' :: (reference.inside ++ '\x7d' :: behind) := by
    simp [WrittenReference.characters]
  have path : referencePath reference.inside = .ok (Text.trim reference.inside) := by
    unfold referencePath
    rw [if_neg (by simpa [isSome_splitOpening] using proper.single),
      if_neg (by simpa using proper.named)]
  rw [parts, read_of_opening proper.plain, splitClosing_eq_some_iff.mpr ⟨rfl, proper.closed⟩]
  simp only [path]
  cases SubstitutedLine.read behind <;> rfl

theorem FallsInto.read (falls : FallsInto text references tail) :
    SubstitutedLine.read text = .ok ⟨references.map WrittenReference.meant, tail⟩ := by
  obtain ⟨rfl, proper, plain⟩ := falls
  induction references with
  | nil => exact read_of_plain plain
  | cons reference rest ih =>
      obtain ⟨here, later⟩ := List.forall_mem_cons.mp proper
      rw [allCharacters, List.flatMap_cons, List.append_assoc, read_of_reference here, ← allCharacters,
        ih later]
      rfl

theorem SpoiltBy.read (spoilt : SpoiltBy fault text) :
    SubstitutedLine.read text = .error fault := by
  obtain ⟨references, before, after, rfl, proper, plain, spoils⟩ := spoilt
  induction references with
  | nil =>
      rw [allCharacters, List.flatMap_nil, List.nil_append, read_of_opening plain]
      cases spoils with
      | unterminated noClosing => rw [splitClosing_eq_none_iff.mpr noClosing]
      | nested closed opens =>
          rw [splitClosing_eq_some_iff.mpr ⟨rfl, closed⟩]
          simp only [referencePath, (isSome_splitOpening _).mpr opens, if_true]
          rfl
      | empty closed single blank =>
          rw [splitClosing_eq_some_iff.mpr ⟨rfl, closed⟩]
          have noOpening : (splitOpening _).isSome = false :=
            Bool.eq_false_iff.mpr fun opens => single ((isSome_splitOpening _).mp opens)
          simp only [referencePath, noOpening, blank]
          rfl
  | cons reference rest ih =>
      obtain ⟨here, later⟩ := List.forall_mem_cons.mp proper
      rw [allCharacters, List.flatMap_cons, List.append_assoc, read_of_reference here, ← allCharacters,
        ih later]
      rfl

/-- Every text falls into proper references, or its first one that is not proper has a fault. -/
theorem fallsInto_or_spoilt (text : List Char) :
    (∃ references tail, FallsInto text references tail) ∨ ∃ fault, SpoiltBy fault text := by
  by_cases opens : Opens text
  · obtain ⟨⟨before, after⟩, found⟩ :=
      Option.isSome_iff_exists.mp ((isSome_splitOpening text).mpr opens)
    obtain ⟨parts, plain⟩ := splitOpening_eq_some_iff.mp found
    have spoilt {fault : SubstitutionFault} (spoils : Spoils fault after) : SpoiltBy fault text :=
      ⟨[], before, after, parts, List.forall_mem_nil _, plain, spoils⟩
    cases closing : splitClosing after with
    | none => exact .inr ⟨_, spoilt (.unterminated (splitClosing_eq_none_iff.mp closing))⟩
    | some split =>
        obtain ⟨inside, rest⟩ := split
        obtain ⟨rfl, closed⟩ := splitClosing_eq_some_iff.mp closing
        by_cases nested : Opens inside
        · exact .inr ⟨_, spoilt (.nested closed nested)⟩
        by_cases blank : Text.trim inside = []
        · exact .inr ⟨_, spoilt (.empty closed nested blank)⟩
        -- The reference is proper, so what stands behind it decides.
        have proper : (WrittenReference.mk before inside).Proper := ⟨plain, closed, nested, blank⟩
        have whole : text = (WrittenReference.mk before inside).characters ++ rest := by
          simp [parts, WrittenReference.characters]
        have shorter : rest.length < text.length := by
          rw [whole, List.length_append, WrittenReference.characters, List.length_append,
            List.length_cons]
          omega
        rw [whole]
        rcases fallsInto_or_spoilt rest with ⟨references, tail, falls⟩ | ⟨fault, later⟩
        · exact .inl ⟨_, tail, falls.cons proper⟩
        · exact .inr ⟨fault, later.cons proper⟩
  · exact .inl ⟨[], text, .plainText opens⟩
termination_by text.length

/-! ### Taking in a line -/

theorem FallsInto.addLiteral (falls : FallsInto text references tail) (state : Compilation) :
    state.addLiteral text = .ok (state.add
      (literalActions state.lineCount ⟨references.map WrittenReference.meant, tail⟩)) := by
  rw [Compilation.addLiteral, falls.read]

theorem SpoiltBy.addLiteral (spoilt : SpoiltBy fault text) (state : Compilation) :
    state.addLiteral text = .error (.badReference fault) := by
  rw [Compilation.addLiteral, spoilt.read]

theorem addLiteral_ok_iff (state : Compilation) :
    (∃ next, state.addLiteral text = .ok next) ↔ ∃ references tail, FallsInto text references tail := by
  constructor
  · rintro ⟨next, taken⟩
    rcases fallsInto_or_spoilt text with falls | ⟨fault, spoilt⟩
    · exact falls
    · rw [spoilt.addLiteral] at taken
      cases taken
  · rintro ⟨references, tail, falls⟩
    exact ⟨_, falls.addLiteral state⟩

theorem addLiteral_eq_error_iff (state : Compilation) {refusal : CompileFault} :
    state.addLiteral text = .error refusal ↔
      ∃ fault, refusal = .badReference fault ∧ SpoiltBy fault text := by
  constructor
  · intro refused
    rcases fallsInto_or_spoilt text with ⟨references, tail, falls⟩ | ⟨fault, spoilt⟩
    · rw [falls.addLiteral] at refused
      cases refused
    · rw [spoilt.addLiteral] at refused
      cases refused
      exact ⟨fault, rfl, spoilt⟩
  · rintro ⟨fault, rfl, spoilt⟩
    exact spoilt.addLiteral state

/-- A line that is no command is taken in as a literal one. -/
theorem feed_of_literal (uri : Option String) (state : Compilation) {line : List Char}
    (literal : isDirective (Text.withoutLineEnd line) = false) :
    let counted := { state with lineCount := state.lineCount + 1 }
    Compilation.feed uri state line =
      (counted.addLiteral (Text.withoutLineEnd line)).mapError fun fault =>
        ⟨fault, counted.lineCount, uri⟩ := by
  unfold Compilation.feed Compilation.addLine
  simp only [literal, Bool.false_eq_true, if_false]
  cases Compilation.addLiteral _ _ <;> rfl

end Pieces

/-! ### Rendering a line -/

/-- The paths of references have values with these texts, looked up one after another. -/
inductive AllHave (resolver : Resolver) (model : Model) :
    World → List WrittenReference → List String → World → Prop where
  | nil {world : World} : AllHave resolver model world [] [] world
  | cons {world between after : World} {reference : WrittenReference} {value : Value}
      {text : String} {references : List WrittenReference} {texts : List String}
      (has : Has resolver model world reference.path value text between)
      (later : AllHave resolver model between references texts after) :
      AllHave resolver model world (reference :: references) (text :: texts) after

/-- References filled in: each text behind the text in front of its reference. -/
def filled : List WrittenReference → List String → String
  | reference :: references, text :: texts =>
      String.ofList reference.before ++ text ++ filled references texts
  | _, _ => ""

/-- What a line of references and a text behind them writes.  Either all of its paths have values with
texts; then it writes the whole line, with the texts for the references, and one line end.  Or it
stops at the first path that has none, behind the text in front of that reference. -/
inductive LineRun (setting : RenderSetting) (line : Nat) (references : List WrittenReference)
    (tail : List Char) (before : Rendering) : Except RenderError Unit → Rendering → Prop where
  | whole {texts : List String} {world : World} {after : Rendering}
      (all : AllHave setting.resolver before.model before.world references texts world)
      (wrote : before.Wrote world
        (filled references texts ++ (String.ofList tail ++ setting.terminator)) after) :
      LineRun setting line references tail before (.ok ()) after
  | stopped {front rest : List WrittenReference} {reference : WrittenReference}
      {texts : List String} {between world : World} {error : RenderError} {after : Rendering}
      (parts : references = front ++ reference :: rest)
      (all : AllHave setting.resolver before.model before.world front texts between)
      (lacks : Lacks setting line before.model between reference.path error world)
      (wrote : before.Wrote world (filled front texts ++ String.ofList reference.before) after) :
      LineRun setting line references tail before (.error error) after

theorem filled_nil (texts : List String) : filled [] texts = "" := by
  cases texts <;> rfl

/-- What a line writes whose first reference has a text. -/
theorem LineRun.cons {setting : RenderSetting} {line : Nat} {reference : WrittenReference}
    {rest : List WrittenReference} {tail : List Char} {before between after : Rendering}
    {value : Value} {text : String} {world : World} {result : Except RenderError Unit}
    (has : Has setting.resolver before.model before.world reference.path value text world)
    (wrote : before.Wrote world (String.ofList reference.before ++ text) between)
    (run : LineRun setting line rest tail between result after) :
    LineRun setting line (reference :: rest) tail before result after := by
  cases run with
  | whole all later =>
      rw [wrote.model, wrote.world] at all
      refine .whole (.cons has all) ?_
      have both := wrote.andThen later
      rwa [← String.append_assoc] at both
  | stopped parts all lacks later =>
      rw [wrote.model, wrote.world] at all
      rw [wrote.model] at lacks
      rw [parts]
      refine .stopped rfl (.cons has all) lacks ?_
      have both := wrote.andThen later
      rwa [← String.append_assoc] at both

section Lines

variable (setting : RenderSetting) (line : Nat)

theorem renderAll_reference (reference : WrittenReference) :
    renderAll setting (referenceActions line reference.meant) =
      Render.write (String.ofList reference.before) >>= fun _ =>
        (Action.value reference.path line).render setting := by
  unfold referenceActions WrittenReference.meant
  rw [renderAll_append, renderAll_singleton]
  cases empty : reference.before.isEmpty with
  | true =>
      rw [List.isEmpty_iff.mp empty]
      rfl
  | false =>
      simp only [Bool.false_eq_true, if_false]
      rw [renderAll_singleton]
      rfl

theorem renderAll_literalActions_cons (reference : WrittenReference)
    (rest : List WrittenReference) (tail : List Char) :
    renderAll setting (literalActions line
        ⟨(reference :: rest).map WrittenReference.meant, tail⟩) =
      Render.write (String.ofList reference.before) >>= fun _ =>
        (Action.value reference.path line).render setting >>= fun _ =>
          renderAll setting (literalActions line ⟨rest.map WrittenReference.meant, tail⟩) := by
  rw [← bind_assoc, ← renderAll_reference, ← renderAll_append]
  unfold literalActions
  rw [List.map_cons, List.flatMap_cons, List.append_assoc]

/-- The steps of a line write what they should. -/
theorem run_literalActions (references : List WrittenReference) (tail : List Char)
    (before : Rendering) :
    ∃ result after,
      (renderAll setting (literalActions line
        ⟨references.map WrittenReference.meant, tail⟩)).run.run before = (result, after) ∧
      LineRun setting line references tail before result after := by
  induction references generalizing before with
  | nil =>
      have step : renderAll setting (literalActions line ⟨[].map WrittenReference.meant, tail⟩) =
          (Action.line (String.ofList tail)).render setting :=
        renderAll_singleton setting _
      obtain ⟨after, ran, wrote⟩ := run_line setting (String.ofList tail) before
      rw [step]
      refine ⟨.ok (), after, ran, .whole .nil ?_⟩
      rwa [filled_nil, String.empty_append]
  | cons reference rest ih =>
      obtain ⟨between, ran, wrote⟩ := run_write (String.ofList reference.before) before
      rw [renderAll_literalActions_cons, run_bind_ok ran]
      rcases has_or_lacks setting line between.model between.world reference.path with
        ⟨value, text, world, has⟩ | ⟨error, world, lacks⟩
      · obtain ⟨next, ran', wrote'⟩ := has.run_value line
        rw [run_bind_ok ran']
        rw [wrote.model, wrote.world] at has
        obtain ⟨result, after, ran'', run⟩ := ih next
        exact ⟨result, after, ran'', run.cons has (wrote.andThen wrote')⟩
      · rw [run_bind_error lacks.run_value]
        rw [wrote.model, wrote.world] at lacks
        refine ⟨_, _, rfl, .stopped rfl .nil lacks ?_⟩
        rw [filled_nil, String.empty_append]
        exact ⟨rfl, wrote.model, wrote.output⟩

end Lines

/-- A literal line is taken in just if it falls into proper references and a text behind them, which
it does in one way only.  Its steps then write the text with the values for the references and one
line end, or stop at the first reference without a value.  Otherwise the line is refused for what is
wrong with its first reference that is not proper. -/
theorem substitution_exact (uri : Option String) (state : Compilation) (line : List Char) :
    let text := Text.withoutLineEnd line
    let counted := { state with lineCount := state.lineCount + 1 }
    ((∃ next, counted.addLiteral text = .ok next) ↔
        ∃ references tail, FallsInto text references tail) ∧
      (∀ references references' tail tail', FallsInto text references tail →
        FallsInto text references' tail' → references = references' ∧ tail = tail') ∧
      (∀ references tail, FallsInto text references tail → ∃ actions,
        counted.addLiteral text = .ok (counted.add actions) ∧
          ∀ (setting : RenderSetting) (before : Rendering), ∃ result after,
            (renderAll setting actions).run.run before = (result, after) ∧
              LineRun setting counted.lineCount references tail before result after) ∧
      (∀ fault, counted.addLiteral text = .error fault ↔
        ∃ spoilt, fault = .badReference spoilt ∧ SpoiltBy spoilt text) ∧
      (isDirective text = false → Compilation.feed uri state line =
        (counted.addLiteral text).mapError fun fault => ⟨fault, counted.lineCount, uri⟩) := by
  intro text counted
  refine ⟨addLiteral_ok_iff counted, fun _ _ _ _ => FallsInto.unique, ?_,
    fun _ => addLiteral_eq_error_iff counted, feed_of_literal uri state⟩
  intro references tail falls
  exact ⟨_, falls.addLiteral counted, fun setting before =>
    run_literalActions setting counted.lineCount references tail before⟩

/-- A line of dollars and two references, of which the second one has a dollar inside. -/
def dollarLine : List Char :=
  "$$\x7ba\x7d, $\x7b b$ \x7d.\r\n".toList

/-- It is taken in and writes both values.  A line is refused whose first reference is not closed, also
if another one opens inside of it. -/
theorem substitution_exact_dollars :
    isDirective (Text.withoutLineEnd dollarLine) = false ∧
      FallsInto (Text.withoutLineEnd dollarLine) [⟨['$'], ['a']⟩, ⟨[',', ' '], [' ', 'b', '$', ' ']⟩]
        ['.'] ∧
      (∃ actions, Compilation.feed none {} dollarLine = .ok ⟨actions, [], 1⟩ ∧
        ((renderAll ⟨Resolver.standard 0, none, "\n", false⟩ actions).run.run
          ⟨{}, .value (.map [(.text "a", .integer 1), (.text "b$", .text "x")]), #[]⟩).2.output =
            "$1, x.\n") ∧
      Compilation.feed none {} "$\x7ba $\x7bb".toList =
        .error ⟨.badReference .unterminated, 1, none⟩ := by
  have falls : FallsInto (Text.withoutLineEnd dollarLine)
      [⟨['$'], ['a']⟩, ⟨[',', ' '], [' ', 'b', '$', ' ']⟩] ['.'] := by
    refine ⟨by decide +kernel, ?_, by decide +kernel⟩
    intro reference member
    have either : reference = ⟨['$'], ['a']⟩ ∨ reference = ⟨[',', ' '], [' ', 'b', '$', ' ']⟩ := by
      simpa using member
    rcases either with rfl | rfl
    · exact ⟨by decide +kernel, by decide +kernel, by decide +kernel, by decide +kernel⟩
    · exact ⟨by decide +kernel, by decide +kernel, by decide +kernel, by decide +kernel⟩
  have literal : isDirective (Text.withoutLineEnd dollarLine) = false := by decide +kernel
  obtain ⟨-, -, accepted, -, fed⟩ := substitution_exact none {} dollarLine
  obtain ⟨actions, taken, -⟩ := accepted _ _ falls
  obtain ⟨-, -, -, refused, fed'⟩ := substitution_exact none {} "$\x7ba $\x7bb".toList
  have spoilt : SpoiltBy .unterminated "$\x7ba $\x7bb".toList :=
    ⟨[], [], "a $\x7bb".toList, rfl, List.forall_mem_nil _, not_opens_nil,
      .unterminated (by decide +kernel)⟩
  refine ⟨literal, falls, ⟨actions, ?_, ?_⟩, ?_⟩
  · rw [fed literal, taken]
    rfl
  · rw [falls.addLiteral] at taken
    obtain rfl : _ = actions := congrArg Compilation.outer (Except.ok.inj taken)
    decide +kernel
  · rw [fed' (by decide +kernel), (refused _).mpr ⟨_, rfl, spoilt⟩]
    rfl

end Stencil.Template
