/-
Module: Stencil.Template.Substitution
Purpose: Literal lines with references to values inside.
Main exports: SubstitutedLine, SubstitutionFault, SubstitutedLine.read
-/
import Stencil.Text.Blank

namespace Stencil.Template

/-- Why a line with references cannot be read. -/
inductive SubstitutionFault where
  /-- A reference is not closed. -/
  | unterminated
  /-- A reference opens inside another one. -/
  | nested
  /-- A reference names nothing. -/
  | empty
deriving Repr, Inhabited, DecidableEq

/-- A reference with the text in front of it. -/
structure Reference where
  before : List Char
  path : List Char
deriving Repr, Inhabited, DecidableEq

/-- A literal line: references, each with the text in front of it, and the text behind the last. -/
structure SubstitutedLine where
  references : List Reference
  tail : List Char
deriving Repr, Inhabited, DecidableEq

/-- Split at the first opening of a reference: what is before it and what is behind it. -/
def splitOpening : List Char → Option (List Char × List Char)
  | [] => none
  | '$' :: '\x7b' :: rest => some ([], rest)
  | character :: rest => (splitOpening rest).map fun (before, after) => (character :: before, after)

/-- Split at the first closing of a reference: what is before it and what is behind it. -/
def splitClosing : List Char → Option (List Char × List Char)
  | [] => none
  | '\x7d' :: rest => some ([], rest)
  | character :: rest => (splitClosing rest).map fun (before, after) => (character :: before, after)

theorem splitOpening_shorter {text before after : List Char}
    (found : splitOpening text = some (before, after)) : after.length < text.length := by
  induction text using splitOpening.induct generalizing before after with
  | case1 => simp [splitOpening] at found
  | case2 rest =>
    simp only [splitOpening, Option.some.injEq, Prod.mk.injEq] at found
    simp only [List.length_cons, ← found.2]
    omega
  | case3 character rest other hypothesis =>
    rw [splitOpening] at found
    · obtain ⟨⟨inner, last⟩, split, equal⟩ := Option.map_eq_some_iff.mp found
      simp only [Prod.mk.injEq] at equal
      have shorter := hypothesis split
      simp only [List.length_cons, ← equal.2]
      omega
    · exact other

theorem splitClosing_shorter {text before after : List Char}
    (found : splitClosing text = some (before, after)) : after.length < text.length := by
  induction text using splitClosing.induct generalizing before after with
  | case1 => simp [splitClosing] at found
  | case2 rest =>
    simp only [splitClosing, Option.some.injEq, Prod.mk.injEq] at found
    simp only [List.length_cons, ← found.2]
    omega
  | case3 character rest other hypothesis =>
    rw [splitClosing] at found
    · obtain ⟨⟨inner, last⟩, split, equal⟩ := Option.map_eq_some_iff.mp found
      simp only [Prod.mk.injEq] at equal
      have shorter := hypothesis split
      simp only [List.length_cons, ← equal.2]
      omega
    · exact other

/-- The path that the inside of a reference names. -/
def referencePath (inside : List Char) : Except SubstitutionFault (List Char) :=
  if (splitOpening inside).isSome then .error .nested
  else if (Text.trim inside).isEmpty then .error .empty
  else .ok (Text.trim inside)

/-- Read a literal line.  The leftmost reference that is wrong decides the fault. -/
def SubstitutedLine.read (text : List Char) : Except SubstitutionFault SubstitutedLine :=
  match _opening : splitOpening text with
  | none => .ok ⟨[], text⟩
  | some (before, after) =>
      match _closing : splitClosing after with
      | none => .error .unterminated
      | some (inside, rest) => do
          let path ← referencePath inside
          let later ← SubstitutedLine.read rest
          pure ⟨⟨before, path⟩ :: later.references, later.tail⟩
termination_by text.length
decreasing_by
  have := splitOpening_shorter _opening
  have := splitClosing_shorter _closing
  omega

end Stencil.Template
