/-
Module: Stencil.Yaml.Spacing
Purpose: Blanks and line breaks of YAML, and how breaks inside scalars are folded.
Main exports: isSpace, isLineBreak, endsWord, isDocumentMark, takeBreak?, breaksFrom, foldBreak
-/
namespace Stencil.Yaml

/-- Whether a character is a space or a tab. -/
def isSpace (character : Char) : Bool :=
  character == ' ' || character == '\t'

/-- Whether a character ends a line. -/
def isLineBreak (character : Char) : Bool :=
  character == '\n' || character == '\r' || character == Char.ofNat 0x85

/-- Whether a character ends a paragraph or a line by its own name.  It counts as a break between
words, but not inside a plain word. -/
def isWideBreak (character : Char) : Bool :=
  character == Char.ofNat 0x2028 || character == Char.ofNat 0x2029

/-- Whether a character is a break of either kind. -/
def isBreak (character : Char) : Bool :=
  isLineBreak character || isWideBreak character

/-- Whether a mark in front of this text stands alone: at the end, or in front of a blank or of the
end of a line. -/
def endsWord : List Char → Bool
  | [] => true
  | next :: _ => isSpace next || isLineBreak next

/-- Whether a line starts with the mark that begins or ends a document. -/
def isDocumentMark : List Char → Bool
  | '-' :: '-' :: '-' :: rest => endsWord rest
  | '.' :: '.' :: '.' :: rest => endsWord rest
  | _ => false

/-- Take one break: the character that it stands for, and the rest.  Breaks of lines are all one. -/
def takeBreak? : List Char → Option (Char × List Char)
  | '\r' :: '\n' :: rest => some ('\n', rest)
  | character :: rest =>
      if isLineBreak character then some ('\n', rest)
      else if isWideBreak character then some (character, rest)
      else none
  | [] => none

/-- The breaks at the start of a text, over lines that hold nothing but blanks, and the rest.  There
are none to be had if a line starts with the mark of a document; `atStart` says whether a line starts
here. -/
def breaksFrom (blank : Char → Bool) (atStart : Bool) :
    List Char → Option (List Char) × List Char
  | [] => (some [], [])
  | character :: rest =>
      if atStart && isDocumentMark (character :: rest) then (none, character :: rest)
      else if blank character || (character == '\r' && rest.head? == some '\n') then
        breaksFrom blank false rest
      else if isBreak character then
        let (more, left) := breaksFrom blank true rest
        (more.map ((if isLineBreak character then '\n' else character) :: ·), left)
      else (some [], character :: rest)

/-- What breaks inside a scalar become: a single break of a line is a space, and further ones stand
for themselves. -/
def foldBreak (first : Char) (more : List Char) : List Char :=
  if first ≠ '\n' then first :: more
  else if more.isEmpty then [' ']
  else more

theorem takeBreak?_shorter {text rest : List Char} {character : Char}
    (found : takeBreak? text = some (character, rest)) : rest.length < text.length := by
  unfold takeBreak? at found
  split at found
  · simp only [Option.some.injEq, Prod.mk.injEq] at found
    simp only [List.length_cons, ← found.2]
    omega
  · split at found
    · simp only [Option.some.injEq, Prod.mk.injEq] at found
      simp only [List.length_cons, ← found.2]
      omega
    · split at found
      · simp only [Option.some.injEq, Prod.mk.injEq] at found
        simp only [List.length_cons, ← found.2]
        omega
      · simp at found
  · simp at found

theorem breaksFrom_length (blank : Char → Bool) (atStart : Bool) (text : List Char) :
    (breaksFrom blank atStart text).2.length ≤ text.length := by
  induction text generalizing atStart with
  | nil => simp [breaksFrom]
  | cons character rest hypothesis =>
    rw [breaksFrom]
    split
    · exact Nat.le_refl _
    · split
      · exact Nat.le_succ_of_le (hypothesis false)
      · split
        · exact Nat.le_succ_of_le (hypothesis true)
        · exact Nat.le_refl _

end Stencil.Yaml
