/-
Module: Stencil.Proofs.Text.LineEnds
Purpose: Texts as lines and line ends: what the lines of a text are, and the text with other line ends.
Main exports: Unbroken, IsLineOf, terminated, line_induction, flatMap_contents, contents_flatMap
-/
import Mathlib.Data.List.TakeWhile
import Stencil.Config.LineTerminator
import Stencil.Text.Lines

namespace Stencil.Text

/-! ### Lines and line ends -/

/-- No line ends inside of a text. -/
def Unbroken (text : List Char) : Prop :=
  ∀ character ∈ text, isLineEnd character = false

/-- A line of a text has no line end inside, and there is one on either side of it, or the border of
the text. -/
def IsLineOf (line text : List Char) : Prop :=
  ∃ before after, text = before ++ line ++ after ∧ Unbroken line ∧
    (∀ character ∈ before.getLast?, isLineEnd character) ∧
    (∀ character ∈ after.head?, isLineEnd character)

/-- What ends a line, in front of a rest.  In front of a line feed a carriage return alone does
not. -/
inductive EndsLine : List Char → List Char → Prop where
  | lineFeed {rest : List Char} : EndsLine ['\n'] rest
  | both {rest : List Char} : EndsLine ['\r', '\n'] rest
  | carriageReturn {rest : List Char} (other : rest.head? ≠ some '\n') : EndsLine ['\r'] rest

/-- A text with a terminator for each of its line ends. -/
def replaceLineEnds (terminator : List Char) : List Char → List Char
  | [] => []
  | '\r' :: '\n' :: rest => terminator ++ replaceLineEnds terminator rest
  | '\r' :: rest => terminator ++ replaceLineEnds terminator rest
  | '\n' :: rest => terminator ++ replaceLineEnds terminator rest
  | character :: rest => character :: replaceLineEnds terminator rest

/-- A text with a terminator for each of its line ends and one behind its last line, unless it is empty
or ends in a line end. -/
def terminated (terminator text : List Char) : List Char :=
  replaceLineEnds terminator text ++ if text.getLast?.all isLineEnd then [] else terminator

/-- The lines of a text without their ends. -/
def contents (text : List Char) : List (List Char) :=
  (universalLines text).map withoutLineEnd

section Lines

variable {content ending rest text line : List Char} {character : Char}

theorem unbroken_nil : Unbroken [] :=
  List.forall_mem_nil _

theorem unbroken_cons :
    Unbroken (character :: text) ↔ isLineEnd character = false ∧ Unbroken text :=
  List.forall_mem_cons

theorem isLineEnd_eq_false_iff :
    isLineEnd character = false ↔ character ≠ '\n' ∧ character ≠ '\r' := by
  simp [isLineEnd]

/-- Every text has one line without an end, or a first line with one and a rest. -/
theorem unbroken_or_ends (text : List Char) :
    Unbroken text ∨ ∃ content ending rest, text = content ++ ending ++ rest ∧ Unbroken content ∧
      EndsLine ending rest := by
  induction text with
  | nil => exact .inl unbroken_nil
  | cons character text ih =>
      by_cases feed : character = '\n'
      · subst feed
        exact .inr ⟨[], ['\n'], text, rfl, unbroken_nil, .lineFeed⟩
      by_cases carriage : character = '\r'
      · subst carriage
        by_cases next : text.head? = some '\n'
        · obtain ⟨rest, rfl⟩ := List.head?_eq_some_iff.mp next
          exact .inr ⟨[], ['\r', '\n'], rest, rfl, unbroken_nil, .both⟩
        · exact .inr ⟨[], ['\r'], text, rfl, unbroken_nil, .carriageReturn next⟩
      have inside := isLineEnd_eq_false_iff.mpr ⟨feed, carriage⟩
      rcases ih with unbroken | ⟨content, ending, rest, rfl, unbroken, ends⟩
      · exact .inl (unbroken_cons.mpr ⟨inside, unbroken⟩)
      · exact .inr ⟨character :: content, ending, rest, rfl, unbroken_cons.mpr ⟨inside, unbroken⟩,
          ends⟩

theorem EndsLine.ne_nil (ends : EndsLine ending rest) : ending ≠ [] := by
  cases ends <;> exact List.cons_ne_nil _ _

theorem EndsLine.isLineEnd (ends : EndsLine ending rest) :
    ∀ character ∈ ending, isLineEnd character := by
  cases ends <;> simp [Text.isLineEnd]

theorem EndsLine.getLast? (ends : EndsLine ending rest) (content : List Char) :
    ∀ character ∈ (content ++ ending).getLast?, Text.isLineEnd character := by
  intro character last
  rw [List.getLast?_append, List.getLast?_eq_some_getLast ends.ne_nil, Option.some_or] at last
  obtain rfl := Option.some.inj last
  exact ends.isLineEnd _ (List.getLast_mem ends.ne_nil)

/-- What is true of texts of one line, and of a line with its end in front of what it is true of, is
true of all texts. -/
theorem line_induction {P : List Char → Prop} (last : ∀ content, Unbroken content → P content)
    (line : ∀ content ending rest, Unbroken content → EndsLine ending rest → P rest →
      P (content ++ ending ++ rest)) (text : List Char) : P text := by
  rcases unbroken_or_ends text with unbroken | ⟨content, ending, rest, parts, unbroken, ends⟩
  · exact last text unbroken
  · have shorter : rest.length < text.length := by
      have positive := List.length_pos_iff.mpr ends.ne_nil
      rw [parts, List.length_append, List.length_append]
      omega
    rw [parts]
    exact line content ending rest unbroken ends (line_induction last line rest)
termination_by text.length

/-! ### Cutting into lines -/

theorem universalLinesFrom_unbroken (current : List Char) (unbroken : Unbroken content)
    (rest : List Char) :
    universalLinesFrom current (content ++ rest) =
      universalLinesFrom (content.reverse ++ current) rest := by
  induction content generalizing current with
  | nil => rfl
  | cons character content ih =>
      obtain ⟨inside, unbroken⟩ := unbroken_cons.mp unbroken
      obtain ⟨feed, carriage⟩ := isLineEnd_eq_false_iff.mp inside
      rw [List.cons_append, universalLinesFrom, ih _ unbroken, List.reverse_cons, List.append_assoc]
      · rfl
      · intro _ same
        exact absurd same carriage
      · exact carriage
      · exact feed

theorem universalLines_of_unbroken (unbroken : Unbroken content) :
    universalLines content = if content = [] then [] else [content] := by
  have cut := universalLinesFrom_unbroken [] unbroken []
  rw [List.append_nil, List.append_nil] at cut
  rw [universalLines, cut, universalLinesFrom]
  simp

/-- A line with its end is cut off. -/
theorem universalLines_of_ends (unbroken : Unbroken content) (ends : EndsLine ending rest) :
    universalLines (content ++ ending ++ rest) = (content ++ ending) :: universalLines rest := by
  rw [universalLines, List.append_assoc, universalLinesFrom_unbroken [] unbroken]
  cases ends with
  | lineFeed => simp [universalLinesFrom, universalLines]
  | both => simp [universalLinesFrom, universalLines]
  | carriageReturn other =>
      rw [List.singleton_append, universalLinesFrom]
      · simp [universalLines]
      · rintro later rfl
        exact other rfl

theorem withoutLineEnd_append (unbroken : Unbroken content)
    (ends : ∀ character ∈ ending, isLineEnd character) :
    withoutLineEnd (content ++ ending) = content := by
  unfold withoutLineEnd
  rw [List.reverse_append, List.dropWhile_append_of_pos (by simpa using ends)]
  have kept : content.reverse.dropWhile isLineEnd = content.reverse :=
    List.dropWhile_eq_self_iff.mpr fun nonempty =>
      Bool.not_eq_true _ ▸ unbroken _ (List.mem_reverse.mp (List.getElem_mem nonempty))
  rw [kept, List.reverse_reverse]

theorem withoutLineEnd_of_unbroken (unbroken : Unbroken content) :
    withoutLineEnd content = content := by
  simpa using withoutLineEnd_append unbroken (List.forall_mem_nil _)

theorem contents_of_unbroken (unbroken : Unbroken content) :
    contents content = if content = [] then [] else [content] := by
  unfold contents
  rw [universalLines_of_unbroken unbroken]
  split
  · rfl
  · rw [List.map_singleton, withoutLineEnd_of_unbroken unbroken]

theorem contents_of_ends (unbroken : Unbroken content) (ends : EndsLine ending rest) :
    contents (content ++ ending ++ rest) = content :: contents rest := by
  unfold contents
  rw [universalLines_of_ends unbroken ends, List.map_cons,
    withoutLineEnd_append unbroken ends.isLineEnd]

theorem IsLineOf.behind (isLine : IsLineOf line rest) (ends : EndsLine ending rest)
    (content : List Char) :
    IsLineOf line (content ++ ending ++ rest) := by
  obtain ⟨before, after, rfl, unbroken, left, right⟩ := isLine
  refine ⟨content ++ ending ++ before, after, by simp, unbroken, ?_, right⟩
  intro character last
  rw [List.getLast?_append] at last
  rcases Option.or_eq_some_iff.mp last with inside | ⟨-, outside⟩
  · exact left character inside
  · exact ends.getLast? content character outside

/-- The contents of the lines of a text are lines of it. -/
theorem isLineOf_of_mem_contents (text : List Char) :
    ∀ line ∈ contents text, IsLineOf line text := by
  induction text using line_induction with
  | last content unbroken =>
      rw [contents_of_unbroken unbroken]
      intro line member
      split at member
      · cases member
      · obtain rfl := List.mem_singleton.mp member
        exact ⟨[], [], by simp, unbroken, nofun, nofun⟩
  | line content ending rest unbroken ends ih =>
      rw [contents_of_ends unbroken ends]
      intro line member
      rcases List.mem_cons.mp member with rfl | later
      · refine ⟨[], ending ++ rest, by simp, unbroken, nofun, ?_⟩
        intro character first
        rw [List.head?_append, List.head?_eq_some_head ends.ne_nil, Option.some_or] at first
        obtain rfl := Option.some.inj first
        exact ends.isLineEnd _ (List.head_mem ends.ne_nil)
      · exact (ih line later).behind ends content

/-! ### Other line ends -/

theorem replaceLineEnds_unbroken (terminator : List Char) (unbroken : Unbroken content)
    (rest : List Char) :
    replaceLineEnds terminator (content ++ rest) = content ++ replaceLineEnds terminator rest := by
  induction content with
  | nil => rfl
  | cons character content ih =>
      obtain ⟨inside, unbroken⟩ := unbroken_cons.mp unbroken
      obtain ⟨feed, carriage⟩ := isLineEnd_eq_false_iff.mp inside
      rw [List.cons_append, replaceLineEnds, ih unbroken]
      · rfl
      · intro _ same
        exact absurd same carriage
      · exact carriage
      · exact feed

theorem replaceLineEnds_ends (terminator : List Char) (ends : EndsLine ending rest) :
    replaceLineEnds terminator (ending ++ rest) = terminator ++ replaceLineEnds terminator rest := by
  cases ends with
  | lineFeed => rfl
  | both => rfl
  | carriageReturn other =>
      rw [List.singleton_append, replaceLineEnds]
      rintro later rfl
      exact other rfl

theorem terminated_of_unbroken (terminator : List Char) (unbroken : Unbroken content) :
    terminated terminator content = if content = [] then [] else content ++ terminator := by
  have kept := replaceLineEnds_unbroken terminator unbroken []
  rw [List.append_nil, replaceLineEnds, List.append_nil] at kept
  rw [terminated, kept]
  by_cases empty : content = []
  · rw [empty]
    rfl
  · have last := unbroken _ (List.getLast_mem empty)
    rw [List.getLast?_eq_some_getLast empty, Option.all_some, last, if_neg empty]
    rfl

theorem terminated_of_ends (terminator : List Char) (unbroken : Unbroken content)
    (ends : EndsLine ending rest) :
    terminated terminator (content ++ ending ++ rest) =
      content ++ terminator ++ terminated terminator rest := by
  have last : (content ++ ending ++ rest).getLast?.all isLineEnd = rest.getLast?.all isLineEnd := by
    rw [List.getLast?_append]
    cases rest.getLast? with
    | some character => rfl
    | none =>
        rw [Option.none_or, Option.all_none, Option.all_eq_true]
        exact ends.getLast? content
  rw [terminated, terminated, last, List.append_assoc, replaceLineEnds_unbroken terminator unbroken,
    replaceLineEnds_ends terminator ends]
  simp only [List.append_assoc]

/-- A text with other line ends is made of its lines, each with a terminator. -/
theorem flatMap_contents (terminator text : List Char) :
    (contents text).flatMap (· ++ terminator) = terminated terminator text := by
  induction text using line_induction with
  | last content unbroken =>
      rw [contents_of_unbroken unbroken, terminated_of_unbroken terminator unbroken]
      split <;> simp
  | line content ending rest unbroken ends ih =>
      rw [contents_of_ends unbroken ends, terminated_of_ends terminator unbroken ends,
        List.flatMap_cons, ih]

/-- Lines with a terminator each are cut where they have been put together. -/
theorem contents_flatMap (terminator : Config.LineTerminator) {lines : List (List Char)}
    (unbroken : ∀ line ∈ lines, Unbroken line) :
    contents (lines.flatMap (· ++ terminator.text.toList)) = lines := by
  induction lines with
  | nil => rfl
  | cons line rest ih =>
      obtain ⟨here, later⟩ := List.forall_mem_cons.mp unbroken
      have ends : EndsLine terminator.text.toList (rest.flatMap (· ++ terminator.text.toList)) := by
        cases terminator with
        | lineFeed => exact .lineFeed
        | carriageReturnLineFeed => exact .both
        | carriageReturn =>
            -- The next line starts with a character of its own or with its carriage return.
            refine .carriageReturn ?_
            rcases rest with - | ⟨- | ⟨first, next⟩, others⟩
            · exact nofun
            · exact nofun
            · have inside := (List.forall_mem_cons.mp later).1 first List.mem_cons_self
              simpa using (isLineEnd_eq_false_iff.mp inside).1
      rw [List.flatMap_cons, contents_of_ends here ends, ih later]

theorem filter_of_ends (ends : ∀ character ∈ ending, isLineEnd character) :
    ending.filter (!isLineEnd ·) = [] :=
  List.filter_eq_nil_iff.mpr fun character member => by simp [ends character member]

/-- With other line ends, a text has the same other characters as before. -/
theorem filter_terminated (terminator : Config.LineTerminator) (text : List Char) :
    (terminated terminator.text.toList text).filter (!isLineEnd ·) =
      text.filter (!isLineEnd ·) := by
  have ends : ∀ character ∈ terminator.text.toList, isLineEnd character := by
    cases terminator <;> exact List.all_eq_true.mp rfl
  induction text using line_induction with
  | last content unbroken =>
      rw [terminated_of_unbroken _ unbroken]
      split
      · next empty => rw [empty]
      · rw [List.filter_append, filter_of_ends ends, List.append_nil]
  | line content ending rest unbroken ended ih =>
      rw [terminated_of_ends _ unbroken ended, List.filter_append, List.filter_append,
        List.filter_append, List.filter_append, filter_of_ends ends,
        filter_of_ends ended.isLineEnd, ih]

end Lines

end Stencil.Text
