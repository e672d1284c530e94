/-
Module: Stencil.Yaml.Quoted
Purpose: Quoted scalars of YAML.
Main exports: readQuoted
-/
import Stencil.Yaml.Scalar
import Stencil.Yaml.Spacing

namespace Stencil.Yaml

/-- The character that an escape of one letter stands for. -/
def escapeLetter? : Char → Option Char
  | '0' => some (Char.ofNat 0)
  | 'a' => some (Char.ofNat 0x07)
  | 'b' => some (Char.ofNat 0x08)
  | 't' => some '\t'
  | '\t' => some '\t'
  | 'n' => some '\n'
  | 'v' => some (Char.ofNat 0x0b)
  | 'f' => some (Char.ofNat 0x0c)
  | 'r' => some '\r'
  | 'e' => some (Char.ofNat 0x1b)
  | ' ' => some ' '
  | '"' => some '"'
  | '/' => some '/'
  | '\\' => some '\\'
  | 'N' => some (Char.ofNat 0x85)
  | '_' => some (Char.ofNat 0xa0)
  | 'L' => some (Char.ofNat 0x2028)
  | 'P' => some (Char.ofNat 0x2029)
  | _ => none

/-- How many hexadecimal digits follow the letter of an escape by code. -/
def escapeWidth? : Char → Option Nat
  | 'x' => some 2
  | 'u' => some 4
  | 'U' => some 8
  | _ => none

/-- The code of hexadecimal digits, if there are as many as wanted. -/
def readCode? (width : Nat) (digits : List Char) : Option Nat :=
  if digits.length = width && digits.all (isBaseDigit 16) then readBase? 16 digits else none

/-- The character with a code.  There is none beyond the last code, nor for one half of a pair. -/
def characterOf (code : Nat) : Except Fault Char :=
  if code.isValidChar then .ok (Char.ofNat code)
  else if code < 0x110000 then .error .malformed
  else .error .noCharacter

/-- The code of the character that two halves of a pair stand for. -/
def pairCode? (high low : Nat) : Option Nat :=
  if 0xd800 ≤ high && high < 0xdc00 && 0xdc00 ≤ low && low < 0xe000 then
    some (0x10000 + (high - 0xd800) * 0x400 + (low - 0xdc00))
  else none

/-- The second half of a pair, if a text starts with an escape of four digits. -/
def secondHalf? : List Char → Option Nat
  | '\\' :: 'u' :: rest => readCode? 4 (rest.take 4)
  | _ => none

/-- Read the code of an escape from behind its letter, and how many characters it takes.  Two codes
that are the halves of a pair stand for one character. -/
def readCharacter (width : Nat) (text : List Char) : Except Fault (Char × Nat) :=
  match readCode? width (text.take width) with
  | none => .error .malformed
  | some code =>
      match (secondHalf? (text.drop width)).bind (pairCode? code) with
      | some joined => (characterOf joined).map fun character => (character, width + 6)
      | none => (characterOf code).map fun character => (character, width)

/-- What the blanks and breaks between two words of a quoted scalar become, and the rest.  Blanks
around breaks are dropped.  The mark of a document may not stand inside. -/
def readGap? (text : List Char) : Option (List Char × List Char) :=
  let blanks := text.takeWhile isSpace
  match takeBreak? (text.dropWhile isSpace) with
  | none => some (blanks, text.dropWhile isSpace)
  | some (first, rest) =>
      match breaksFrom isSpace true rest with
      | (none, _) => none
      | (some more, left) => some (foldBreak first more, left)

theorem length_dropWhile_le (test : Char → Bool) (text : List Char) :
    (text.dropWhile test).length ≤ text.length :=
  (List.dropWhile_sublist test).length_le

/-- A gap that starts with a blank or a break is not empty. -/
theorem readGap?_shorter {character : Char} {text content rest : List Char}
    (starts : isSpace character = true ∨ isBreak character = true)
    (found : readGap? (character :: text) = some (content, rest)) :
    rest.length < (character :: text).length := by
  unfold readGap? at found
  split at found
  · rename_i noBreak
    simp only [Option.some.injEq, Prod.mk.injEq] at found
    by_cases blank : isSpace character = true
    · rw [← found.2, List.dropWhile_cons_of_pos blank, List.length_cons]
      exact Nat.lt_succ_of_le (length_dropWhile_le _ _)
    · rw [List.dropWhile_cons_of_neg blank] at noBreak
      have isBroken := starts.resolve_left blank
      unfold takeBreak? at noBreak
      split at noBreak
      · simp at noBreak
      · rename_i equal
        simp only [List.cons.injEq] at equal
        obtain ⟨equal, -⟩ := equal
        simp only [isBreak, Bool.or_eq_true] at isBroken
        rw [equal] at isBroken
        split at noBreak
        · simp at noBreak
        · rename_i notLine
          split at noBreak
          · simp at noBreak
          · rename_i notWide
            exact absurd isBroken (by simp only [notLine, notWide]; decide)
      · rename_i equal
        simp at equal
  · rename_i first behind someBreak
    split at found
    · simp at found
    · rename_i more left folded
      simp only [Option.some.injEq, Prod.mk.injEq] at found
      have broken := takeBreak?_shorter someBreak
      have shorter := breaksFrom_length isSpace true behind
      have dropped := length_dropWhile_le isSpace (character :: text)
      rw [folded] at shorter
      rw [← found.2]
      simp only at shorter
      omega

/-- Read a scalar in single quotes from behind its opening quote.  A quote inside is written twice.
`done` is the text read so far, in reverse. -/
def readSingle? (done : List Char) (text : List Char) : Option (List Char × List Char) :=
  match text with
  | [] => none
  | '\'' :: '\'' :: rest => readSingle? ('\'' :: done) rest
  | '\'' :: rest => some (done.reverse, rest)
  | character :: rest =>
      if _starts : isSpace character = true ∨ isBreak character = true then
        match _gap : readGap? (character :: rest) with
        | none => none
        | some (content, left) => readSingle? (content.reverse ++ done) left
      else readSingle? (character :: done) rest
termination_by text.length
decreasing_by
  · simp only [List.length_cons]
    omega
  · exact readGap?_shorter _starts _gap
  · simp only [List.length_cons]
    omega

/-- Read a scalar in double quotes from behind its opening quote, with escapes.  An escaped break is
dropped.  `done` is the text read so far, in reverse. -/
def readDouble (done : List Char) (text : List Char) : Except Fault (List Char × List Char) :=
  match text with
  | [] => .error .malformed
  | '"' :: rest => .ok (done.reverse, rest)
  | '\\' :: letter :: rest =>
      match escapeLetter? letter with
      | some character => readDouble (character :: done) rest
      | none =>
          match escapeWidth? letter with
          | some width =>
              match readCharacter width rest with
              | .ok (character, taken) => readDouble (character :: done) (rest.drop taken)
              | .error fault => .error fault
          | none =>
              match _broken : takeBreak? (letter :: rest) with
              | none => .error .malformed
              | some (_, behind) =>
                  match _lines : breaksFrom isSpace true behind with
                  | (none, _) => .error .malformed
                  | (some more, left) => readDouble (more.reverse ++ done) left
  | character :: rest =>
      if _starts : isSpace character = true ∨ isBreak character = true then
        match _gap : readGap? (character :: rest) with
        | none => .error .malformed
        | some (content, left) => readDouble (content.reverse ++ done) left
      else if character == '\\' then .error .malformed
      else readDouble (character :: done) rest
termination_by text.length
decreasing_by
  · simp only [List.length_cons]
    omega
  · simp only [List.length_cons, List.length_drop]
    omega
  · have broken := takeBreak?_shorter _broken
    have shorter := breaksFrom_length isSpace true behind
    rw [_lines] at shorter
    simp only [List.length_cons] at broken shorter ⊢
    omega
  · exact readGap?_shorter _starts _gap
  · simp only [List.length_cons]
    omega

/-- Read a quoted scalar: its text, and what stands behind it. -/
def readQuoted : List Char → Except Fault (List Char × List Char)
  | '\'' :: rest =>
      match readSingle? [] rest with
      | some result => .ok result
      | none => .error .malformed
  | '"' :: rest => readDouble [] rest
  | _ => .error .malformed

end Stencil.Yaml
