/-
Module: Stencil.Number.Reading
Purpose: Reading integers and double-precision numbers from text.
Main exports: readInteger?, readDecimalLiteral?, readDouble?
-/
import Stencil.Text.Blank
import Stencil.Text.DecimalDigit
import Stencil.Text.LetterCase
import Stencil.Number.Shortest

namespace Stencil

open Text

/-- Split a sign off, if there is one: whether it is a minus, and the rest. -/
def splitSign : List Char → Bool × List Char
  | '-' :: rest => (true, rest)
  | '+' :: rest => (false, rest)
  | characters => (false, characters)

/-- Read an optional sign and one or more decimal digits of any script. -/
def readInteger? (characters : List Char) : Option Int :=
  let (negative, digits) := splitSign characters
  if digits.isEmpty || !digits.all isDecimalDigit then none
  else
    let value : Int := naturalOfDigits digits
    some (if negative then -value else value)

/-- Read an exponent: nothing, or a mark, an optional sign and one or more digits. -/
def readExponent? : List Char → Option Int
  | [] => some 0
  | mark :: rest => if mark == 'e' || mark == 'E' then readInteger? rest else none

/-- Read an unsigned decimal: digits with a point somewhere in or around them, at least one digit,
and an optional exponent. -/
def readDecimalLiteral? (characters : List Char) : Option Decimal :=
  let whole := characters.takeWhile isDecimalDigit
  let afterWhole := characters.dropWhile isDecimalDigit
  let (fraction, afterFraction) :=
    match afterWhole with
    | '.' :: rest => (rest.takeWhile isDecimalDigit, rest.dropWhile isDecimalDigit)
    | rest => ([], rest)
  if whole.isEmpty && fraction.isEmpty then none
  else
    (readExponent? afterFraction).map fun exponent =>
      ⟨naturalOfDigits (whole ++ fraction), exponent - fraction.length⟩

/-- Remove the underscores of a number.  Each one must stand between two digits. -/
def dropUnderscores? : Option Char → List Char → Option (List Char)
  | _, [] => some []
  | previous, '_' :: rest =>
      let follows := match rest with
        | next :: _ => isDecimalDigit next
        | [] => false
      if previous.any isDecimalDigit && follows then dropUnderscores? (some '_') rest else none
  | _, character :: rest => (dropUnderscores? (some character) rest).map (character :: ·)

/-- Read a number that is written as a word. -/
def readNumberWord? (negative : Bool) (characters : List Char) : Option Double :=
  let word := String.ofList (lowerAscii characters)
  if word == "inf" || word == "infinity" then some (Double.signedInfinity negative)
  else if word == "nan" then some Double.nan
  else none

/-- The blanks that may stand around a number: all but the four information separators. -/
def isNumberBlank (character : Char) : Bool :=
  isBlank character && !(0x1c ≤ character.toNat && character.toNat ≤ 0x1f)

/-- Drop the blanks around a number. -/
def trimNumber (characters : List Char) : List Char :=
  ((characters.dropWhile isNumberBlank).reverse.dropWhile isNumberBlank).reverse

/-- Read a number: blanks around it are dropped, a sign may stand in front, single underscores may
stand between digits, and `inf`, `infinity` and `nan` are numbers in any case.  Magnitudes beyond
the finite range become infinite. -/
def readDouble? (characters : List Char) : Option Double := do
  let (negative, magnitude) := splitSign (trimNumber characters)
  match readNumberWord? negative magnitude with
  | some number => some number
  | none =>
      let digits ← dropUnderscores? none magnitude
      let decimal ← readDecimalLiteral? digits
      pure (Double.ofDecimal negative decimal)

end Stencil
