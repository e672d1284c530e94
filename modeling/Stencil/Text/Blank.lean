/-
Module: Stencil.Text.Blank
Purpose: Blank characters, trimming, and splitting at blanks.
Main exports: isBlank, trim, trimEnd, words
-/
import Stencil.Text.RangeSet

namespace Stencil.Text

/-- The spaces, tabs, line ends and separators that count as blank. -/
def blankCharacters : RangeSet where
  boundaries := [
    9, 14, 28, 33, 133, 134, 160, 161, 5760, 5761, 8192, 8203, 8232, 8234, 8239, 8240, 8287,
    8288, 12288, 12289]

/-- Whether a character is blank. -/
def isBlank (character : Char) : Bool :=
  blankCharacters.contains character

/-- Drop the blanks in front. -/
def trimStart (characters : List Char) : List Char :=
  characters.dropWhile isBlank

/-- Drop the blanks at the end. -/
def trimEnd (characters : List Char) : List Char :=
  (characters.reverse.dropWhile isBlank).reverse

/-- Drop the blanks at both ends. -/
def trim (characters : List Char) : List Char :=
  trimEnd (trimStart characters)

/-- Collect the words of a text, given the word under way in reverse. -/
def wordsFrom (current : List Char) : List Char → List (List Char)
  | [] => if current.isEmpty then [] else [current.reverse]
  | character :: rest =>
      if isBlank character then
        if current.isEmpty then wordsFrom [] rest else current.reverse :: wordsFrom [] rest
      else wordsFrom (character :: current) rest

/-- The maximal runs of characters that are not blank, in order. -/
def words (characters : List Char) : List (List Char) :=
  wordsFrom [] characters


end Stencil.Text
