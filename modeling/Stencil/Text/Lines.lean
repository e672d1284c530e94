/-
Module: Stencil.Text.Lines
Purpose: Cutting text into lines and removing line ends.
Main exports: universalLines, feedLines, completeLines, withLineFeeds, withoutLineEnd
-/
namespace Stencil.Text

/-- Cut into lines that keep their ends, given the line under way in reverse.  A line ends at a
line feed, a carriage return, or both in this order. -/
def universalLinesFrom (current : List Char) : List Char → List (List Char)
  | [] => if current.isEmpty then [] else [current.reverse]
  | '\r' :: '\n' :: rest => ('\n' :: '\r' :: current).reverse :: universalLinesFrom [] rest
  | '\r' :: rest => ('\r' :: current).reverse :: universalLinesFrom [] rest
  | '\n' :: rest => ('\n' :: current).reverse :: universalLinesFrom [] rest
  | character :: rest => universalLinesFrom (character :: current) rest

/-- The lines of a text, with their ends.  Nothing but line feeds and carriage returns ends a
line. -/
def universalLines (text : List Char) : List (List Char) :=
  universalLinesFrom [] text

/-- Cut at line feeds alone, given the line under way in reverse. -/
def feedLinesFrom (current : List Char) : List Char → List (List Char)
  | [] => if current.isEmpty then [] else [current.reverse]
  | '\n' :: rest => ('\n' :: current).reverse :: feedLinesFrom [] rest
  | character :: rest => feedLinesFrom (character :: current) rest

/-- The lines of a text that end at line feeds only, with their ends. -/
def feedLines (text : List Char) : List (List Char) :=
  feedLinesFrom [] text

/-- The lines of a text that more text behind it could not extend: a last line counts only if it
ends with a line feed, because a line feed may still follow a carriage return. -/
def completeLines (text : List Char) : List (List Char) :=
  let lines := universalLines text
  match lines.getLast? with
  | some line => if line.getLast? == some '\n' then lines else lines.dropLast
  | none => lines

/-- A text with a line feed at the end of each line. -/
def withLineFeeds : List Char → List Char
  | [] => []
  | '\r' :: '\n' :: rest => '\n' :: withLineFeeds rest
  | '\r' :: rest => '\n' :: withLineFeeds rest
  | character :: rest => character :: withLineFeeds rest

/-- Whether a character is a line feed or a carriage return. -/
def isLineEnd (character : Char) : Bool :=
  character == '\n' || character == '\r'

/-- Remove all line feeds and carriage returns at the end. -/
def withoutLineEnd (line : List Char) : List Char :=
  (line.reverse.dropWhile isLineEnd).reverse

end Stencil.Text
