/-
Module: Stencil.Yaml.Token
Purpose: The tokens of a YAML document, with the places where its blocks begin and end.
Main exports: Token, Cursor, Plain.read, Scan, tokenize
-/
import Stencil.Yaml.Quoted

namespace Stencil.Yaml

/-- A token.  Blocks are kept apart by tokens of their own, which the indentation gives. -/
inductive Token where
  | documentStart
  | documentEnd
  | blockList
  | blockMap
  | blockEnd
  /-- A hyphen in front of an item. -/
  | item
  /-- The start of a key. -/
  | key
  /-- A colon between a key and its value. -/
  | value
  | openList
  | closeList
  | openMap
  | closeMap
  | comma
  /-- A scalar without quotes. -/
  | plain (written : List Char)
  | quoted (content : List Char)
deriving Repr, Inhabited, DecidableEq

/-- What is left of a text, and where that starts. -/
structure Cursor where
  rest : List Char
  line : Nat := 0
  column : Nat := 0
  offset : Nat := 0
deriving Repr, Inhabited, DecidableEq

namespace Cursor

/-- Go over one character. -/
def next (cursor : Cursor) : Cursor :=
  match cursor.rest with
  | [] => cursor
  | character :: rest =>
      let offset := cursor.offset + 1
      if character == '\n' || (character == '\r' && rest.head? != some '\n') then
        { rest, line := cursor.line + 1, column := 0, offset }
      else if character == '\ufeff' then { cursor with rest, offset }
      else { cursor with rest, column := cursor.column + 1, offset }

/-- Go over a number of characters. -/
def skip : Nat → Cursor → Cursor
  | 0, cursor => cursor
  | count + 1, cursor => skip count cursor.next

/-- Go on to where only `rest` is left. -/
def skipTo (rest : List Char) (cursor : Cursor) : Cursor :=
  cursor.skip (cursor.rest.length - rest.length)

end Cursor

/-- Whether a character stands for itself between brackets. -/
def isFlowMark (character : Char) : Bool :=
  [',', '[', ']', '\x7b', '\x7d'].contains character

/-- How many characters go into the word that a plain scalar starts or goes on with.  A colon in front
of a blank ends it, and between brackets so do their marks. -/
def wordLength (inFlow : Bool) : List Char → Nat
  | [] => 0
  | character :: rest =>
      if character == ':' then
        if endsWord rest then 0 else wordLength inFlow rest + 1
      else if isSpace character || isLineBreak character || (inFlow && isFlowMark character) then 0
      else wordLength inFlow rest + 1

/-- What stands behind a word of a plain scalar: the characters that it becomes if another word
follows, none if the scalar has to end here; where it ends; and whether a line has ended. -/
def plainGap (cursor : Cursor) : List Char × Cursor × Bool :=
  let spaces := cursor.rest.takeWhile (· == ' ')
  let behind := cursor.rest.dropWhile (· == ' ')
  match takeBreak? behind with
  | none => (spaces, cursor.skipTo behind, false)
  | some (first, rest) =>
      if isDocumentMark rest then ([], cursor.skipTo rest, true)
      else
        match breaksFrom (· == ' ') true rest with
        | (none, left) => ([], cursor.skipTo left, true)
        | (some more, left) => (foldBreak first more, cursor.skipTo left, true)

/-- A plain scalar under way: its text, where it ends, and whether a line has ended behind its last
word. -/
structure Plain where
  written : List Char
  cursor : Cursor
  lineEnded : Bool
deriving Repr, Inhabited, DecidableEq

/-- Read the words of a plain scalar, at most `bound` of them.  Outside of brackets, a word on a later
line must be indented deeper than the block.  A comment ends the scalar. -/
def Plain.read (inFlow : Bool) (minimum : Nat) : Nat → Plain → List Char → Plain
  | 0, read, _ => read
  | bound + 1, read, gap =>
      let length := wordLength inFlow read.cursor.rest
      if length = 0 || read.cursor.rest.head? == some '#' then read
      else
        let word := read.cursor.rest.take length
        let (next, cursor, lineEnded) := plainGap (read.cursor.skip length)
        let longer : Plain := ⟨read.written ++ gap ++ word, cursor, lineEnded⟩
        if next.isEmpty || (!inFlow && cursor.column < minimum) then longer
        else Plain.read inFlow minimum bound longer next

/-- How many blanks, comments and breaks stand in front of the next token, and whether a line ends
among them.  Tabs are blanks between brackets only. -/
def blankLength (inFlow inComment : Bool) : List Char → Nat × Bool
  | [] => (0, false)
  | character :: rest =>
      if inComment && !isLineBreak character then
        let (length, lineEnded) := blankLength inFlow true rest
        (length + 1, lineEnded)
      else if isBreak character then
        ((blankLength inFlow false rest).1 + 1, true)
      else if character == ' ' || (inFlow && character == '\t') then
        let (length, lineEnded) := blankLength inFlow false rest
        (length + 1, lineEnded)
      else if character == '#' then
        let (length, lineEnded) := blankLength inFlow true rest
        (length + 1, lineEnded)
      else (0, false)

/-- The brackets that may be open. -/
inductive Bracket where
  | list
  | map
deriving Repr, Inhabited, DecidableEq

/-- A token that turns out to be a key if a colon follows it: its place among the tokens, whether a
colon has to follow, and where it starts. -/
structure PossibleKey where
  slot : Nat
  required : Bool
  line : Nat
  column : Nat
  offset : Nat
deriving Repr, Inhabited, DecidableEq

/-- The inside of a bracket, or what is outside of all brackets. -/
structure Level where
  bracket : Option Bracket := none
  key : Option PossibleKey := none
deriving Repr, Inhabited, DecidableEq

/-- Tokens under way.  Each place among the tokens holds none, one or two of them, because keys are
recognised only when their colon is found. -/
structure Scan where
  cursor : Cursor
  tokens : Array (List Token) := #[]
  level : Level := {}
  outer : List Level := []
  /-- The columns of the open blocks, the innermost first. -/
  blocks : List Nat := []
  /-- Whether a key may start here. -/
  keyAllowed : Bool := true
deriving Repr, Inhabited

namespace Scan

/-- Whether a bracket is open. -/
def inFlow (scan : Scan) : Bool :=
  scan.level.bracket.isSome

/-- Add a token. -/
def emit (scan : Scan) (token : Token) : Scan :=
  { scan with tokens := scan.tokens.push [token] }

/-- Go over a number of characters. -/
def advance (scan : Scan) (count : Nat) : Scan :=
  { scan with cursor := scan.cursor.skip count }

/-- Whether a column is deeper than the innermost block. -/
def isDeeper (scan : Scan) (column : Nat) : Bool :=
  match scan.blocks with
  | [] => true
  | innermost :: _ => innermost < column

/-- Open a block of the kind of a token at a column, unless it is open already. -/
def openBlock (scan : Scan) (token : Token) (column : Nat) : Scan :=
  if scan.isDeeper column then { scan.emit token with blocks := column :: scan.blocks } else scan

/-- Close the blocks that satisfy a test, from the innermost out. -/
def closeBlocks (scan : Scan) (test : Nat → Bool) : Scan :=
  if scan.inFlow then scan
  else
    (scan.blocks.takeWhile test).foldl (fun closing _ => closing.emit .blockEnd)
      { scan with blocks := scan.blocks.dropWhile test }

/-- Give up a possible key. -/
def PossibleKey.forget : Option PossibleKey → Except Fault (Option PossibleKey)
  | some key => if key.required then .error .malformed else .ok none
  | none => .ok none

/-- Give up the possible key at the current level. -/
def forgetKey (scan : Scan) : Except Fault Scan := do
  let key ← PossibleKey.forget scan.level.key
  pure { scan with level := { scan.level with key } }

/-- Give up a possible key that is not on this line any more, or too far back. -/
def Level.forgetStale (cursor : Cursor) (level : Level) : Except Fault Level :=
  match level.key with
  | some key =>
      if key.line ≠ cursor.line || 1024 < cursor.offset - key.offset then do
        let key ← PossibleKey.forget (some key)
        pure { level with key }
      else pure level
  | none => pure level

/-- Note that the next token may be a key.  In a block of keys it has to be one. -/
def noteKey (scan : Scan) : Except Fault Scan :=
  if scan.keyAllowed then do
    let clear ← scan.forgetKey
    let cursor := scan.cursor
    let required := !scan.inFlow && scan.blocks.head? == some cursor.column
    let key : PossibleKey :=
      ⟨clear.tokens.size, required, cursor.line, cursor.column, cursor.offset⟩
    pure { clear with
      tokens := clear.tokens.push [],
      level := { clear.level with key := some key } }
  else pure scan

/-- Go on to the next token: give up keys that are too far back, and close the blocks that it is not
inside of. -/
def prepare (scan : Scan) : Except Fault Scan := do
  let (length, lineEnded) := blankLength scan.inFlow false scan.cursor.rest
  let scan := scan.advance length
  let keyAllowed := scan.keyAllowed || (lineEnded && !scan.inFlow)
  let level ← Level.forgetStale scan.cursor scan.level
  let outer ← scan.outer.mapM (Level.forgetStale scan.cursor)
  let column := scan.cursor.column
  pure ({ scan with level, outer, keyAllowed }.closeBlocks (column < ·))

/-- The mark of a document. -/
def documentMark (scan : Scan) (token : Token) : Except Fault Scan := do
  let scan ← (scan.closeBlocks fun _ => true).forgetKey
  pure ({ scan with keyAllowed := false }.advance 3 |>.emit token)

/-- An opening bracket. -/
def openBracket (scan : Scan) (bracket : Bracket) : Except Fault Scan := do
  let noted ← scan.noteKey
  let inside : Scan :=
    { noted with
      level := ⟨some bracket, none⟩,
      outer := noted.level :: noted.outer,
      keyAllowed := true }
  pure (inside.advance 1 |>.emit (match bracket with
    | .list => .openList
    | .map => .openMap))

/-- A closing bracket, of whatever kind. -/
def closeBracket (scan : Scan) (token : Token) : Except Fault Scan := do
  let scan ← scan.forgetKey
  match scan.outer with
  | [] => .error .malformed
  | level :: outer =>
      pure ({ scan with level, outer, keyAllowed := false }.advance 1 |>.emit token)

/-- A comma. -/
def comma (scan : Scan) : Except Fault Scan := do
  let scan ← { scan with keyAllowed := true }.forgetKey
  pure (scan.advance 1 |>.emit .comma)

/-- Open a block at the mark of an item or a key, where one may stand. -/
def openAtMark (scan : Scan) (block : Token) : Except Fault Scan :=
  if scan.inFlow then .ok scan
  else if scan.keyAllowed then .ok (scan.openBlock block scan.cursor.column)
  else .error .malformed

/-- The hyphen of an item. -/
def itemMark (scan : Scan) : Except Fault Scan := do
  let opened ← scan.openAtMark .blockList
  let scan ← { opened with keyAllowed := true }.forgetKey
  pure (scan.advance 1 |>.emit .item)

/-- The question mark of a key. -/
def keyMark (scan : Scan) : Except Fault Scan := do
  let opened ← scan.openAtMark .blockMap
  let scan ← { opened with keyAllowed := !scan.inFlow }.forgetKey
  pure (scan.advance 1 |>.emit .key)

/-- A colon.  What it follows is a key now. -/
def valueMark (scan : Scan) : Except Fault Scan := do
  match scan.level.key with
  | some key =>
      let opens := !scan.inFlow && scan.isDeeper key.column
      let resolved : Scan :=
        { scan with
          tokens := scan.tokens.setIfInBounds key.slot
            (if opens then [.blockMap, .key] else [.key]),
          blocks := if opens then key.column :: scan.blocks else scan.blocks,
          level := { scan.level with key := none },
          keyAllowed := false }
      pure (resolved.advance 1 |>.emit .value)
  | none =>
      let opened ← scan.openAtMark .blockMap
      pure ({ opened with keyAllowed := !scan.inFlow }.advance 1 |>.emit .value)

/-- A quoted scalar. -/
def quotedScalar (scan : Scan) : Except Fault Scan := do
  let noted ← scan.noteKey
  let (content, rest) ← readQuoted scan.cursor.rest
  pure ({ noted with keyAllowed := false, cursor := scan.cursor.skipTo rest }.emit
    (.quoted content))

/-- A plain scalar.  Behind a line that ends, a key may start again. -/
def plainScalar (scan : Scan) : Except Fault Scan := do
  let noted ← scan.noteKey
  let minimum := match scan.blocks with
    | [] => 0
    | innermost :: _ => innermost + 1
  let read := Plain.read scan.inFlow minimum scan.cursor.rest.length ⟨[], scan.cursor, false⟩ []
  pure ({ noted with keyAllowed := read.lineEnded, cursor := read.cursor }.emit
    (.plain read.written))

/-- Whether a colon in front of this text stands between a key and its value.  Inside braces it needs
no blank behind it, unless another colon has just been there. -/
def isValueMark (scan : Scan) (rest : List Char) : Bool :=
  endsWord rest ||
    (scan.level.bracket == some .map && scan.tokens.back? != some [.value])

/-- Whether a character can never start a plain scalar. -/
def isReserved (character : Char) : Bool :=
  isFlowMark character
    || ['#', '&', '*', '!', '|', '>', '\'', '"', '%', '@', Char.ofNat 0x60].contains character

/-- Whether a plain scalar starts here. -/
def startsPlain (inFlow : Bool) (first : Char) (rest : List Char) : Bool :=
  let alone := match rest with
    | [] => true
    | next :: _ => isSpace next || isBreak next
  if first == '-' then !alone
  else if first == '?' then !alone && !inFlow
  else if first == ':' then
    if inFlow then !rest.head?.any isSpace else !alone
  else !isReserved first && !isSpace first && !isBreak first

/-- Take the next token, which starts with the given character. -/
def step (scan : Scan) (first : Char) (rest : List Char) : Except Fault Scan :=
  let atStart := scan.cursor.column = 0
  if atStart && first == '%' then .error .malformed
  else if atStart && isDocumentMark (first :: rest) then
    scan.documentMark (if first == '-' then .documentStart else .documentEnd)
  else if first == '[' then scan.openBracket .list
  else if first == '\x7b' then scan.openBracket .map
  else if first == ']' then scan.closeBracket .closeList
  else if first == '\x7d' then scan.closeBracket .closeMap
  else if first == ',' then scan.comma
  else if first == '-' && endsWord rest then scan.itemMark
  else if first == '?' && (scan.inFlow || endsWord rest) then scan.keyMark
  else if first == ':' && scan.isValueMark rest then scan.valueMark
  else if first == '\'' || first == '"' then scan.quotedScalar
  else if startsPlain scan.inFlow first rest then scan.plainScalar
  else .error .malformed

/-- The tokens, when the text has ended. -/
def finish (scan : Scan) : Except Fault (List Token) := do
  let scan ← (scan.closeBlocks fun _ => true).forgetKey
  pure scan.tokens.toList.flatten

/-- Take tokens to the end of the text, at most `bound` of them. -/
def run : Nat → Scan → Except Fault (List Token)
  | 0, _ => .error .malformed
  | bound + 1, scan => do
      let ready ← scan.prepare
      match ready.cursor.rest with
      | [] => ready.finish
      | first :: rest => do
          let next ← ready.step first rest
          run bound next

end Scan

/-- The tokens of a document.  Each takes at least one character. -/
def tokenize (text : List Char) : Except Fault (List Token) :=
  Scan.run (text.length + 1) { cursor := { rest := text } }

end Stencil.Yaml
