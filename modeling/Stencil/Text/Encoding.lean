/-
Module: Stencil.Text.Encoding
Purpose: The encodings of text files, and writing text as bytes.
Main exports: Encoding, Encoding.ofName?, EncodeError, Encoding.encode
-/
import Stencil.Number.Layout
import Stencil.Text.Quoted

namespace Stencil.Text

/-- The encodings of text files. -/
inductive Encoding where
  | utf8
  | latin1
  | ascii
deriving Repr, Inhabited, DecidableEq

namespace Encoding

/-- The name of an encoding in messages. -/
def name : Encoding → String
  | utf8 => "utf-8"
  | latin1 => "latin-1"
  | ascii => "ascii"

/-- The name of an encoding, as `plainName` leaves it. -/
def ownName : Encoding → String
  | utf8 => "utf_8"
  | latin1 => "latin_1"
  | ascii => "ascii"

/-- The other names of an encoding, as `plainName` leaves them. -/
def otherNames : Encoding → List String
  | utf8 => ["u8", "utf", "utf8", "utf8_ucs2", "utf8_ucs4", "cp65001"]
  | latin1 =>
      ["8859", "cp819", "csisolatin1", "ibm819", "iso8859", "iso8859_1", "iso_8859_1",
        "iso_8859_1_1987", "iso_ir_100", "l1", "latin", "latin1"]
  | ascii =>
      ["646", "ansi_x3.4_1968", "ansi_x3_4_1968", "ansi_x3.4_1986", "cp367", "csascii", "ibm367",
        "iso646_us", "iso_646.irv_1991", "iso_ir_6", "us", "us_ascii"]

/-- Whether a character counts in the name of an encoding. -/
def isNameCharacter (character : Char) : Bool :=
  character.isAlphanum || character == '.'

/-- A name without case and separators: each run of other characters between two parts becomes an
underscore, and such runs at the ends are dropped. -/
def plainName (written : String) : String :=
  let parts := (written.toList.map Char.toLower).splitBy fun left right =>
    isNameCharacter left == isNameCharacter right
  "_".intercalate ((parts.filter fun part => part.all isNameCharacter).map String.ofList)

/-- The encoding with a name.  Points count as underscores in all names but the own ones. -/
def ofName? (written : String) : Option Encoding :=
  let plain := plainName written
  let undotted := plain.map fun character => if character == '.' then '_' else character
  [utf8, latin1, ascii].find? fun encoding =>
    plain == encoding.ownName || encoding.otherNames.contains plain
      || encoding.otherNames.contains undotted

end Encoding

/-- Characters that an encoding has no bytes for, from `start` up to before `stop`. -/
structure EncodeError where
  encoding : Encoding
  character : Char
  start : Nat
  stop : Nat
deriving Repr, Inhabited, DecidableEq

/-- How many characters an encoding with one byte for each of them has. -/
def Encoding.limit : Encoding → Nat
  | utf8 => 0x110000
  | latin1 => 0x100
  | ascii => 0x80

/-- The text of an encoding error. -/
def EncodeError.message (error : EncodeError) : String :=
  let place :=
    if error.stop = error.start + 1 then
      "character '" ++ String.ofList (codeEscape error.character.toNat) ++ "' in position "
        ++ integerText error.start
    else
      "characters in position " ++ integerText error.start ++ "-" ++ integerText (error.stop - 1 : Nat)
  "'" ++ error.encoding.name ++ "' codec can't encode " ++ place ++ ": ordinal not in range("
    ++ integerText error.encoding.limit ++ ")"

/-- The bytes of a character that an encoding has. -/
def Encoding.characterBytes (encoding : Encoding) (character : Char) : List UInt8 :=
  match encoding with
  | .utf8 => String.utf8EncodeChar character
  | _ => [UInt8.ofNat character.toNat]

/-- The bytes of a text.  The first run of characters that the encoding does not have is an error. -/
def Encoding.encode (encoding : Encoding) (text : List Char) : Except EncodeError (List UInt8) :=
  let isKnown : Char → Bool := fun character => character.toNat < encoding.limit
  let known := text.takeWhile isKnown
  match text.dropWhile isKnown with
  | [] => .ok (text.flatMap encoding.characterBytes)
  | character :: rest =>
      let run := rest.takeWhile fun next => !isKnown next
      .error ⟨encoding, character, known.length, known.length + 1 + run.length⟩

end Stencil.Text
