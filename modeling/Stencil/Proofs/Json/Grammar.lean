/-
Module: Stencil.Proofs.Json.Grammar
Purpose: The texts that are JSON by RFC 8259, each with the document that it spells.
Main exports: SpellsCharacter, SpellsCharacters, SpellsNumber, Spells, SpellsElement
-/
import Stencil.Json.Document
import Stencil.Number.Reading

namespace Stencil.Json

/-! ### Texts -/

/-- The value of a hexadecimal digit, in either case. -/
def hexadecimalDigit? (digit : Char) : Option Nat :=
  if digit.isDigit then some (digit.toNat - '0'.toNat)
  else if 'a' ≤ digit ∧ digit ≤ 'f' then some (digit.toNat - 'a'.toNat + 10)
  else if 'A' ≤ digit ∧ digit ≤ 'F' then some (digit.toNat - 'A'.toNat + 10)
  else none

/-- The value of hexadecimal digits. -/
def hexadecimalValue? (digits : List Char) : Option Nat :=
  digits.foldlM (fun value digit => (hexadecimalDigit? digit).map (16 * value + ·)) 0

/-- The characters that may follow a backslash alone, with what they stand for. -/
def shortEscapes : List (Char × Char) :=
  [('"', '"'), ('\\', '\\'), ('/', '/'), ('b', Char.ofNat 0x08), ('f', Char.ofNat 0x0c),
    ('n', '\n'), ('r', '\r'), ('t', '\t')]

/-- Four hexadecimal digits with a value. -/
def IsCode (digits : List Char) (value : Nat) : Prop :=
  digits.length = 4 ∧ hexadecimalValue? digits = some value

/-- One character inside quotes: as it is, unless it is a quote, a backslash or a control character;
by an escape; or by its code, which is written as a pair of surrogates if it has more than four
digits. -/
inductive SpellsCharacter : List Char → Char → Prop where
  | plain {character : Char} (noQuote : character ≠ '"') (noEscape : character ≠ '\\')
      (noControl : 0x20 ≤ character.toNat) : SpellsCharacter [character] character
  | escape {mark meant : Char} (listed : (mark, meant) ∈ shortEscapes) :
      SpellsCharacter ['\\', mark] meant
  | code {digits : List Char} {value : Nat} (isCode : IsCode digits value)
      (single : value < 0xd800 ∨ 0xe000 ≤ value) :
      SpellsCharacter ('\\' :: 'u' :: digits) (Char.ofNat value)
  | pair {high low : List Char} {upper lower : Nat} (isHigh : IsCode high upper)
      (isLow : IsCode low lower) (first : 0xd800 ≤ upper ∧ upper < 0xdc00)
      (second : 0xdc00 ≤ lower ∧ lower < 0xe000) :
      SpellsCharacter ('\\' :: 'u' :: (high ++ '\\' :: 'u' :: low))
        (Char.ofNat (0x10000 + 0x400 * (upper - 0xd800) + (lower - 0xdc00)))

/-- The characters inside quotes. -/
inductive SpellsCharacters : List Char → List Char → Prop where
  | nil : SpellsCharacters [] []
  | cons {spelling text content : List Char} {character : Char}
      (first : SpellsCharacter spelling character) (later : SpellsCharacters text content) :
      SpellsCharacters (spelling ++ text) (character :: content)

/-! ### Numbers -/

/-- One or more digits from 0 to 9. -/
def IsDigits (digits : List Char) : Prop :=
  digits ≠ [] ∧ ∀ digit ∈ digits, digit.isDigit = true

/-- The digits in front of the point: a zero alone, or digits that do not start with one. -/
def IsWhole (digits : List Char) : Prop :=
  digits = ['0'] ∨ IsDigits digits ∧ digits.head? ≠ some '0'

def IsMinus (sign : List Char) : Prop :=
  sign = [] ∨ sign = ['-']

/-- The point and the digits behind it. -/
def IsFraction (text : List Char) : Prop :=
  ∃ digits, text = '.' :: digits ∧ IsDigits digits

/-- The mark of an exponent, at most one sign, and digits. -/
def IsExponent (text : List Char) : Prop :=
  ∃ mark sign digits, (mark = 'e' ∨ mark = 'E') ∧
    (sign = [] ∨ sign = ['+'] ∨ sign = ['-']) ∧ IsDigits digits ∧
    text = mark :: (sign ++ digits)

/-- A number without fraction and exponent is read as an integer, any other one as the
double-precision number that is nearest. -/
inductive SpellsNumber : List Char → Document → Prop where
  | integer {sign digits : List Char} {value : Int} (minus : IsMinus sign) (whole : IsWhole digits)
      (read : readInteger? (sign ++ digits) = some value) :
      SpellsNumber (sign ++ digits) (.integer value)
  | double {sign digits fraction exponent : List Char} {value : Double} (minus : IsMinus sign)
      (whole : IsWhole digits) (behind : fraction = [] ∨ IsFraction fraction)
      (power : exponent = [] ∨ IsExponent exponent) (marked : fraction ≠ [] ∨ exponent ≠ [])
      (read : readDouble? (sign ++ digits ++ fraction ++ exponent) = some value) :
      SpellsNumber (sign ++ digits ++ fraction ++ exponent) (.double value)

/-! ### Values -/

/-- The characters that may stand around values, names, and the marks between them. -/
def isSpace (character : Char) : Bool :=
  character == ' ' || character == '\t' || character == '\n' || character == '\r'

def Spaces (text : List Char) : Prop :=
  ∀ character ∈ text, isSpace character = true

/-- The name of a member: a quoted text with blanks around it. -/
inductive SpellsName : List Char → String → Prop where
  | quoted {before after text content : List Char} (blank : Spaces before) (blank' : Spaces after)
      (characters : SpellsCharacters text content) :
      SpellsName (before ++ '"' :: (text ++ '"' :: after)) (String.ofList content)

mutual

/-- The text of a value.  It spells the document. -/
inductive Spells : List Char → Document → Prop where
  | null : Spells ['n', 'u', 'l', 'l'] .null
  | isTrue : Spells ['t', 'r', 'u', 'e'] (.boolean true)
  | isFalse : Spells ['f', 'a', 'l', 's', 'e'] (.boolean false)
  | number {text : List Char} {document : Document} (number : SpellsNumber text document) :
      Spells text document
  | text {text content : List Char} (characters : SpellsCharacters text content) :
      Spells ('"' :: (text ++ ['"'])) (.text (String.ofList content))
  | noItems {blanks : List Char} (blank : Spaces blanks) :
      Spells ('[' :: (blanks ++ [']'])) (.array [])
  | items {text : List Char} {documents : List Document} (items : SpellsItems text documents) :
      Spells ('[' :: (text ++ [']'])) (.array documents)
  | noMembers {blanks : List Char} (blank : Spaces blanks) :
      Spells ('\x7b' :: (blanks ++ ['\x7d'])) (.object [])
  | members {text : List Char} {entries : List (String × Document)}
      (members : SpellsMembers text entries) :
      Spells ('\x7b' :: (text ++ ['\x7d'])) (.object entries)

/-- A value with blanks around it.  This is what a whole JSON text is. -/
inductive SpellsElement : List Char → Document → Prop where
  | value {before text after : List Char} {document : Document} (blank : Spaces before)
      (value : Spells text document) (blank' : Spaces after) :
      SpellsElement (before ++ (text ++ after)) document

/-- The items of an array, with commas between them. -/
inductive SpellsItems : List Char → List Document → Prop where
  | last {text : List Char} {document : Document} (item : SpellsElement text document) :
      SpellsItems text [document]
  | more {text rest : List Char} {document : Document} {documents : List Document}
      (item : SpellsElement text document) (later : SpellsItems rest documents) :
      SpellsItems (text ++ ',' :: rest) (document :: documents)

/-- The members of an object, with commas between them.  A colon stands behind each name. -/
inductive SpellsMembers : List Char → List (String × Document) → Prop where
  | last {front text : List Char} {name : String} {document : Document}
      (key : SpellsName front name) (item : SpellsElement text document) :
      SpellsMembers (front ++ ':' :: text) [(name, document)]
  | more {front text rest : List Char} {name : String} {document : Document}
      {entries : List (String × Document)} (key : SpellsName front name)
      (item : SpellsElement text document) (later : SpellsMembers rest entries) :
      SpellsMembers (front ++ ':' :: (text ++ ',' :: rest)) ((name, document) :: entries)

end

end Stencil.Json
