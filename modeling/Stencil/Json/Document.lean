/-
Module: Stencil.Json.Document
Purpose: JSON documents and their written form.
Main exports: Document, Document.print, Document.ofValue
-/
import Stencil.Value.Text

namespace Stencil.Json

/-- A JSON document.  Its numbers are integers and finite double-precision numbers. -/
inductive Document where
  | null
  | boolean (flag : Bool)
  | integer (value : Int)
  | double (value : Double)
  | text (characters : String)
  | array (items : List Document)
  | object (members : List (String × Document))
deriving Repr, Inhabited, BEq

/-- One character inside a JSON text.  Quotes, backslashes and control characters are escaped, and
nothing else. -/
def textCharacter (character : Char) : List Char :=
  if character == '"' then ['\\', '"']
  else if character == '\\' then ['\\', '\\']
  else if character == '\n' then ['\\', 'n']
  else if character == '\r' then ['\\', 'r']
  else if character == '\t' then ['\\', 't']
  else if character.toNat = 0x08 then ['\\', 'b']
  else if character.toNat = 0x0c then ['\\', 'f']
  else if character.toNat < 0x20 then '\\' :: 'u' :: Text.hexadecimal 4 character.toNat
  else [character]

/-- A JSON text in its quotes. -/
def quoteText (characters : List Char) : List Char :=
  '"' :: characters.flatMap textCharacter ++ ['"']

/-- Parts with a comma and a space between them. -/
def joinParts : List (List Char) → List Char
  | [] => []
  | [part] => part
  | part :: rest => part ++ ',' :: ' ' :: joinParts rest

namespace Document

mutual

/-- The written form of a document, on one line. -/
def print : Document → List Char
  | null => ['n', 'u', 'l', 'l']
  | boolean flag => if flag then ['t', 'r', 'u', 'e'] else ['f', 'a', 'l', 's', 'e']
  | integer value => (integerText value).toList
  | double value => value.text.toList
  | text characters => quoteText characters.toList
  | array items => '[' :: joinParts (printItems items) ++ [']']
  | object members => '\x7b' :: joinParts (printMembers members) ++ ['\x7d']

/-- The written forms of the items of an array. -/
def printItems : List Document → List (List Char)
  | [] => []
  | item :: rest => item.print :: printItems rest

/-- The written forms of the members of an object. -/
def printMembers : List (String × Document) → List (List Char)
  | [] => []
  | (name, item) :: rest =>
      (quoteText name.toList ++ ':' :: ' ' :: item.print) :: printMembers rest

end

end Document

/-- A class of values that JSON has no form for. -/
structure UnsupportedClass where
  name : String
deriving Repr, Inhabited, DecidableEq

/-- The text of the refusal of a class. -/
def UnsupportedClass.message (refused : UnsupportedClass) : String :=
  "Object of type " ++ refused.name ++ " is not JSON serializable"

/-- The name of an object member for a key of a mapping. -/
def memberName : Value → String
  | .text name => name
  | .integer value => integerText value
  | .double value => value.text
  | key => key.toText

namespace Document

/-- A double-precision number; one that is not finite is written as a text. -/
def ofDouble (value : Double) : Document :=
  if value.isFinite then double value else text value.text

mutual

/-- A value as a document.  Tuples are arrays, and the keys of mappings become texts. -/
def ofValue : Value → Except UnsupportedClass Document
  | .null => .ok null
  | .boolean flag => .ok (boolean flag)
  | .integer value => .ok (integer value)
  | .double value => .ok (ofDouble value)
  | .text characters => .ok (text characters)
  | .list items => do pure (array (← ofValues items))
  | .tuple items => do pure (array (← ofValues items))
  | .map entries => do pure (object (← ofEntries entries))
  | other => .error ⟨other.typeName⟩

/-- The items of a collection as documents. -/
def ofValues : List Value → Except UnsupportedClass (List Document)
  | [] => .ok []
  | item :: rest => do
      let first ← ofValue item
      let later ← ofValues rest
      pure (first :: later)

/-- The entries of a mapping as members. -/
def ofEntries : List (Value × Value) → Except UnsupportedClass (List (String × Document))
  | [] => .ok []
  | (key, item) :: rest => do
      let first ← ofValue item
      let later ← ofEntries rest
      pure ((memberName key, first) :: later)

end

end Document

end Stencil.Json
