/-
Module: Stencil.Host.Common
Purpose: A host with the encodings, the documents and the classes that the program itself knows.
Main exports: Encoding.codec, commonCodec, commonDocument, commonHost
-/
import Stencil.Host.Basic
import Stencil.Model.Builtin
import Stencil.Text.Decoding
import Stencil.Yaml.Document

namespace Stencil

namespace Text

/-- The exception that bytes are that are no text. -/
def DecodeError.raised (error : DecodeError) : Raised where
  lineage := ["UnicodeDecodeError", "UnicodeError", "ValueError", "Exception"]
  text := error.message

/-- The exception that characters are that have no bytes. -/
def EncodeError.raised (error : EncodeError) : Raised where
  lineage := ["UnicodeEncodeError", "UnicodeError", "ValueError", "Exception"]
  text := error.message

/-- The bytes of a text, or the exception that it is. -/
def Encoding.encodeText (encoding : Encoding) (text : String) : Except Raised (List UInt8) :=
  (encoding.encode text.toList).mapError (·.raised)

/-- An encoding without memory: the pieces of a text do not depend on each other. -/
def Encoding.codec (encoding : Encoding) : Codec where
  decode octets :=
    let (text, error?) := encoding.decodeFile octets
    (text, error?.map (·.raised))
  encode _ piece := encoding.encodeText piece
  encodeWhole := encoding.encodeText

end Text

/-- The encoding with a name, among those that the program knows. -/
def commonCodec (name : String) : Except String Codec :=
  match Text.Encoding.ofName? name with
  | some encoding => .ok encoding.codec
  | none => .error ("unknown encoding: " ++ name)

/-- The value of a document, by the part of YAML that the program knows. -/
def commonDocument (text : List Char) : Except DocumentFault Value :=
  (Yaml.readDocument text).mapError fun fault =>
    if fault.isSyntax then .malformed fault.message
    else .raised ⟨["ValueError", "Exception"], fault.message⟩

/-- The host that the program knows. -/
def commonHost : Host where
  codec := commonCodec
  document := commonDocument
  builtin := commonClasses

end Stencil
