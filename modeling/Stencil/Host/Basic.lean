/-
Module: Stencil.Host.Basic
Purpose: What the program takes from outside: encodings, documents, and classes that belong to no model.
Main exports: Codec, DocumentFault, Host, Host.world
-/
import Stencil.Model.World

namespace Stencil

/-- How texts are read from bytes and written as bytes. -/
structure Codec where
  /-- The text of a file that is read block by block, and what is raised at its end. -/
  decode : List UInt8 → List Char × Option Raised
  /-- The bytes that a piece of text adds to a file, given the pieces that are written there. -/
  encode : List String → String → Except Raised (List UInt8)
  /-- The bytes of a text by itself. -/
  encodeWhole : String → Except Raised (List UInt8)

/-- Why a document has no value. -/
inductive DocumentFault where
  /-- It is not well-formed; this is what is said about it. -/
  | malformed (text : String)
  /-- Its value cannot be made. -/
  | raised (error : Raised)
deriving Repr, Inhabited, DecidableEq

/-- What the program takes from outside. -/
structure Host where
  /-- The encoding with a name, or what is said where there is none. -/
  codec : String → Except String Codec
  /-- The value of a document. -/
  document : List Char → Except DocumentFault Value
  /-- The classes of values that documents have, and of all others. -/
  builtin : String → BuiltinClass := fun _ => {}

/-- The state in which the program starts: without classes of a model. -/
def Host.world (host : Host) : World where
  classes := { builtin := host.builtin }

end Stencil
