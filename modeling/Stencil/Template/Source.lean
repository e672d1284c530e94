/-
Module: Stencil.Template.Source
Purpose: Compiling template files.
Main exports: SourceError, compileOctets, compileFile
-/
import Stencil.File.Tree
import Stencil.Host.Basic
import Stencil.Template.Compiler

namespace Stencil.Template

open File Text

/-- Why a template file cannot be compiled. -/
inductive SourceError where
  | file (path : Path) (fault : FileFault)
  /-- There is no such encoding; this is what is said about it. -/
  | unknownEncoding (text : String)
  /-- The name of the encoding contains a null character. -/
  | badEncodingName
  /-- The bytes are no text. -/
  | decoding (error : Raised)
  | compilation (error : CompileError)
deriving Repr, Inhabited, DecidableEq

/-- The text of an error. -/
def SourceError.message : SourceError → String
  | file path fault => fault.message path
  | unknownEncoding text => text
  | badEncodingName => "embedded null character"
  | decoding error => error.text
  | compilation error => error.message

/-- Compile a template while its bytes are read block by block.  Lines in front of bytes that are no
text are compiled first, so that their errors come first. -/
def compileOctets (codec : Codec) (uri : Option String) (octets : List UInt8) :
    Except SourceError CompiledTemplate :=
  match codec.decode octets with
  | (text, none) =>
      match compile uri (universalLines text) with
      | .ok template => .ok template
      | .error error => .error (.compilation error)
  | (text, some error) =>
      match Compilation.feedAll uri {} (completeLines text) with
      | .ok _ => .error (.decoding error)
      | .error fault => .error (.compilation fault)

/-- Compile the template file at a path; the path is the name of the template. -/
def compileFile (host : Host) (tree : Tree) (encoding : String) (path : Path) :
    Except SourceError CompiledTemplate :=
  if encoding.toList.contains (Char.ofNat 0) then .error .badEncodingName
  else
    match tree.read path with
    | .error fault => .error (.file path fault)
    | .ok octets =>
        match host.codec encoding with
        | .error text => .error (.unknownEncoding text)
        | .ok codec => compileOctets codec (some path.text) octets

end Stencil.Template
