/-
Module: Stencil.File.Tree
Purpose: Files and directories by their places.
Main exports: FileFault, Tree, Tree.node, Tree.read, Tree.put, Tree.openPlace
-/
import Stencil.File.Path
import Stencil.Text.Quoted

namespace Stencil.File

/-- Why a file cannot be opened. -/
inductive FileFault where
  | notFound
  | notDirectory
  | isDirectory
  /-- A name on the way, or the whole path, has too many bytes. -/
  | nameTooLong
  /-- The path contains a null character. -/
  | badPath
deriving Repr, Inhabited, DecidableEq

/-- The text of a fault at a path. -/
def FileFault.message (path : Path) : FileFault → String
  | notFound => "[Errno 2] No such file or directory: " ++ shown
  | notDirectory => "[Errno 20] Not a directory: " ++ shown
  | isDirectory => "[Errno 21] Is a directory: " ++ shown
  | nameTooLong => "[Errno 36] File name too long: " ++ shown
  | badPath => "embedded null byte"
where
  /-- The path in quotes. -/
  shown : String := String.ofList (Text.quoted path.text.toList)

/-- Files by their places, and the places of directories that may hold no file. -/
structure Tree where
  files : List (Place × List UInt8) := []
  directories : List Place := []
deriving Repr, Inhabited, DecidableEq

/-- What is found at the end of a path. -/
inductive Node where
  | file (octets : List UInt8)
  | directory
  | missing
deriving Repr, Inhabited, DecidableEq

namespace Tree

/-- What is at a place.  Whatever lies on the way to a file is a directory. -/
def node (tree : Tree) (place : Place) : Node :=
  match tree.files.lookup place with
  | some octets => .file octets
  | none =>
      if place.isTop || tree.directories.any (place.isPrefixOf ·)
          || tree.files.any (place.isPrefixOf ·.1) then .directory
      else .missing

/-- The greatest number of bytes in a name. -/
def nameLimit : Nat := 255

/-- The greatest number of bytes in a path. -/
def pathLimit : Nat := 4095

/-- Follow names from a place on.  Every place but the last has to be a directory. -/
def follow (tree : Tree) (place : Place) : List String → Except FileFault Place
  | [] => .ok place
  | name :: rest =>
      match tree.node place with
      | .file _ => .error .notDirectory
      | .missing => .error .notFound
      | .directory =>
          if nameLimit < name.utf8ByteSize then .error .nameTooLong
          else tree.follow (place.step name) rest

/-- The place that a path leads to. -/
def place (tree : Tree) (path : Path) : Except FileFault Place :=
  if path.names.any fun name => name.toList.contains (Char.ofNat 0) then .error .badPath
  else if pathLimit < path.text.utf8ByteSize then .error .nameTooLong
  else tree.follow (Place.start path.isAbsolute) path.names

/-- The bytes of the file at a path. -/
def read (tree : Tree) (path : Path) : Except FileFault (List UInt8) := do
  match tree.node (← tree.place path) with
  | .file octets => pure octets
  | .directory => .error .isDirectory
  | .missing => .error .notFound

/-- Put bytes at a place. -/
def put (tree : Tree) (place : Place) (octets : List UInt8) : Tree :=
  { tree with files := (tree.files.filter (·.1 != place)) ++ [(place, octets)] }

/-- Open the file at a path for writing: its place.  Its directory must be there. -/
def openPlace (tree : Tree) (path : Path) : Except FileFault Place := do
  let place ← tree.place path
  match tree.node place with
  | .directory => .error .isDirectory
  | _ => pure place

end Tree

end Stencil.File
