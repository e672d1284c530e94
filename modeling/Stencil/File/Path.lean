/-
Module: Stencil.File.Path
Purpose: Paths of files and the places that they lead to.
Main exports: Path, Path.ofText, Path.text, Place, Place.step, Path.places
-/
namespace Stencil.File

/-- A path: the slashes that it starts with, if it is absolute, and the names on the way.  Neither
empty names nor single points count. -/
structure Path where
  root : String
  names : List String
deriving Repr, Inhabited, DecidableEq

namespace Path

/-- The root of a path.  Exactly two slashes stay two; all else that starts with slashes has one
root. -/
def rootOf (written : List Char) : String :=
  match written.takeWhile (· == '/') with
  | [] => ""
  | [_, _] => "//"
  | _ => "/"

/-- Read a path. -/
def ofText (written : String) : Path :=
  let names := (written.toList.splitOn '/').map String.ofList
  ⟨rootOf written.toList, names.filter fun name => !name.isEmpty && name != "."⟩

/-- Whether a path starts at the root. -/
def isAbsolute (path : Path) : Bool :=
  !path.root.isEmpty

/-- The written form of a path. -/
def text (path : Path) : String :=
  if path.root.isEmpty && path.names.isEmpty then "."
  else path.root ++ "/".intercalate path.names

end Path

/-- A place in the file system: the names that lead to it from the current directory, without ways
back but at the front.  Places that are counted from the root start with a slash. -/
abbrev Place := List String

namespace Place

/-- The place where a path starts. -/
def start (isAbsolute : Bool) : Place :=
  if isAbsolute then ["/"] else []

/-- Go on by a name.  Two points lead back, but not beyond the root. -/
def step (place : Place) (name : String) : Place :=
  if name = ".." then
    match place.getLast? with
    | none | some ".." => place ++ [name]
    | some "/" => place
    | some _ => place.dropLast
  else place ++ [name]

/-- Whether a place is a directory in any case: the root, the current directory, or one above it. -/
def isTop (place : Place) : Bool :=
  place == ["/"] || place.all (· == "..")

/-- The written form of a place. -/
def text : Place → String
  | "/" :: names => "/" ++ "/".intercalate names
  | [] => "."
  | names => "/".intercalate names

end Place

/-- The places on the way of a path, from behind the start up to its end. -/
def Path.places (path : Path) : List Place :=
  (path.names.foldl (fun (passed, place) name =>
    let next := Place.step place name
    (passed ++ [next], next)) ([], Place.start path.isAbsolute)).1

end Stencil.File
