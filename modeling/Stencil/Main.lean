/-
Module: Stencil.Main
Purpose: The program on the real command line and real files.
Main exports: main
-/
import Stencil.CommandLine.Run
import Stencil.Host.Common

namespace Stencil.CommandLine

open File

/-- The paths that an invocation reads or writes. -/
def Invocation.paths (invocation : Invocation) : List String :=
  let named := match invocation.command with
    | .evaluate _ model _ _ => model.toList
    | .render template model output _ => template :: model.toList ++ output.toList
    | .check templates _ => templates
  invocation.config.toList ++ named

/-- Look at a place, and note in the tree what is there. -/
def observe (tree : Tree) (place : Place) : IO Tree := do
  try
    let octets ← IO.FS.readBinFile place.text
    pure { tree with files := tree.files ++ [(place, octets.toList)] }
  catch failure =>
    match failure with
    | .inappropriateType _ _ _ =>
        pure { tree with directories := tree.directories ++ [place] }
    | _ => pure tree

/-- Note what is on the way of a path. -/
def observePath (tree : Tree) (written : String) : IO Tree :=
  (Path.ofText written).places.foldlM observe tree

/-- Write the files that a run has changed. -/
def store (before after : Tree) : IO Unit := do
  for (place, octets) in after.files do
    unless before.files.lookup place == some octets do
      IO.FS.writeBinFile place.text (ByteArray.mk octets.toArray)

/-- How the program is used. -/
def usage : String :=
  "usage: elt [-h] [--version] [-v] [--config FILE] eval|render|check ...\n"

end Stencil.CommandLine

open Stencil.CommandLine in
/-- Run the program on the files that its arguments name. -/
def main (arguments : List String) : IO UInt32 := do
  let paths := match Invocation.read arguments with
    | .ok invocation => invocation.paths
    | .error _ => []
  let tree ← paths.foldlM observePath {}
  let outcome := run Stencil.commonHost arguments tree
  store tree outcome.tree
  IO.print outcome.output
  IO.eprint outcome.errors
  match outcome.ending with
  | .exit code => pure (UInt32.ofNat code)
  | .stopped .wrongUsage => do
      IO.eprint usage
      pure 2
  | .stopped .showHelp => do
      IO.print usage
      pure 0
  | .stopped .showVersion => pure 0
  | .broken error => do
      IO.eprintln error.message
      pure 1
