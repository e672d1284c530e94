/-
Module: Stencil.Config.SettingsFile
Purpose: Reading settings from a file.
Main exports: SettingsError, SettingsError.message, Settings.loadFile
-/
import Stencil.Config.Settings
import Stencil.File.Tree
import Stencil.Host.Basic
import Stencil.Text.Decoding
import Stencil.Text.Lines

namespace Stencil.Config

open File Text

/-- Why a file holds no settings. -/
inductive SettingsError where
  | missing (path : Path)
  /-- It cannot be told whether there is a file. -/
  | file (path : Path) (fault : FileFault)
  | decoding (error : DecodeError)
  /-- The file is no document. -/
  | malformed (path : Path) (text : String)
  /-- The content does not have the shape of settings, for this reason. -/
  | rejected (path : Path) (reason : String)
  /-- The content has no value, or its keys have no order. -/
  | raised (error : Raised)
deriving Repr, Inhabited, DecidableEq

/-- The text of an error. -/
def SettingsError.message : SettingsError → String
  | missing path => "Config file not found: " ++ path.text
  | file path fault => fault.message path
  | decoding error => error.message
  | malformed path text => path.text ++ ": invalid YAML: " ++ text
  | rejected path reason => path.text ++ ": " ++ reason
  | raised error => error.text

/-- What a failed load of the file at a path is.  All errors about values count as ones about the
line terminator if they do not say their place. -/
def SettingsError.ofRaised (path : Path) (error : Raised) : SettingsError :=
  if error.isA "ConfigLoadError" then .rejected path error.text
  else if error.isA "ValueError" then .rejected path ("$.line_terminator: " ++ error.text)
  else .raised error

/-- Load settings from the file at a path.  An empty document leaves all settings as they are without
a file. -/
def Settings.loadFile (host : Host) (tree : Tree) (path : Path) : Except SettingsError Settings :=
  match tree.read path with
  | .error .nameTooLong => .error (.file path .nameTooLong)
  | .error _ => .error (.missing path)
  | .ok octets =>
      match Encoding.utf8.decode octets with
      | .error error => .error (.decoding error)
      | .ok text =>
          match host.document (withLineFeeds text) with
          | .error (.malformed reason) => .error (.malformed path reason)
          | .error (.raised error) => .error (.raised error)
          | .ok value =>
              let classes := host.world.classes
              match Settings.load classes (if value.isNull then .map [] else value) with
              | .ok settings => .ok settings
              | .error error => .error (.ofRaised path (error.exception classes {}))

end Stencil.Config
