/-
Module: Stencil.Config.Settings
Purpose: The settings of the template engine.
Main exports: Settings, settingsShape, Settings.load
-/
import Stencil.Config.Shape

namespace Stencil.Config

/-- The settings of the template engine. -/
structure Settings where
  /-- What ends a line of output. -/
  lineTerminator : LineTerminator := .lineFeed
  /-- The name of the encoding of template files. -/
  encoding : String := "utf-8"
  /-- Whether the texts `true` and `false` may stand as conditions. -/
  acceptsText : Bool := true
deriving Repr, Inhabited, DecidableEq

/-- The shape of written settings. -/
def settingsShape : Shape :=
  .record "EngineConfig"
    [("line_terminator", .text, some (.text "\n")),
     ("encoding", .text, some (.text "utf-8")),
     ("accept_if_strings", .boolean, some (.boolean true))]
    (.terminatorField "line_terminator")

namespace Settings

/-- The settings as they are written. -/
def written (settings : Settings) : List (String × Loaded) :=
  [("line_terminator", .plain (.text settings.lineTerminator.text)),
   ("encoding", .plain (.text settings.encoding)),
   ("accept_if_strings", .plain (.boolean settings.acceptsText))]

/-- The settings that a loaded record holds. -/
def ofLoaded? : Loaded → Option Settings
  | .record _ [(_, .plain (.text terminator)), (_, .plain (.text encoding)),
      (_, .plain (.boolean acceptsText))] =>
      match LineTerminator.read terminator with
      | .ok lineTerminator => some ⟨lineTerminator, encoding, acceptsText⟩
      | .error _ => none
  | _ => none

/-- Load settings from a value. -/
def load (classes : Classes) (value : Value) : Except LoadError Settings := do
  let loaded ← settingsShape.loadWith (refusal classes {}) "$" value
  pure ((ofLoaded? loaded).getD {})

end Settings

end Stencil.Config
