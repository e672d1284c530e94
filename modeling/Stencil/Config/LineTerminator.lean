/-
Module: Stencil.Config.LineTerminator
Purpose: What ends a line of output.
Main exports: LineTerminator, LineTerminator.text, LineTerminator.read
-/
import Stencil.Text.LetterCase
import Stencil.Text.Quoted

namespace Stencil.Config

/-- What is written at the end of a line. -/
inductive LineTerminator where
  | lineFeed
  | carriageReturnLineFeed
  | carriageReturn
deriving Repr, Inhabited, DecidableEq

/-- A name that no line terminator has. -/
structure UnknownTerminator where
  name : String
deriving Repr, Inhabited, DecidableEq

namespace LineTerminator

/-- All line terminators. -/
def all : List LineTerminator :=
  [lineFeed, carriageReturnLineFeed, carriageReturn]

/-- The characters of a line terminator. -/
def text : LineTerminator → String
  | lineFeed => "\n"
  | carriageReturnLineFeed => "\r\n"
  | carriageReturn => "\r"

/-- The name of a line terminator. -/
def name : LineTerminator → String
  | lineFeed => "lf"
  | carriageReturnLineFeed => "crlf"
  | carriageReturn => "cr"

/-- Read a line terminator: the characters themselves, or the name in any case. -/
def read (written : String) : Except UnknownTerminator LineTerminator :=
  match all.find? fun terminator => terminator.text == written with
  | some terminator => .ok terminator
  | none =>
      let folded := String.ofList (Text.lower written.toList)
      match all.find? fun terminator => terminator.name == folded with
      | some terminator => .ok terminator
      | none => .error ⟨written⟩

end LineTerminator

/-- The text of the refusal of a name. -/
def UnknownTerminator.message (refused : UnknownTerminator) : String :=
  "Unknown line terminator " ++ String.ofList (Text.quoted refused.name.toList)
    ++ " (expected one of: " ++ ", ".intercalate (LineTerminator.all.map (·.name)) ++ ")"

end Stencil.Config
