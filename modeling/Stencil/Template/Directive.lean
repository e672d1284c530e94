/-
Module: Stencil.Template.Directive
Purpose: Directive lines and the commands on them.
Main exports: isDirective, directiveCommand, Directive, Directive.read?
-/
import Stencil.Text.Blank

namespace Stencil.Template

/-- A line is a directive if it starts with `<%` and ends with a `%>` of its own. -/
def isDirective (line : List Char) : Bool :=
  4 ≤ line.length && ['<', '%'].isPrefixOf line && ['%', '>'].isSuffixOf line

/-- What stands between the marks of a directive, without blanks around it. -/
def directiveCommand (line : List Char) : List Char :=
  Text.trim ((line.drop 2).take (line.length - 4))

/-- A command, as it is written. -/
inductive Directive where
  | openBranch (condition : List Char)
  | otherwise
  | closeBranch
  | openLoop (header : List Char)
  | closeLoop
deriving Repr, Inhabited, DecidableEq

/-- Whether a character may stand in the word of a command: a letter from a to z in either case. -/
def isCommandLetter (character : Char) : Bool :=
  character.isAlpha

/-- The word that a command starts with, an optional slash and letters, and the rest without blanks
around it. -/
def splitCommand (command : List Char) : List Char × List Char :=
  let (slash, body) := match command with
    | '/' :: rest => (['/'], rest)
    | rest => ([], rest)
  (slash ++ body.takeWhile isCommandLetter, Text.trim (body.dropWhile isCommandLetter))

/-- The command with a word and a rest.  Only opening commands take a rest. -/
def Directive.ofWord? (word rest : List Char) : Option Directive :=
  if word = ['i', 'f'] then some (.openBranch rest)
  else if word = ['f', 'o', 'r'] then some (.openLoop rest)
  else if !rest.isEmpty then none
  else if word = ['e', 'l', 's', 'e'] then some .otherwise
  else if word = ['/', 'i', 'f'] then some .closeBranch
  else if word = ['/', 'f', 'o', 'r'] then some .closeLoop
  else none

/-- Read a command. -/
def Directive.read? (command : List Char) : Option Directive :=
  let (word, rest) := splitCommand command
  Directive.ofWord? word rest

/-- The header of a loop: its variable and the path of its list. -/
structure LoopHeader where
  name : String
  path : String
deriving Repr, Inhabited, DecidableEq

/-- Read the header of a loop: a variable, `in` or a colon, and a path, separated by blanks. -/
def LoopHeader.read? (header : List Char) : Option LoopHeader :=
  match Text.words header with
  | [name, link, path] =>
      if link = ['i', 'n'] || link = [':'] then some ⟨String.ofList name, String.ofList path⟩
      else none
  | _ => none

/-- A loop variable is a simple name: it holds no point. -/
def LoopHeader.isSimple (header : LoopHeader) : Bool :=
  !header.name.toList.contains '.'

end Stencil.Template
