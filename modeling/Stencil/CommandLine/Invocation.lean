/-
Module: Stencil.CommandLine.Invocation
Purpose: The commands of the program and their arguments.
Main exports: Command, Invocation, Invocation.read
-/
import Stencil.CommandLine.Grammar
import Stencil.Config.LineTerminator

namespace Stencil.CommandLine

/-- What the program is asked to do. -/
inductive Command where
  /-- Evaluate an expression on a model and parameters. -/
  | evaluate (expression : String) (model : Option String) (parameters : List String)
      (asJson : Bool)
  /-- Render a template on a model, to a file or to the standard output. -/
  | render (template : String) (model output terminator : Option String)
  /-- Check that templates compile. -/
  | check (templates : List String) (asJson : Bool)
deriving Repr, Inhabited, DecidableEq

/-- A command with the file of settings. -/
structure Invocation where
  config : Option String
  command : Command
deriving Repr, Inhabited, DecidableEq

/-- The option for help, which every command has. -/
def helpOption : OptionSpec := ⟨["-h", "--help"], .help⟩

/-- The option for the file with the model. -/
def modelOption : OptionSpec := ⟨["--model"], .take none⟩

/-- The option for a report in JSON. -/
def jsonOption : OptionSpec := ⟨["--json"], .switch⟩

/-- The options in front of a command. -/
def outerGrammar : Grammar where
  options := [helpOption, ⟨["--version"], .version⟩, ⟨["-v", "--verbose"], .switch⟩,
    ⟨["--config"], .take none⟩]
  arity := .everything

def evaluateGrammar : Grammar where
  options := [helpOption, modelOption, ⟨["--param"], .take none⟩, jsonOption]
  arity := .one

def renderGrammar : Grammar where
  options := [helpOption, modelOption, ⟨["--output", "-o"], .take none⟩,
    ⟨["--line-terminator"], .take (some (Config.LineTerminator.all.map (·.name)))⟩]
  arity := .one

def checkGrammar : Grammar where
  options := [helpOption, jsonOption]
  arity := .several

/-- An option without a value counts as one that was not given. -/
def nonEmpty? : Option String → Option String
  | some value => if value.isEmpty then none else some value
  | none => none

/-- The matches of a command, with at least one argument. -/
def readCommand (grammar : Grammar) (written : List String) :
    Except Stop (Matches × String × List String) := do
  let found ← grammar.read written
  match found.arguments with
  | some (first :: later) => pure (found, first, later)
  | _ => .error .wrongUsage

/-- Read a command, and whether some of its arguments belong to nothing. -/
def Command.read (name : String) (written : List String) : Except Stop (Command × Bool) := do
  match name with
  | "eval" => do
      let (found, expression, _) ← readCommand evaluateGrammar written
      pure (.evaluate expression (nonEmpty? (found.last? "--model")) (found.all "--param")
        (found.has "--json"), !found.leftovers.isEmpty)
  | "render" => do
      let (found, template, _) ← readCommand renderGrammar written
      pure (.render template (nonEmpty? (found.last? "--model"))
        (nonEmpty? (found.last? "--output")) (found.last? "--line-terminator"),
        !found.leftovers.isEmpty)
  | "check" => do
      let (found, first, later) ← readCommand checkGrammar written
      pure (.check (first :: later) (found.has "--json"), !found.leftovers.isEmpty)
  | _ => .error .wrongUsage

/-- Read the arguments of the program. -/
def Invocation.read (written : List String) : Except Stop Invocation := do
  let found ← outerGrammar.read written
  match found.arguments with
  | some (name :: rest) =>
      let (command, hasStray) ← Command.read name rest
      if hasStray || !found.leftovers.isEmpty then .error .wrongUsage
      else pure ⟨nonEmpty? (found.last? "--config"), command⟩
  | _ => .error .wrongUsage

end Stencil.CommandLine
