/-
Module: Stencil.Template.Error
Purpose: What can go wrong with a template, when it is compiled and when it is rendered.
Main exports: locationText, CompileFault, CompileError, RenderFault, RenderError
-/
import Stencil.Expr.Evaluator
import Stencil.Template.Substitution

namespace Stencil.Template

/-- A place in a template: its name, then the line.  An unknown or empty name and an unknown line
are left out. -/
def locationText (line : Option Int) (uri : Option String) : String :=
  let name := match uri with
    | some name => if name.isEmpty then [] else [name]
    | none => []
  let place := match line with
    | some number => ["line " ++ integerText number]
    | none => []
  ", ".intercalate (name ++ place)

/-- A message with the place in front of it. -/
def locatedMessage (line : Nat) (uri : Option String) (bare : String) : String :=
  locationText (some line) uri ++ ": " ++ bare

/-- The kinds of blocks. -/
inductive BlockKind where
  | branch
  | loop
deriving Repr, Inhabited, DecidableEq

namespace BlockKind

/-- The word that opens a block. -/
def word : BlockKind → String
  | branch => "if"
  | loop => "for"

/-- The command that closes a block. -/
def closer (kind : BlockKind) : String :=
  "/" ++ kind.word

end BlockKind

/-- Why a template cannot be compiled. -/
inductive CompileFault where
  /-- A branch has no condition. -/
  | missingCondition
  /-- The condition of a branch is no expression. -/
  | badCondition (written : String) (error : Expr.SyntaxError)
  /-- A command stands where it has no meaning; `open` is the innermost block that is open. -/
  | unexpected (command : String) (innermost : Option BlockKind)
  /-- The header of a loop has another form than a variable, a link and a path. -/
  | badLoopHeader (written : String)
  /-- The variable of a loop is a path. -/
  | dottedVariable (name : String)
  /-- There is no such command. -/
  | invalidCommand (command : String)
  /-- The block that was opened at this line is never closed. -/
  | unterminatedBlock (kind : BlockKind) (line : Nat)
  /-- A literal line has a wrong reference. -/
  | badReference (fault : SubstitutionFault)
  /-- The condition of a branch holds an integer with more digits than can be read.  This is no fault of
  the template, and it is not reported as one. -/
  | tooManyDigits (count : Nat)
deriving Repr, Inhabited, DecidableEq

/-- The fault of a condition that cannot be read. -/
def CompileFault.ofCondition (written : String) (error : Expr.SyntaxError) : CompileFault :=
  match error.fault with
  | .tooManyDigits count => .tooManyDigits count
  | _ => .badCondition written error

/-- Whether a fault is one of the template, which is reported with its line. -/
def CompileFault.isLocated : CompileFault → Bool
  | tooManyDigits _ => false
  | _ => true

/-- A command between the marks of a directive. -/
def directiveText (command : String) : String :=
  "<%" ++ command ++ "%>"

/-- The text of a fault in a literal line. -/
def SubstitutionFault.message : SubstitutionFault → String
  | unterminated => "Unterminated variable reference"
  | nested => "Nested variable reference"
  | empty => "Empty variable reference"

/-- The text of a fault, without its place. -/
def CompileFault.message : CompileFault → String
  | missingCondition => "Missing expression in if statement"
  | badCondition written error =>
      "Failed to parse if expression '" ++ written ++ "': " ++ error.message
  | unexpected command none => "Unexpected " ++ directiveText command
  | unexpected command (some innermost) =>
      "Unexpected " ++ directiveText command ++ " (Expected " ++ directiveText innermost.closer
        ++ ")"
  | badLoopHeader written =>
      "Unable to parse for statement '" ++ written ++ "' (Expected <loopVar> in <listVar>)"
  | dottedVariable name => "Loop variable must be a simple name: " ++ name
  | invalidCommand command => "Invalid command: " ++ directiveText command
  | unterminatedBlock kind line =>
      "Unterminated " ++ kind.word ++ " statement, beginning at line " ++ integerText line
  | badReference fault => fault.message
  | tooManyDigits count => (DigitFault.reading count).message

/-- A fault at a line of a template. -/
structure CompileError where
  fault : CompileFault
  line : Nat
  uri : Option String
deriving Repr, Inhabited, DecidableEq

/-- The text of an error, with its place if it is one of the template. -/
def CompileError.message (error : CompileError) : String :=
  if error.fault.isLocated then locatedMessage error.line error.uri error.fault.message
  else error.fault.message

/-- Why a template cannot be rendered on a model. -/
inductive RenderFault where
  /-- There is no model to look a path up in. -/
  | noModel (path : String)
  /-- A path cannot be resolved. -/
  | unresolved (error : LookupError)
  /-- A reference leads to nothing. -/
  | nullVariable (path : String)
  /-- The condition of a branch cannot be evaluated. -/
  | badCondition (source : String) (failure : Expr.Failure)
  /-- The condition of a branch is null. -/
  | nullCondition (source : String)
  /-- The condition of a branch is neither true nor false. -/
  | conditionKind (source typeName : String)
  /-- The path of a loop leads to nothing. -/
  | nullList (path : String)
  /-- The path of a loop leads to a value without items. -/
  | notIterable (path typeName : String)
deriving Repr, Inhabited, DecidableEq

/-- The text of a fault, without its place. -/
def RenderFault.message : RenderFault → String
  | noModel path => "No model to resolve " ++ path
  | unresolved error => error.message
  | nullVariable path => "Variable resolved to null: " ++ path
  | badCondition source failure =>
      "Failed to evaluate if expression '" ++ source ++ "': " ++ failure.message
  | nullCondition source => "Expression evaluates to null: " ++ source
  | conditionKind source typeName =>
      "Expression must evaluate to a boolean, got " ++ typeName ++ ": " ++ source
  | nullList path => "List variable resolved to null: " ++ path
  | notIterable path typeName => "Value of " ++ path ++ " is not iterable: " ++ typeName

/-- Why a rendering stopped. -/
inductive RenderError where
  /-- A fault at a line of the template. -/
  | located (fault : RenderFault) (line : Nat) (uri : Option String)
  /-- A failure of the model itself or of the resolver, which has no place in the template. -/
  | lookup (error : LookupError)
deriving Repr, Inhabited, DecidableEq

/-- The text of an error, with its place if it has one. -/
def RenderError.message : RenderError → String
  | located fault line uri => locatedMessage line uri fault.message
  | lookup error => error.message

end Stencil.Template
