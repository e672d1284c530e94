/-
Module: Stencil.CommandLine.Grammar
Purpose: Sorting command line arguments into options and other arguments.
Main exports: OptionSpec, Grammar, Stop, Matches, Grammar.read
-/
namespace Stencil.CommandLine

/-- What an option does. -/
inductive OptionEffect where
  /-- Stop and show the help text. -/
  | help
  /-- Stop and show the version. -/
  | version
  /-- Switch something on. -/
  | switch
  /-- Take the argument behind it; only some values may be allowed. -/
  | take (allowed : Option (List String))
deriving Repr, Inhabited, DecidableEq

/-- An option with all its spellings; the first one identifies it. -/
structure OptionSpec where
  names : List String
  effect : OptionEffect
deriving Repr, Inhabited, DecidableEq

/-- How many arguments that are no options a command takes. -/
inductive Arity where
  | one
  | several
  /-- All from the first one on, options included. -/
  | everything
deriving Repr, Inhabited, DecidableEq

/-- The options and other arguments that a command takes. -/
structure Grammar where
  options : List OptionSpec
  arity : Arity
deriving Repr, Inhabited, DecidableEq

/-- Why the reading of arguments ends early. -/
inductive Stop where
  | wrongUsage
  | showVersion
  | showHelp
deriving Repr, Inhabited, DecidableEq

/-- What is attached to an option: nothing, a value behind an equals sign, or text that follows a
short option directly. -/
inductive Attachment where
  | nothing
  | assigned (value : String)
  | adjacent (text : String)
deriving Repr, Inhabited, DecidableEq

/-- An argument that looks like an option: the option that it names, if there is one, the spelling,
and what is attached to it. -/
structure OptionMatch where
  option : Option OptionSpec
  spelling : String
  attached : Attachment
deriving Repr, Inhabited, DecidableEq

/-- What an argument is taken for. -/
inductive ArgumentClass where
  | plain
  | separator
  | option (found : OptionMatch)
deriving Repr, Inhabited, DecidableEq

/-- An argument with its class. -/
structure Argument where
  written : String
  kind : ArgumentClass
deriving Repr, Inhabited, DecidableEq

/-- The options that were given, in order and by their first spellings, with their values; the other
arguments; and the arguments that belong to nothing. -/
structure Matches where
  options : List (String × String) := []
  arguments : Option (List String) := none
  leftovers : List String := []
deriving Repr, Inhabited, DecidableEq

/-- The mark that ends the options. -/
def separatorText : String := "--"

/-- Whether an argument reads as a negative number: a hyphen and digits, with digits behind a point
if there is one. -/
def isNegativeNumber : List Char → Bool
  | '-' :: rest =>
      let whole := rest.takeWhile Char.isDigit
      match rest.dropWhile Char.isDigit with
      | [] => !whole.isEmpty
      | '.' :: fraction => !fraction.isEmpty && fraction.all Char.isDigit
      | _ => false
  | _ => false

/-- Split an argument at its first equals sign. -/
def splitAssignment (written : List Char) : String × Attachment :=
  let name := String.ofList (written.takeWhile (· != '='))
  match written.dropWhile (· != '=') with
  | _ :: value => (name, .assigned (String.ofList value))
  | [] => (name, .nothing)

namespace Grammar

/-- The option with a spelling. -/
def option? (grammar : Grammar) (spelling : String) : Option OptionSpec :=
  grammar.options.find? (·.names.contains spelling)

/-- All spellings with their options. -/
def spellings (grammar : Grammar) : List (String × OptionSpec) :=
  grammar.options.flatMap fun option => option.names.map fun name => (name, option)

/-- The options that an argument may abbreviate.  A long one may be cut short, and a short one may
have its value attached. -/
def abbreviated (grammar : Grammar) (written : List Char) : List OptionMatch :=
  match written with
  | '-' :: '-' :: _ =>
      let (name, value) := splitAssignment written
      (grammar.spellings.filter fun entry => name.toList.isPrefixOf entry.1.toList).map
        fun entry => ⟨some entry.2, entry.1, value⟩
  | '-' :: letter :: rest =>
      let short := String.ofList ['-', letter]
      grammar.spellings.filterMap fun entry =>
        if entry.1 = short then some ⟨some entry.2, entry.1, .adjacent (String.ofList rest)⟩
        else if written.isPrefixOf entry.1.toList then some ⟨some entry.2, entry.1, .nothing⟩
        else none
  | _ => []

/-- Decide what an argument in front of the separator is.  Ambiguous abbreviations are wrong; negative
numbers and unknown options with a space inside are no options. -/
def classify (grammar : Grammar) (written : String) : Except Stop ArgumentClass :=
  match written.toList with
  | '-' :: next :: rest =>
      let characters := '-' :: next :: rest
      let (name, value) := splitAssignment characters
      match grammar.option? written with
      | some option => .ok (.option ⟨some option, written, .nothing⟩)
      | none =>
          match value, grammar.option? name with
          | .assigned _, some option => .ok (.option ⟨some option, name, value⟩)
          | _, _ =>
              match grammar.abbreviated characters with
              | [found] => .ok (.option found)
              | _ :: _ :: _ => .error .wrongUsage
              | [] =>
                  if isNegativeNumber characters || characters.contains ' ' then .ok .plain
                  else .ok (.option ⟨none, written, .nothing⟩)
  | _ => .ok .plain

/-- Decide what each argument is.  Behind the first separator everything is plain. -/
def classifyAll (grammar : Grammar) : List String → Except Stop (List Argument)
  | [] => .ok []
  | written :: rest =>
      if written = separatorText then
        .ok (⟨written, .separator⟩ :: rest.map fun later => ⟨later, .plain⟩)
      else do
        let kind ← grammar.classify written
        let later ← grammar.classifyAll rest
        pure (⟨written, kind⟩ :: later)

end Grammar

/-- Whether an argument is an option. -/
def Argument.isOption (argument : Argument) : Bool :=
  match argument.kind with
  | .option _ => true
  | _ => false

/-- Whether an argument is the separator. -/
def Argument.isSeparator (argument : Argument) : Bool :=
  argument.kind = .separator

/-- Note an option, or stop if it asks for that. -/
def Matches.note (found : Matches) (option : OptionSpec) (value : String) :
    Except Stop Matches :=
  let noted := { found with options := found.options ++ [(option.names.headD "", value)] }
  match option.effect with
  | .help => .error .showHelp
  | .version => .error .showVersion
  | .switch => .ok noted
  | .take none => .ok noted
  | .take (some allowed) => if allowed.contains value then .ok noted else .error .wrongUsage

/-- What comes of an argument that is an option: the options to note with their values, an argument
that belongs to nothing, and the arguments that are left. -/
structure Taken where
  noted : List (OptionSpec × String)
  stray : Option String := none
  rest : List Argument
deriving Repr, Inhabited

/-- Take an option that has nothing attached: it may need the argument behind it. -/
def takeBare (option : OptionSpec) (noted : List (OptionSpec × String)) (rest : List Argument) :
    Except Stop Taken :=
  match option.effect, rest with
  | .take _, ⟨value, .plain⟩ :: later => .ok { noted := noted ++ [(option, value)], rest := later }
  | .take _, _ => .error .wrongUsage
  | _, _ => .ok { noted := noted ++ [(option, "")], rest }

/-- Take an option that has a text attached.  The text is its value; or, directly behind a short option
that takes none, it spells further short options, the last of which may take what is left.  Letters
from the first one on that is no option belong to nothing. -/
def takeAttached (grammar : Grammar) (isShort : Bool) (rest : List Argument) (option : OptionSpec)
    (noted : List (OptionSpec × String)) (assigned : Bool) : List Char → Except Stop Taken
  | [] =>
      match option.effect with
      | .take _ => .ok { noted := noted ++ [(option, "")], rest }
      | _ => .error .wrongUsage
  | letter :: more =>
      match option.effect with
      | .take _ => .ok { noted := noted ++ [(option, String.ofList (letter :: more))], rest }
      | _ =>
          let done := noted ++ [(option, "")]
          if !isShort || assigned || letter == '-' then .error .wrongUsage
          else
            match grammar.option? (String.ofList ['-', letter]), more with
            | none, _ =>
                .ok { noted := done, stray := some (String.ofList ('-' :: letter :: more)), rest }
            | some next, [] => takeBare next done rest
            | some next, '=' :: value => takeAttached grammar isShort rest next done true value
            | some next, text => takeAttached grammar isShort rest next done false text

/-- Take an option. -/
def takeOption (grammar : Grammar) (option : OptionSpec) (found : OptionMatch)
    (rest : List Argument) : Except Stop Taken :=
  let isShort := found.spelling.toList[1]? != some '-'
  match found.attached with
  | .assigned value => takeAttached grammar isShort rest option [] true value.toList
  | .adjacent text => takeAttached grammar isShort rest option [] false text.toList
  | .nothing => takeBare option [] rest

/-- Take the arguments of a command from where they start.  The separator is none of them. -/
def takeArguments : Arity → List Argument → Option (List String × List Argument)
  | .one, ⟨_, .separator⟩ :: ⟨value, .plain⟩ :: rest => some ([value], rest)
  | .one, ⟨value, .plain⟩ :: ⟨_, .separator⟩ :: rest => some ([value], rest)
  | .one, ⟨value, .plain⟩ :: rest => some ([value], rest)
  | .one, _ => none
  | .several, arguments =>
      let run := arguments.takeWhile fun argument => !argument.isOption
      let values := (run.filter fun argument => !argument.isSeparator).map (·.written)
      if values.isEmpty then none
      else some (values, arguments.dropWhile fun argument => !argument.isOption)
  | .everything, arguments =>
      if arguments.all fun argument => argument.isSeparator then none
      else some (arguments.map (·.written), [])

/-- Go on reading arguments.  At most `bound` steps are taken, one for each argument. -/
def readFrom (grammar : Grammar) : Nat → Matches → List Argument → Except Stop Matches
  | 0, found, _ => .ok found
  | _ + 1, found, [] => .ok found
  | bound + 1, found, argument :: rest =>
      match argument.kind with
      | .option ⟨none, _, _⟩ =>
          readFrom grammar bound
            { found with leftovers := found.leftovers ++ [argument.written] } rest
      | .option ⟨some option, spelling, attached⟩ => do
          let taken ← takeOption grammar option ⟨some option, spelling, attached⟩ rest
          let next ← taken.noted.foldlM (fun current entry => current.note entry.1 entry.2) found
          readFrom grammar bound
            { next with leftovers := next.leftovers ++ taken.stray.toList } taken.rest
      | _ =>
          match found.arguments, takeArguments grammar.arity (argument :: rest) with
          | none, some (values, left) =>
              readFrom grammar bound { found with arguments := some values } left
          | _, _ =>
              let stray := (argument :: rest).takeWhile fun next => !next.isOption
              let left := (argument :: rest).dropWhile fun next => !next.isOption
              readFrom grammar bound
                { found with leftovers := found.leftovers ++ stray.map (·.written) } left

/-- Read the arguments of a command. -/
def Grammar.read (grammar : Grammar) (written : List String) : Except Stop Matches := do
  let arguments ← grammar.classifyAll written
  readFrom grammar (arguments.length + 1) {} arguments

namespace Matches

/-- The value of an option that was given last. -/
def last? (found : Matches) (name : String) : Option String :=
  ((found.options.filter (·.1 = name)).getLast?).map (·.2)

/-- All values of an option, in order. -/
def all (found : Matches) (name : String) : List String :=
  (found.options.filter (·.1 = name)).map (·.2)

/-- Whether an option was given. -/
def has (found : Matches) (name : String) : Bool :=
  found.options.any (·.1 = name)

end Matches

end Stencil.CommandLine
