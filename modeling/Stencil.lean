import Stencil.CommandLine.Grammar
import Stencil.CommandLine.Invocation
import Stencil.CommandLine.Report
import Stencil.CommandLine.Run
import Stencil.Config.LineTerminator
import Stencil.Config.Settings
import Stencil.Config.SettingsFile
import Stencil.Config.Shape
import Stencil.Expr.Descent
import Stencil.Expr.Evaluation
import Stencil.Expr.Evaluator
import Stencil.Expr.Lexer
import Stencil.Expr.Parser
import Stencil.Expr.Path
import Stencil.Expr.Printer
import Stencil.Expr.Token
import Stencil.Expr.Tree
import Stencil.File.Path
import Stencil.File.Tree
import Stencil.Json.Document
import Stencil.Main
import Stencil.Model.Builtin
import Stencil.Model.World
import Stencil.Number.Double
import Stencil.Number.Layout
import Stencil.Number.Reading
import Stencil.Number.Shortest
import Stencil.Number.Word64
import Stencil.Proofs.CommandLine.Checks
import Stencil.Proofs.CommandLine.Endings
import Stencil.Proofs.CommandLine.EvaluationReports
import Stencil.Proofs.CommandLine.Messages
import Stencil.Proofs.CommandLine.OutputFiles
import Stencil.Proofs.Config.Fitting
import Stencil.Proofs.Config.Keys
import Stencil.Proofs.Config.Loading
import Stencil.Proofs.Expr.Blanks
import Stencil.Proofs.Expr.Canonical
import Stencil.Proofs.Expr.Chains
import Stencil.Proofs.Expr.Dependence
import Stencil.Proofs.Expr.ErrorPosition
import Stencil.Proofs.Expr.EvaluationOrder
import Stencil.Proofs.Expr.Guards
import Stencil.Proofs.Expr.IntegerArithmetic
import Stencil.Proofs.Expr.IntegerTexts
import Stencil.Proofs.Expr.Levels
import Stencil.Proofs.Expr.LexemeClasses
import Stencil.Proofs.Expr.LexerExactness
import Stencil.Proofs.Expr.Lexing
import Stencil.Proofs.Expr.Meaning
import Stencil.Proofs.Expr.Operands
import Stencil.Proofs.Expr.ParameterIndexes
import Stencil.Proofs.Expr.Parameters
import Stencil.Proofs.Expr.Parentheses
import Stencil.Proofs.Expr.ParserExactness
import Stencil.Proofs.Expr.ParserReuse
import Stencil.Proofs.Expr.Parsing
import Stencil.Proofs.Expr.PathTexts
import Stencil.Proofs.Expr.Paths
import Stencil.Proofs.Expr.Phrase
import Stencil.Proofs.Expr.Prediction
import Stencil.Proofs.Expr.PrintedTokens
import Stencil.Proofs.Expr.Readable
import Stencil.Proofs.Expr.Relexing
import Stencil.Proofs.Expr.Respelling
import Stencil.Proofs.Expr.RoundTrip
import Stencil.Proofs.Expr.Safety
import Stencil.Proofs.Expr.Separation
import Stencil.Proofs.Expr.Simultaneous
import Stencil.Proofs.Expr.Unambiguity
import Stencil.Proofs.Json.Grammar
import Stencil.Proofs.Json.Printing
import Stencil.Proofs.Json.Unambiguity
import Stencil.Proofs.Number.Digits
import Stencil.Proofs.Number.Magnitude
import Stencil.Proofs.Number.Notation
import Stencil.Proofs.Number.Numeral
import Stencil.Proofs.Number.Rounding
import Stencil.Proofs.Number.Shortest
import Stencil.Proofs.Number.Signed
import Stencil.Proofs.Number.WordArithmetic
import Stencil.Proofs.Property.AccessorHistory
import Stencil.Proofs.Property.AskedKeys
import Stencil.Proofs.Property.Bare
import Stencil.Proofs.Property.Calm
import Stencil.Proofs.Property.Confined
import Stencil.Proofs.Property.DottedPaths
import Stencil.Proofs.Property.Environment
import Stencil.Proofs.Property.Evolution
import Stencil.Proofs.Property.Lockstep
import Stencil.Proofs.Property.Lookups
import Stencil.Proofs.Property.Overlay
import Stencil.Proofs.Property.Renewal
import Stencil.Proofs.Property.Settling
import Stencil.Proofs.Property.Transparency
import Stencil.Proofs.Property.Twins
import Stencil.Proofs.Template.BlockTree
import Stencil.Proofs.Template.CacheCoherence
import Stencil.Proofs.Template.CommandWords
import Stencil.Proofs.Template.CompilerExactness
import Stencil.Proofs.Template.Concatenation
import Stencil.Proofs.Template.InPlace
import Stencil.Proofs.Template.InsideLoops
import Stencil.Proofs.Template.Interpreter
import Stencil.Proofs.Template.LiteralText
import Stencil.Proofs.Template.LoopVariables
import Stencil.Proofs.Template.MappingAndObject
import Stencil.Proofs.Template.Nesting
import Stencil.Proofs.Template.ReferencePaths
import Stencil.Proofs.Template.RendererExactness
import Stencil.Proofs.Template.Restoring
import Stencil.Proofs.Template.Running
import Stencil.Proofs.Template.SideBySide
import Stencil.Proofs.Template.Snapshots
import Stencil.Proofs.Template.Steps
import Stencil.Proofs.Template.Substitutions
import Stencil.Proofs.Template.TextConditions
import Stencil.Property.Error
import Stencil.Property.Member
import Stencil.Property.Resolver
import Stencil.Property.Scope
import Stencil.Template.Action
import Stencil.Template.Compiler
import Stencil.Template.Directive
import Stencil.Template.Error
import Stencil.Template.Renderer
import Stencil.Template.Source
import Stencil.Template.Substitution
import Stencil.Text.Blank
import Stencil.Text.DecimalDigit
import Stencil.Text.Decoding
import Stencil.Text.Encoding
import Stencil.Text.LetterCase
import Stencil.Text.Lines
import Stencil.Text.Printable
import Stencil.Text.Quoted
import Stencil.Text.RangeSet
import Stencil.Text.WordCharacter
import Stencil.Value.Basic
import Stencil.Value.Equality
import Stencil.Value.Text
import Stencil.Yaml.Document
import Stencil.Yaml.Node
import Stencil.Yaml.Quoted
import Stencil.Yaml.Scalar
import Stencil.Yaml.Spacing
import Stencil.Yaml.Token
