import Whittle.Callable.Builtin
import Whittle.Callable.Namespace
import Whittle.Callable.Resolve
import Whittle.Callable.Signature
import Whittle.Callable.TypeHint
import Whittle.Change
import Whittle.CommandLine.Command
import Whittle.CommandLine.Run
import Whittle.CommandLine.Words
import Whittle.Config.Load
import Whittle.Config.Problem
import Whittle.Config.Schema
import Whittle.Config.Settings
import Whittle.Config.Template
import Whittle.Diff.Alignment
import Whittle.Diff.Unified
import Whittle.Document.Base64
import Whittle.Document.Json
import Whittle.Document.Moment
import Whittle.Document.Toml
import Whittle.Document.Value
import Whittle.Document.Yaml.Build
import Whittle.Document.Yaml.Cursor
import Whittle.Document.Yaml.Node
import Whittle.Document.Yaml.Scalar
import Whittle.Document.Yaml.Stream
import Whittle.Document.Yaml.Tag
import Whittle.Document.Yaml.Token
import Whittle.Failure
import Whittle.Files.Collect
import Whittle.Files.Glob
import Whittle.Files.Path
import Whittle.Files.Workspace
import Whittle.Main
import Whittle.Number.Binary64
import Whittle.Number.Float
import Whittle.Number.Integer
import Whittle.Project.Manifest
import Whittle.Project.Sources
import Whittle.Refactor
import Whittle.Report
import Whittle.Rule.Basic
import Whittle.Rule.Definition
import Whittle.Rule.ExtraArguments
import Whittle.Rule.Idle
import Whittle.Rule.VersionGuard
import Whittle.Syntax.Block
import Whittle.Syntax.Cut
import Whittle.Syntax.Edits
import Whittle.Syntax.Escape
import Whittle.Syntax.Expr
import Whittle.Syntax.FormatText
import Whittle.Syntax.Label
import Whittle.Syntax.Layout
import Whittle.Syntax.Lexer
import Whittle.Syntax.Literal
import Whittle.Syntax.Node
import Whittle.Syntax.Numeral
import Whittle.Syntax.Parser.Basic
import Whittle.Syntax.Parser.Expression
import Whittle.Syntax.Parser.Pattern
import Whittle.Syntax.Parser.Statement
import Whittle.Syntax.Reference
import Whittle.Syntax.Render
import Whittle.Syntax.Shared
import Whittle.Syntax.Stmt
import Whittle.Syntax.Target
import Whittle.Syntax.Token
import Whittle.Syntax.Tree
import Whittle.Text.Blank
import Whittle.Text.CharacterName
import Whittle.Text.Composite
import Whittle.Text.Digit
import Whittle.Text.Identifier
import Whittle.Text.Line
import Whittle.Text.Lookalike
import Whittle.Text.LowerCase
import Whittle.Text.NormalForm
import Whittle.Text.Printable
import Whittle.Text.Quoted
import Whittle.Text.Utf8
import Whittle.Version
import Whittle.Proofs.Syntax.Labels
import Whittle.Proofs.Guard.Found
import Whittle.Proofs.Guard.Rewriting
import Whittle.Proofs.Guard.Specialisation
import Whittle.Proofs.Guard.SecondRun
import Whittle.Proofs.Syntax.Renumbering
import Whittle.Proofs.Callable.Ancestry
import Whittle.Proofs.Callable.Annotation
import Whittle.Proofs.Callable.Dispatch
import Whittle.Proofs.Callable.Linearisation
import Whittle.Proofs.Callable.MethodOrder
import Whittle.Proofs.Callable.Reading
import Whittle.Proofs.Callable.Receiving
import Whittle.Proofs.Callable.Resolution
import Whittle.Proofs.Callable.Search
import Whittle.Proofs.Callable.Shadowing
import Whittle.Proofs.Arguments.Excess
import Whittle.Proofs.Syntax.Fullness
import Whittle.Proofs.Arguments.SecondRun
import Whittle.Proofs.Syntax.Unlabelled
import Whittle.Proofs.Syntax.Weight
import Whittle.Proofs.Guard.Cutting
import Whittle.Proofs.Pass
import Whittle.Proofs.Arguments.Unreadable
import Whittle.Proofs.Rule.Creation
import Whittle.Proofs.Rule.Independence
import Whittle.Proofs.Rule.Shrinking
import Whittle.Proofs.Syntax.Filling
import Whittle.Proofs.Syntax.Form
import Whittle.Proofs.Arguments.Frame
import Whittle.Proofs.Rule.Reuse
import Whittle.Proofs.Files.Revision
import Whittle.Proofs.Files.Collection
import Whittle.Proofs.Project.Pointwise
import Whittle.Proofs.Syntax.BreadthFirst
import Whittle.Proofs.Syntax.Entering
import Whittle.Proofs.Syntax.Arena
import Whittle.Proofs.Syntax.Deferral
import Whittle.Proofs.Project.Halting
import Whittle.Proofs.Files.Folders
import Whittle.Proofs.Config.Loading
import Whittle.Proofs.CommandLine.Setup
import Whittle.Proofs.CommandLine.Ending
import Whittle.Proofs.Syntax.Preorder
import Whittle.Proofs.Syntax.Pristine
import Whittle.Proofs.Syntax.Grammar
import Whittle.Proofs.Syntax.Queueing
import Whittle.Proofs.Syntax.Padding
import Whittle.Proofs.Syntax.Composition
import Whittle.Proofs.Files.Enumeration
import Whittle.Proofs.Callable.Naming
import Whittle.Proofs.Version.Ids
import Whittle.Proofs.Version.LowerBound
import Whittle.Proofs.Version.Order
import Whittle.Proofs.Config.Acceptance
import Whittle.Proofs.Config.Agreement
import Whittle.Proofs.Diff.Alignment
import Whittle.Proofs.Diff.Faithful
import Whittle.Proofs.Files.Exclusion
import Whittle.Proofs.Callable.Exploration
import Whittle.Proofs.Callable.Nesting
