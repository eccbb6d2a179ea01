import DiagramForge.Cli.Arguments
import DiagramForge.Cli.Commands
import DiagramForge.Cli.Console
import DiagramForge.Cli.Markup
import DiagramForge.Cli.Needs
import DiagramForge.Cli.Style
import DiagramForge.Config.Basic
import DiagramForge.Config.Check
import DiagramForge.Config.Decode
import DiagramForge.Config.Load
import DiagramForge.Config.Settings
import DiagramForge.Data
import DiagramForge.Data.Json
import DiagramForge.Data.Toml
import DiagramForge.Diagnostic
import DiagramForge.Diagram.Basic
import DiagramForge.Diagram.Build
import DiagramForge.Diagram.Classify
import DiagramForge.Diagram.Naming
import DiagramForge.Diagram.View
import DiagramForge.Disk
import DiagramForge.Grammar.Basic
import DiagramForge.Grammar.Comment
import DiagramForge.Grammar.Declaration
import DiagramForge.Grammar.Decode
import DiagramForge.Grammar.Inference
import DiagramForge.Grammar.Lexeme
import DiagramForge.Grammar.Load
import DiagramForge.Grammar.Parse
import DiagramForge.Grammar.Validation
import DiagramForge.Grammar.View
import DiagramForge.Main
import DiagramForge.Naming
import DiagramForge.Output.File
import DiagramForge.Output.Write
import DiagramForge.Path
import DiagramForge.Plugin.Basic
import DiagramForge.Plugin.Builtin
import DiagramForge.Plugin.Metrics
import DiagramForge.Plugin.Registry
import DiagramForge.Plugin.TypeSafety
import DiagramForge.Proofs.Config.Loading
import DiagramForge.Proofs.Config.RoundTrip
import DiagramForge.Proofs.Config.Schema
import DiagramForge.Proofs.Data.Documents
import DiagramForge.Proofs.Data.Oversized
import DiagramForge.Proofs.Diagram.AllProperties
import DiagramForge.Proofs.Diagram.Ancestry
import DiagramForge.Proofs.Diagram.Buildable
import DiagramForge.Proofs.Diagram.EdgeRule
import DiagramForge.Proofs.Diagram.Elements
import DiagramForge.Proofs.Diagram.Endpoints
import DiagramForge.Proofs.Diagram.Redeclaration
import DiagramForge.Proofs.Diagram.Renaming
import DiagramForge.Proofs.Diagram.Reordering
import DiagramForge.Proofs.Diagram.Respelling
import DiagramForge.Proofs.Diagram.TypeIds
import DiagramForge.Proofs.Disk
import DiagramForge.Proofs.Distinct
import DiagramForge.Proofs.Entries
import DiagramForge.Proofs.FileNames
import DiagramForge.Proofs.Grammar.ActionSegments
import DiagramForge.Proofs.Grammar.Agreement
import DiagramForge.Proofs.Grammar.Aliases
import DiagramForge.Proofs.Grammar.Ancestors
import DiagramForge.Proofs.Grammar.Assignments
import DiagramForge.Proofs.Grammar.CommentSpans
import DiagramForge.Proofs.Grammar.CommentedInterfaces
import DiagramForge.Proofs.Grammar.CommentedRules
import DiagramForge.Proofs.Grammar.Comments
import DiagramForge.Proofs.Grammar.Contributions
import DiagramForge.Proofs.Grammar.Decided
import DiagramForge.Proofs.Grammar.DeclaredLiterals
import DiagramForge.Proofs.Grammar.DeclaredPlaces
import DiagramForge.Proofs.Grammar.DistinctNames
import DiagramForge.Proofs.Grammar.Enclosed
import DiagramForge.Proofs.Grammar.FaultPlaces
import DiagramForge.Proofs.Grammar.IdentifiedNames
import DiagramForge.Proofs.Grammar.Identifiers
import DiagramForge.Proofs.Grammar.InferredProperties
import DiagramForge.Proofs.Grammar.Inheritance
import DiagramForge.Proofs.Grammar.Insertion
import DiagramForge.Proofs.Grammar.Interfaces
import DiagramForge.Proofs.Grammar.Leftovers
import DiagramForge.Proofs.Grammar.Lexing
import DiagramForge.Proofs.Grammar.Locality
import DiagramForge.Proofs.Grammar.Mentions
import DiagramForge.Proofs.Grammar.Opacity
import DiagramForge.Proofs.Grammar.OptionalProperties
import DiagramForge.Proofs.Grammar.PropertyTypes
import DiagramForge.Proofs.Grammar.Remarks
import DiagramForge.Proofs.Grammar.RoundTrip
import DiagramForge.Proofs.Grammar.RuleLiterals
import DiagramForge.Proofs.Grammar.Scanning
import DiagramForge.Proofs.Grammar.Segments
import DiagramForge.Proofs.Grammar.SkippedTerminals
import DiagramForge.Proofs.Grammar.Written
import DiagramForge.Proofs.History
import DiagramForge.Proofs.InStep
import DiagramForge.Proofs.Naming
import DiagramForge.Proofs.Outcome
import DiagramForge.Proofs.Output.AllOrNothing
import DiagramForge.Proofs.Output.Confinement
import DiagramForge.Proofs.Output.Replacement
import DiagramForge.Proofs.Output.Rewriting
import DiagramForge.Proofs.Output.Shape
import DiagramForge.Proofs.Plugin.Chain
import DiagramForge.Proofs.Plugin.Composite
import DiagramForge.Proofs.Plugin.Registration
import DiagramForge.Proofs.Plugin.TypeNames
import DiagramForge.Proofs.Run.Accounts
import DiagramForge.Proofs.Run.Conflict
import DiagramForge.Proofs.Run.Course
import DiagramForge.Proofs.Run.Dated
import DiagramForge.Proofs.Run.DistinctFiles
import DiagramForge.Proofs.Run.Escape
import DiagramForge.Proofs.Run.Journal
import DiagramForge.Proofs.Run.LeadsTo
import DiagramForge.Proofs.Run.Outline
import DiagramForge.Proofs.Run.Plain
import DiagramForge.Proofs.Run.Repetition
import DiagramForge.Proofs.Run.Report
import DiagramForge.Proofs.Run.Warnings
import DiagramForge.Proofs.Snippet
import DiagramForge.Proofs.Spelling
import DiagramForge.Proofs.Strategy.Completion
import DiagramForge.Proofs.Strategy.Dated
import DiagramForge.Proofs.Strategy.Declarations
import DiagramForge.Proofs.Strategy.DistinctPaths
import DiagramForge.Proofs.Strategy.Emitted
import DiagramForge.Proofs.Strategy.Foreseen
import DiagramForge.Proofs.Strategy.IdentifiedPaths
import DiagramForge.Proofs.Strategy.Imports
import DiagramForge.Proofs.Strategy.Isolation
import DiagramForge.Proofs.Strategy.Jobs
import DiagramForge.Proofs.Strategy.Paths
import DiagramForge.Proofs.Strategy.Quotations
import DiagramForge.Proofs.Strategy.SampleModel
import DiagramForge.Proofs.Template.Builtin
import DiagramForge.Proofs.Template.Cache
import DiagramForge.Proofs.Template.Helpers
import DiagramForge.Proofs.Template.Interleaving
import DiagramForge.Proofs.Template.Listing
import DiagramForge.Proofs.Template.Oblivious
import DiagramForge.Proofs.Template.Passages
import DiagramForge.Proofs.Template.Reach
import DiagramForge.Proofs.Template.Recency
import DiagramForge.Proofs.Template.Resolution
import DiagramForge.Proofs.Template.Revision
import DiagramForge.Proofs.Template.Sharing
import DiagramForge.Proofs.Template.Store
import DiagramForge.Proofs.Template.Timeless
import DiagramForge.Proofs.Template.Writing
import DiagramForge.Proofs.Text.Position
import DiagramForge.Proofs.Text.StringLiteral
import DiagramForge.Run.Generate
import DiagramForge.Run.Setup
import DiagramForge.Run.State
import DiagramForge.Strategy.Basic
import DiagramForge.Strategy.Builtin
import DiagramForge.Strategy.Pattern
import DiagramForge.Strategy.Template
import DiagramForge.Template.Builtin.Browser
import DiagramForge.Template.Builtin.Common
import DiagramForge.Template.Builtin.Server
import DiagramForge.Template.Cache
import DiagramForge.Template.Check
import DiagramForge.Template.Compile
import DiagramForge.Template.Constant
import DiagramForge.Template.Engine
import DiagramForge.Template.Expr
import DiagramForge.Template.Filter
import DiagramForge.Template.Helper
import DiagramForge.Template.Library
import DiagramForge.Template.Method
import DiagramForge.Template.Operation
import DiagramForge.Template.Render
import DiagramForge.Template.Signature
import DiagramForge.Template.Stream
import DiagramForge.Template.Token
import DiagramForge.Template.Value
import DiagramForge.Text.Blank
import DiagramForge.Text.Case
import DiagramForge.Text.CharTable
import DiagramForge.Text.CodePage
import DiagramForge.Text.Digest
import DiagramForge.Text.Digit
import DiagramForge.Text.Emoji
import DiagramForge.Text.Encoding
import DiagramForge.Text.Fitting
import DiagramForge.Text.Moment
import DiagramForge.Text.Position
import DiagramForge.Text.Punycode
import DiagramForge.Text.Quoted
import DiagramForge.Text.Utf8
import DiagramForge.Text.Width
