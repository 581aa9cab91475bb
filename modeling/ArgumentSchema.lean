import ArgumentSchema.Calendar
import ArgumentSchema.Callback
import ArgumentSchema.Callback.Catalogue
import ArgumentSchema.Class
import ArgumentSchema.CommandLine.Commands
import ArgumentSchema.CommandLine.LogLine
import ArgumentSchema.CommandLine.Options
import ArgumentSchema.CommandLine.Run
import ArgumentSchema.Document.Json
import ArgumentSchema.Document.Load
import ArgumentSchema.Document.Position
import ArgumentSchema.Document.Toml
import ArgumentSchema.Document.Toml.Fault
import ArgumentSchema.Document.Toml.Namespaces
import ArgumentSchema.Document.Toml.Quote
import ArgumentSchema.Document.Toml.Scalar
import ArgumentSchema.Failure
import ArgumentSchema.Field
import ArgumentSchema.Files
import ArgumentSchema.Input
import ArgumentSchema.Literal
import ArgumentSchema.Log
import ArgumentSchema.Main
import ArgumentSchema.Number.Binary64
import ArgumentSchema.Number.Notation
import ArgumentSchema.Number.Shortest
import ArgumentSchema.Output.Call
import ArgumentSchema.Output.Call.Expression
import ArgumentSchema.Output.Call.Guess
import ArgumentSchema.Output.Call.Joint
import ArgumentSchema.Output.Call.Term
import ArgumentSchema.Output.Call.Token
import ArgumentSchema.Output.Color
import ArgumentSchema.Output.JsonText
import ArgumentSchema.Output.Markup
import ArgumentSchema.Output.Picture
import ArgumentSchema.Output.Picture.Listing
import ArgumentSchema.Output.Render
import ArgumentSchema.Output.Style
import ArgumentSchema.Output.Table
import ArgumentSchema.Output.Wrap
import ArgumentSchema.Path
import ArgumentSchema.Pattern
import ArgumentSchema.Proofs.Accounts
import ArgumentSchema.Proofs.Arrangement
import ArgumentSchema.Proofs.Cascade
import ArgumentSchema.Proofs.Cells
import ArgumentSchema.Proofs.Chain
import ArgumentSchema.Proofs.Collisions
import ArgumentSchema.Proofs.Compaction
import ArgumentSchema.Proofs.Compiled
import ArgumentSchema.Proofs.Concatenation
import ArgumentSchema.Proofs.Deeds
import ArgumentSchema.Proofs.Defaults
import ArgumentSchema.Proofs.Delegation
import ArgumentSchema.Proofs.Deletions
import ArgumentSchema.Proofs.Descent
import ArgumentSchema.Proofs.Draft
import ArgumentSchema.Proofs.Encoding
import ArgumentSchema.Proofs.Endings
import ArgumentSchema.Proofs.Entries
import ArgumentSchema.Proofs.Evaluation
import ArgumentSchema.Proofs.Explanation
import ArgumentSchema.Proofs.Extensions
import ArgumentSchema.Proofs.Faces
import ArgumentSchema.Proofs.Filing
import ArgumentSchema.Proofs.Finalize
import ArgumentSchema.Proofs.Found
import ArgumentSchema.Proofs.Fragments
import ArgumentSchema.Proofs.Grammar
import ArgumentSchema.Proofs.Handles
import ArgumentSchema.Proofs.Idempotence
import ArgumentSchema.Proofs.InUse
import ArgumentSchema.Proofs.Instances
import ArgumentSchema.Proofs.JsonReading
import ArgumentSchema.Proofs.Keys
import ArgumentSchema.Proofs.Lineage
import ArgumentSchema.Proofs.Lingering
import ArgumentSchema.Proofs.Loading
import ArgumentSchema.Proofs.Lookups
import ArgumentSchema.Proofs.Markers
import ArgumentSchema.Proofs.Marks
import ArgumentSchema.Proofs.Matching
import ArgumentSchema.Proofs.Materialized
import ArgumentSchema.Proofs.Merging
import ArgumentSchema.Proofs.Operations
import ArgumentSchema.Proofs.Optional
import ArgumentSchema.Proofs.Outcome
import ArgumentSchema.Proofs.Overlong
import ArgumentSchema.Proofs.Pieces
import ArgumentSchema.Proofs.Places
import ArgumentSchema.Proofs.Propagation
import ArgumentSchema.Proofs.Readers
import ArgumentSchema.Proofs.Recorded
import ArgumentSchema.Proofs.Refinement
import ArgumentSchema.Proofs.Rejections
import ArgumentSchema.Proofs.Remains
import ArgumentSchema.Proofs.Resolving
import ArgumentSchema.Proofs.Roots
import ArgumentSchema.Proofs.RoundTrip
import ArgumentSchema.Proofs.Rounds
import ArgumentSchema.Proofs.Safety
import ArgumentSchema.Proofs.Settle
import ArgumentSchema.Proofs.Shows
import ArgumentSchema.Proofs.Sifting
import ArgumentSchema.Proofs.Silent
import ArgumentSchema.Proofs.Simulation
import ArgumentSchema.Proofs.Soundness
import ArgumentSchema.Proofs.Spellings
import ArgumentSchema.Proofs.Stages
import ArgumentSchema.Proofs.Steady
import ArgumentSchema.Proofs.Steps
import ArgumentSchema.Proofs.Stripping
import ArgumentSchema.Proofs.TomlReading
import ArgumentSchema.Proofs.TomlTokens
import ArgumentSchema.Proofs.Unfolding
import ArgumentSchema.Proofs.Vacancy
import ArgumentSchema.Proofs.Walk
import ArgumentSchema.Proofs.Ways
import ArgumentSchema.Proofs.Worked
import ArgumentSchema.Regex.Escape
import ArgumentSchema.Regex.Letters
import ArgumentSchema.Regex.Reader
import ArgumentSchema.Regex.Search
import ArgumentSchema.Regex.Syntax
import ArgumentSchema.Registry
import ArgumentSchema.Report
import ArgumentSchema.Rule
import ArgumentSchema.RuleTable
import ArgumentSchema.Run
import ArgumentSchema.SchemaError
import ArgumentSchema.Service
import ArgumentSchema.Service.Reading
import ArgumentSchema.Settings.Lenient
import ArgumentSchema.Settings.Sources
import ArgumentSchema.Shorthand
import ArgumentSchema.Text.Blank
import ArgumentSchema.Text.Case
import ArgumentSchema.Text.Cluster
import ArgumentSchema.Text.Digit
import ArgumentSchema.Text.Hex
import ArgumentSchema.Text.Name
import ArgumentSchema.Text.Name.Listing
import ArgumentSchema.Text.Printable
import ArgumentSchema.Text.Quoted
import ArgumentSchema.Text.Ranges
import ArgumentSchema.Text.Similar
import ArgumentSchema.Text.Split
import ArgumentSchema.Text.Utf8
import ArgumentSchema.Text.Width
import ArgumentSchema.Text.Word
import ArgumentSchema.Tree.Basic
import ArgumentSchema.Tree.Node
import ArgumentSchema.Tree.Resolve
import ArgumentSchema.Validator
import ArgumentSchema.Value.Basic
import ArgumentSchema.Value.Key
import ArgumentSchema.Value.Text
import ArgumentSchema.Value.Use
