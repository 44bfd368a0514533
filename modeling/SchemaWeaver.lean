import SchemaWeaver.CommandLine.Arguments
import SchemaWeaver.CommandLine.Run
import SchemaWeaver.Config.Basic
import SchemaWeaver.Config.Dotenv
import SchemaWeaver.Config.Sources
import SchemaWeaver.Contribution.Basic
import SchemaWeaver.Contribution.Builtin
import SchemaWeaver.Contribution.Family
import SchemaWeaver.Contribution.Shape
import SchemaWeaver.Directives
import SchemaWeaver.Directory
import SchemaWeaver.Distinct
import SchemaWeaver.Json.Basic
import SchemaWeaver.Json.Printer
import SchemaWeaver.Json.Reader
import SchemaWeaver.Log
import SchemaWeaver.Main
import SchemaWeaver.Number.Binary64
import SchemaWeaver.Number.IntegerText
import SchemaWeaver.Number.Shortest
import SchemaWeaver.OrderedMap
import SchemaWeaver.Outcome
import SchemaWeaver.Proofs.CommandLine.Inspect
import SchemaWeaver.Proofs.CommandLine.LoadErrors
import SchemaWeaver.Proofs.Contribution.Algebra
import SchemaWeaver.Proofs.Contribution.Merge
import SchemaWeaver.Proofs.Directives.Collisions
import SchemaWeaver.Proofs.Directives.Options
import SchemaWeaver.Proofs.Directives.Regrouping
import SchemaWeaver.Proofs.Directives.Respelling
import SchemaWeaver.Proofs.Directives.Targets
import SchemaWeaver.Proofs.Fallible
import SchemaWeaver.Proofs.Json.Integers
import SchemaWeaver.Proofs.Json.Limits
import SchemaWeaver.Proofs.Json.RoundTrip
import SchemaWeaver.Proofs.Json.Stops
import SchemaWeaver.Proofs.Json.Strings
import SchemaWeaver.Proofs.Number.Reading
import SchemaWeaver.Proofs.Number.Spelling
import SchemaWeaver.Proofs.Number.Steps
import SchemaWeaver.Proofs.OrderedMap
import SchemaWeaver.Proofs.Outcome.Action
import SchemaWeaver.Proofs.Outcome.Calls
import SchemaWeaver.Proofs.Outcome.Editing
import SchemaWeaver.Proofs.Outcome.Emptiness
import SchemaWeaver.Proofs.Outcome.Mergings
import SchemaWeaver.Proofs.Outcome.Operations
import SchemaWeaver.Proofs.Outcome.Places
import SchemaWeaver.Proofs.Registry.Build
import SchemaWeaver.Proofs.Registry.Compatibility
import SchemaWeaver.Proofs.Registry.History
import SchemaWeaver.Proofs.Report.Dictionary
import SchemaWeaver.Proofs.Report.Tables
import SchemaWeaver.Proofs.Schema.Annotations
import SchemaWeaver.Proofs.Schema.Encode
import SchemaWeaver.Proofs.Schema.Foreign
import SchemaWeaver.Proofs.Schema.Grammar
import SchemaWeaver.Proofs.Schema.Mirror
import SchemaWeaver.Proofs.Schema.RoundTrip
import SchemaWeaver.Proofs.Schema.Tags
import SchemaWeaver.Proofs.Text.Escaping
import SchemaWeaver.Proofs.Text.Literal
import SchemaWeaver.Proofs.Text.Markup
import SchemaWeaver.Proofs.Text.Quotes
import SchemaWeaver.Proofs.Text.Segments
import SchemaWeaver.Proofs.Text.Trimming
import SchemaWeaver.Proofs.Traversal.Accounting
import SchemaWeaver.Proofs.Traversal.Aggregation
import SchemaWeaver.Proofs.Traversal.Collisions
import SchemaWeaver.Proofs.Traversal.Coverage
import SchemaWeaver.Proofs.Traversal.Dispatch
import SchemaWeaver.Proofs.Traversal.ForkJoin
import SchemaWeaver.Proofs.Traversal.Functional
import SchemaWeaver.Proofs.Traversal.InPlace
import SchemaWeaver.Proofs.Traversal.Invariant
import SchemaWeaver.Proofs.Traversal.Isolation
import SchemaWeaver.Proofs.Traversal.Members
import SchemaWeaver.Proofs.Traversal.Nodes
import SchemaWeaver.Proofs.Traversal.Quiet
import SchemaWeaver.Proofs.Traversal.Refinement
import SchemaWeaver.Proofs.Traversal.Regrouping
import SchemaWeaver.Proofs.Traversal.Respelling
import SchemaWeaver.Proofs.Traversal.Schedule
import SchemaWeaver.Proofs.Traversal.Sequential
import SchemaWeaver.Proofs.Traversal.Step
import SchemaWeaver.Proofs.Validation.Integers
import SchemaWeaver.Proofs.Validation.Scalar
import SchemaWeaver.Proofs.Visitor.Attribute
import SchemaWeaver.Proofs.Visitor.Blanks
import SchemaWeaver.Proofs.Visitor.Builtin
import SchemaWeaver.Proofs.Visitor.Deprecation
import SchemaWeaver.Proofs.Visitor.Enclosure
import SchemaWeaver.Proofs.Visitor.Levels
import SchemaWeaver.Proofs.Visitor.Listing
import SchemaWeaver.Proofs.Visitor.Payloads
import SchemaWeaver.Proofs.Visitor.Serde
import SchemaWeaver.Proofs.Visitor.Version
import SchemaWeaver.Registry
import SchemaWeaver.Report
import SchemaWeaver.Schema.Basic
import SchemaWeaver.Schema.Decode
import SchemaWeaver.Schema.Encode
import SchemaWeaver.Schema.Load
import SchemaWeaver.Table
import SchemaWeaver.Text.Blank
import SchemaWeaver.Text.Lines
import SchemaWeaver.Text.Literal
import SchemaWeaver.Text.Markup
import SchemaWeaver.Text.Printable
import SchemaWeaver.Text.Quoted
import SchemaWeaver.Text.Segments
import SchemaWeaver.Traversal.Engine
import SchemaWeaver.Traversal.Pool
import SchemaWeaver.Traversal.Walk
import SchemaWeaver.Validation.Checked
import SchemaWeaver.Validation.Scalar
import SchemaWeaver.Visitor.Attribute
import SchemaWeaver.Visitor.Basic
import SchemaWeaver.Visitor.Builtin
