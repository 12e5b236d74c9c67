import Datacube.Cache.Address
import Datacube.Cache.Basic
import Datacube.Catalog.Basic
import Datacube.Catalog.Document
import Datacube.Catalog.Files
import Datacube.Catalog.Registry
import Datacube.Dialect
import Datacube.Digest
import Datacube.Entries
import Datacube.Error
import Datacube.Join.Apply
import Datacube.Join.Graph
import Datacube.Join.Path
import Datacube.Join.Step
import Datacube.Json.Reader
import Datacube.Json.Writer
import Datacube.Log.Basic
import Datacube.Log.Format
import Datacube.Merge.Filter
import Datacube.Merge.Group
import Datacube.Merge.Rows
import Datacube.Merge.Schedule
import Datacube.Merge.Sort
import Datacube.Metric.Aggregation
import Datacube.Metric.Computed
import Datacube.Metric.Formula
import Datacube.Metric.Rendering
import Datacube.Number.Binary
import Datacube.Number.Decimal
import Datacube.Number.Magnitude
import Datacube.Number.Places
import Datacube.Number.Reading
import Datacube.Number.Remainder
import Datacube.Number.Shortest
import Datacube.Plan.Basic
import Datacube.Plan.Dependency
import Datacube.Plan.Drivers
import Datacube.Plan.Granularity
import Datacube.Plan.Native
import Datacube.Plan.Request
import Datacube.Plan.Run
import Datacube.Plan.Select
import Datacube.Plan.Software
import Datacube.Proofs.Cache.Sharing
import Datacube.Proofs.Catalog.Cache
import Datacube.Proofs.Catalog.Scan
import Datacube.Proofs.Catalog.Scanning
import Datacube.Proofs.Dialect.Spelling
import Datacube.Proofs.Entries
import Datacube.Proofs.Grouping
import Datacube.Proofs.Join.Agreement
import Datacube.Proofs.Join.Attachment
import Datacube.Proofs.Join.Chain
import Datacube.Proofs.Join.Extension
import Datacube.Proofs.Join.Graph
import Datacube.Proofs.Join.Growth
import Datacube.Proofs.Join.Order
import Datacube.Proofs.Join.Origin
import Datacube.Proofs.Join.Path
import Datacube.Proofs.Join.Scope
import Datacube.Proofs.Join.Search
import Datacube.Proofs.Join.Shared
import Datacube.Proofs.Join.Tree
import Datacube.Proofs.Json.Number
import Datacube.Proofs.Json.RoundTrip
import Datacube.Proofs.Json.Text
import Datacube.Proofs.Merge.Accumulation
import Datacube.Proofs.Merge.Columns
import Datacube.Proofs.Merge.Component
import Datacube.Proofs.Merge.Counting
import Datacube.Proofs.Merge.Filtered
import Datacube.Proofs.Merge.Grouped
import Datacube.Proofs.Merge.Join
import Datacube.Proofs.Merge.Lookup
import Datacube.Proofs.Merge.NestedLoop
import Datacube.Proofs.Merge.Opposite
import Datacube.Proofs.Merge.Places
import Datacube.Proofs.Merge.Schedule
import Datacube.Proofs.Merge.Sorting
import Datacube.Proofs.Merge.Totals
import Datacube.Proofs.Merge.Trace
import Datacube.Proofs.Merge.Types
import Datacube.Proofs.Merge.WholeTotals
import Datacube.Proofs.Metric.Alias
import Datacube.Proofs.Metric.Evaluation
import Datacube.Proofs.Metric.Null
import Datacube.Proofs.Metric.Rendering
import Datacube.Proofs.Metric.Walk
import Datacube.Proofs.Number.Magnitude
import Datacube.Proofs.Number.Nearest
import Datacube.Proofs.Number.Packing
import Datacube.Proofs.Number.Rounding
import Datacube.Proofs.Number.Shortest
import Datacube.Proofs.Number.Whole
import Datacube.Proofs.Outcome
import Datacube.Proofs.Plan.Aliases
import Datacube.Proofs.Plan.Assembly
import Datacube.Proofs.Plan.Binding
import Datacube.Proofs.Plan.Completeness
import Datacube.Proofs.Plan.Computed
import Datacube.Proofs.Plan.Counting
import Datacube.Proofs.Plan.Cycles
import Datacube.Proofs.Plan.Dependencies
import Datacube.Proofs.Plan.Discriminator
import Datacube.Proofs.Plan.Fragments
import Datacube.Proofs.Plan.Granularity
import Datacube.Proofs.Plan.Heights
import Datacube.Proofs.Plan.JoinTypes
import Datacube.Proofs.Plan.KeySources
import Datacube.Proofs.Plan.Layout
import Datacube.Proofs.Plan.Levels
import Datacube.Proofs.Plan.Measures
import Datacube.Proofs.Plan.MergeKeys
import Datacube.Proofs.Plan.Merging
import Datacube.Proofs.Plan.Naming
import Datacube.Proofs.Plan.Newcomer
import Datacube.Proofs.Plan.Participants
import Datacube.Proofs.Plan.Refusals
import Datacube.Proofs.Plan.Reordering
import Datacube.Proofs.Plan.Residence
import Datacube.Proofs.Plan.Selections
import Datacube.Proofs.Plan.Service
import Datacube.Proofs.Plan.Shadowing
import Datacube.Proofs.Plan.Stability
import Datacube.Proofs.Plan.Strategies
import Datacube.Proofs.Plan.Symmetry
import Datacube.Proofs.Query.Literal
import Datacube.Proofs.Query.Qualification
import Datacube.Proofs.Schema.Document
import Datacube.Proofs.Schema.Draft
import Datacube.Proofs.Schema.Lookup
import Datacube.Proofs.Schema.Newcomer
import Datacube.Proofs.Schema.Reference
import Datacube.Proofs.Schema.Registry
import Datacube.Proofs.Schema.Rereading
import Datacube.Proofs.Schema.Resolution
import Datacube.Proofs.Text.Case
import Datacube.Proofs.Text.Cut
import Datacube.Proofs.Text.Pattern
import Datacube.Proofs.Value.Equality
import Datacube.Proofs.Value.Rank
import Datacube.Proofs.Value.Verdict
import Datacube.Query.Basic
import Datacube.Query.Build
import Datacube.Query.ClickHouse
import Datacube.Query.Engine
import Datacube.Query.Literal
import Datacube.Query.Relational
import Datacube.Schema.Compiled
import Datacube.Schema.Dimension
import Datacube.Schema.Draft
import Datacube.Schema.Registry
import Datacube.Schema.Relation
import Datacube.Schema.Source
import Datacube.Schema.Table
import Datacube.Script.Call
import Datacube.Script.Catalog
import Datacube.Script.Cause
import Datacube.Script.Dimension
import Datacube.Script.Metric
import Datacube.Script.Plan
import Datacube.Script.Query
import Datacube.Script.Table
import Datacube.Script.Vocabulary
import Datacube.Settings.Assignments
import Datacube.Settings.Basic
import Datacube.Settings.Environment
import Datacube.Settings.Session
import Datacube.Sql.Expr
import Datacube.Sql.Function
import Datacube.Sql.Keyword
import Datacube.Sql.Level
import Datacube.Sql.Operand
import Datacube.Sql.Parse
import Datacube.Sql.Query
import Datacube.Sql.Statement
import Datacube.Sql.Token
import Datacube.Text.Case
import Datacube.Text.Classes
import Datacube.Text.Context
import Datacube.Text.Cut
import Datacube.Text.Pattern
import Datacube.Text.Word
import Datacube.Value.Basic
import Datacube.Value.Number
import Datacube.Value.Order
import Datacube.Value.Reading
import Datacube.Value.Text
import Datacube.Yaml.Cursor
import Datacube.Yaml.Document
import Datacube.Yaml.Plain
import Datacube.Yaml.Scalar
import Datacube.Yaml.Token
