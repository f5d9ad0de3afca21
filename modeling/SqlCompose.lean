import SqlCompose.Calendar.Basic
import SqlCompose.Calendar.Read
import SqlCompose.Calendar.Write
import SqlCompose.ColumnType
import SqlCompose.Compile.Alias
import SqlCompose.Compile.Clause
import SqlCompose.Compile.Condition
import SqlCompose.Compile.Fragment
import SqlCompose.Compile.Plain
import SqlCompose.Compile.Statement
import SqlCompose.Condition.Build
import SqlCompose.Condition.LikeEscape
import SqlCompose.Condition.Operator
import SqlCompose.Decimal.Basic
import SqlCompose.Decimal.Binary
import SqlCompose.Decimal.Read
import SqlCompose.Dialect.Basic
import SqlCompose.Dialect.Brackets
import SqlCompose.Dialect.MySql
import SqlCompose.Dialect.Postgres
import SqlCompose.Duration
import SqlCompose.Error
import SqlCompose.Json.Basic
import SqlCompose.Json.Read
import SqlCompose.Json.Token
import SqlCompose.Json.Write
import SqlCompose.Json.Written
import SqlCompose.Number.BigEndian
import SqlCompose.Number.Binary64
import SqlCompose.Number.FloatText
import SqlCompose.Number.Format
import SqlCompose.Number.Read
import SqlCompose.Number.Shortest
import SqlCompose.Params.Allocator
import SqlCompose.Params.Basic
import SqlCompose.Params.Positional
import SqlCompose.Params.Tagged
import SqlCompose.Pool.Address
import SqlCompose.Pool.Basic
import SqlCompose.Pool.Options
import SqlCompose.Pool.Pairs
import SqlCompose.Pool.Url
import SqlCompose.Proofs.Boolean.Formula
import SqlCompose.Proofs.Boolean.Predicate
import SqlCompose.Proofs.Boolean.Reading
import SqlCompose.Proofs.Boolean.Showing
import SqlCompose.Proofs.Boolean.Structure
import SqlCompose.Proofs.Boolean.Vacuous
import SqlCompose.Proofs.Condition.Emptiness
import SqlCompose.Proofs.Condition.Spelling
import SqlCompose.Proofs.Dialect.InlineAlias
import SqlCompose.Proofs.Dialect.Quoting
import SqlCompose.Proofs.Mentions
import SqlCompose.Proofs.Number.Exact
import SqlCompose.Proofs.Number.Spelling
import SqlCompose.Proofs.Parallel.Balanced
import SqlCompose.Proofs.Parallel.Clause
import SqlCompose.Proofs.Parallel.Condition
import SqlCompose.Proofs.Parallel.Dialects
import SqlCompose.Proofs.Parallel.Layout
import SqlCompose.Proofs.Parallel.Text
import SqlCompose.Proofs.Params.Allocation
import SqlCompose.Proofs.Params.History
import SqlCompose.Proofs.Params.Overlay
import SqlCompose.Proofs.Params.Search
import SqlCompose.Proofs.Pattern.Containment
import SqlCompose.Proofs.Pattern.Escaping
import SqlCompose.Proofs.Pattern.Wildcard
import SqlCompose.Proofs.Positional.Clause
import SqlCompose.Proofs.Positional.Condition
import SqlCompose.Proofs.Positional.Lexeme
import SqlCompose.Proofs.Positional.Numbering
import SqlCompose.Proofs.Positional.Plain
import SqlCompose.Proofs.Positional.Quoted
import SqlCompose.Proofs.Positional.Readable
import SqlCompose.Proofs.Positional.Scan
import SqlCompose.Proofs.Positional.Settled
import SqlCompose.Proofs.Positional.Translation
import SqlCompose.Proofs.Query.Directions
import SqlCompose.Proofs.Query.Editing
import SqlCompose.Proofs.Query.Inside
import SqlCompose.Proofs.Query.Listing
import SqlCompose.Proofs.Query.Nesting
import SqlCompose.Proofs.Query.Selection
import SqlCompose.Proofs.Query.Shape
import SqlCompose.Proofs.Query.Texts
import SqlCompose.Proofs.Query.WellFormed
import SqlCompose.Proofs.Run.Delivery
import SqlCompose.Proofs.Run.Shortening
import SqlCompose.Proofs.Schema.Resolution
import SqlCompose.Proofs.Schema.Settling
import SqlCompose.Proofs.Session.Acceptance
import SqlCompose.Proofs.Session.Aggregate
import SqlCompose.Proofs.Session.Agreement
import SqlCompose.Proofs.Session.Filling
import SqlCompose.Proofs.Session.Independence
import SqlCompose.Proofs.Session.Membership
import SqlCompose.Proofs.Session.Names
import SqlCompose.Proofs.Session.Outcome
import SqlCompose.Proofs.Session.Refusal
import SqlCompose.Proofs.Session.Related
import SqlCompose.Proofs.Session.Template
import SqlCompose.Proofs.Session.Uniformity
import SqlCompose.Proofs.Session.Vacuity
import SqlCompose.Proofs.Text.Balance
import SqlCompose.Proofs.Text.Pieces
import SqlCompose.Proofs.Text.Split
import SqlCompose.Proofs.Text.Trim
import SqlCompose.Proofs.Value.IntegerView
import SqlCompose.Query.Basic
import SqlCompose.Query.Edit
import SqlCompose.Query.Names
import SqlCompose.Query.Node
import SqlCompose.Query.Operand
import SqlCompose.Query.Ordering
import SqlCompose.Run.Access
import SqlCompose.Run.Connection
import SqlCompose.Run.Event
import SqlCompose.Run.ResultSet
import SqlCompose.Run.Settings
import SqlCompose.Schema.Change
import SqlCompose.Schema.TypeText
import SqlCompose.Session.Basic
import SqlCompose.Session.Clause
import SqlCompose.Session.Condition
import SqlCompose.Session.Statement
import SqlCompose.Text.Basic
import SqlCompose.Text.Blank
import SqlCompose.Text.Upper
import SqlCompose.Text.UpperTable
import SqlCompose.Text.Utf8
import SqlCompose.Text.Word
import SqlCompose.Text.WordRanges
import SqlCompose.Uuid
import SqlCompose.Value.Basic
import SqlCompose.Value.Tagged
import SqlCompose.Wire.Decode
import SqlCompose.Wire.Encode
import SqlCompose.Wire.Numeric
import SqlCompose.Wire.Server
import SqlCompose.Wire.Type
