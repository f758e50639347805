import CardSearch.Command.Arguments
import CardSearch.Command.Fault
import CardSearch.Command.Outcome
import CardSearch.Fallible
import CardSearch.Json.Number
import CardSearch.Json.Printer
import CardSearch.Json.Reader
import CardSearch.Json.Value
import CardSearch.Main
import CardSearch.Manual
import CardSearch.Number.Binary64
import CardSearch.Number.Decimal
import CardSearch.Number.Numeral
import CardSearch.Number.Power
import CardSearch.Number.Shortest
import CardSearch.Proofs.Query.Grammar
import CardSearch.Proofs.Query.Leaves
import CardSearch.Proofs.Query.Recognition
import CardSearch.Proofs.Search.Independence
import CardSearch.Proofs.Sql.Expression
import CardSearch.Proofs.Sql.Numbering
import CardSearch.Proofs.Sql.Placeholders
import CardSearch.Proofs.Sql.Sealing
import CardSearch.Proofs.Sql.Selection
import CardSearch.Proofs.Sql.Shape
import CardSearch.Proofs.Sql.Symbol
import CardSearch.Proofs.Sql.Unambiguity
import CardSearch.Query.Clause
import CardSearch.Query.Cursor
import CardSearch.Query.Fault
import CardSearch.Query.Filter
import CardSearch.Query.Lexeme
import CardSearch.Query.Meaning
import CardSearch.Query.Reading
import CardSearch.Query.Token
import CardSearch.Query.Vocabulary
import CardSearch.Report.Encoding
import CardSearch.Report.Kind
import CardSearch.Search.Hit
import CardSearch.Search.Options
import CardSearch.Search.Row
import CardSearch.Search.Service
import CardSearch.Search.Settings
import CardSearch.Search.Statement
import CardSearch.Sql.Condition
import CardSearch.Sql.Like
import CardSearch.Sql.Param
import CardSearch.Sql.Placeholder
import CardSearch.Sql.Predicate
import CardSearch.Sql.Schema
import CardSearch.Sql.WholeWord
import CardSearch.Text.Blank
import CardSearch.Text.DecimalDigit
import CardSearch.Text.LetterCase
import CardSearch.Text.Quoted
import CardSearch.Time.Calendar
import CardSearch.Time.Instant
import CardSearch.Proofs.Search.Ownership
import CardSearch.Proofs.Query.Scanning
import CardSearch.Proofs.Text.Quoting
import CardSearch.Proofs.Query.Tiling
import CardSearch.Proofs.Query.FaultCauses
import CardSearch.Proofs.Query.Stepping
import CardSearch.Proofs.Query.FaultPlaces
import CardSearch.Proofs.Text.Escaping
import CardSearch.Proofs.Number.Literal
import CardSearch.Proofs.Query.Writing
import CardSearch.Proofs.Query.Roundtrip
import CardSearch.Proofs.Number.Binary64
import CardSearch.Proofs.Number.ExactLiteral
import CardSearch.Proofs.Query.Plain
import CardSearch.Proofs.Query.Locality
import CardSearch.Proofs.Query.Juxtaposition
import CardSearch.Proofs.Query.Parentheses
import CardSearch.Proofs.Query.Earliest
import CardSearch.Proofs.Sql.OnePass
import CardSearch.Proofs.Sql.Relocation
import CardSearch.Proofs.Search.Binding
import CardSearch.Proofs.Query.Giving
import CardSearch.Proofs.Query.Grouping
import CardSearch.Proofs.Query.WellFormed
import CardSearch.Proofs.Query.ClauseReading
import CardSearch.Proofs.Search.Answering
import CardSearch.Proofs.Sql.Columns
import CardSearch.Proofs.Search.JoinClauses
import CardSearch.Proofs.Sql.Matching
import CardSearch.Proofs.Sql.PathTest
import CardSearch.Proofs.Sql.Hierarchy
import CardSearch.Proofs.Query.Ending
import CardSearch.Proofs.Text.Delimiters
import CardSearch.Proofs.Query.EscapedValue
import CardSearch.Proofs.Search.PageLimits
import CardSearch.Proofs.Search.Paging
import CardSearch.Proofs.Sql.Containment
import CardSearch.Proofs.Sql.WordAtoms
import CardSearch.Proofs.Query.QuotedValue
import CardSearch.Proofs.Query.Separation
import CardSearch.Proofs.Query.Rereading
import CardSearch.Proofs.Query.Advancing
import CardSearch.Proofs.Query.TrailingBlanks
import CardSearch.Proofs.Command.PipedQuery
import CardSearch.Proofs.Query.Joining
import CardSearch.Proofs.Sql.DigitRuns
