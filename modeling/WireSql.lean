import WireSql.Auth
import WireSql.Backend
import WireSql.Catalog
import WireSql.Command
import WireSql.Config
import WireSql.Connection
import WireSql.Decimal.Binary
import WireSql.Decimal.Integer
import WireSql.Decimal.Real
import WireSql.Decimal.Shortest
import WireSql.Digest.Sha1
import WireSql.Digest.Sha256
import WireSql.Error
import WireSql.Introspection.Answer
import WireSql.Introspection.Clean
import WireSql.Introspection.Like
import WireSql.Introspection.Regex
import WireSql.Introspection.Variable
import WireSql.Json.Basic
import WireSql.Json.Parser
import WireSql.Json.Printer
import WireSql.Json.Reader
import WireSql.Login
import WireSql.Main
import WireSql.NameMap
import WireSql.Options
import WireSql.Proofs.Auth.Verification
import WireSql.Proofs.Connection.CommandEffects
import WireSql.Proofs.Connection.CurrentDatabase
import WireSql.Proofs.Connection.Fragmentation
import WireSql.Proofs.Connection.Gate
import WireSql.Proofs.Connection.Greeting
import WireSql.Proofs.Connection.Handshake
import WireSql.Proofs.Connection.Overflow
import WireSql.Proofs.Connection.Refusal
import WireSql.Proofs.Connection.Reply
import WireSql.Proofs.Connection.Run
import WireSql.Proofs.Connection.StoredText
import WireSql.Proofs.Connection.UseStatements
import WireSql.Proofs.Decimal.PlainText
import WireSql.Proofs.Decimal.Shortest
import WireSql.Proofs.Introspection.Cleaning
import WireSql.Proofs.Introspection.CommentFree
import WireSql.Proofs.Introspection.Cuts
import WireSql.Proofs.Introspection.FixedPoints
import WireSql.Proofs.Introspection.Leads
import WireSql.Proofs.Introspection.Lists
import WireSql.Proofs.Introspection.Patterns
import WireSql.Proofs.Introspection.Questions
import WireSql.Proofs.Json.Documents
import WireSql.Proofs.Json.Numbers
import WireSql.Proofs.Outcome
import WireSql.Proofs.Snapshot.Reading
import WireSql.Proofs.Sql.Bare
import WireSql.Proofs.Sql.Creation
import WireSql.Proofs.Sql.Items
import WireSql.Proofs.Sql.Keywords
import WireSql.Proofs.Sql.Literals
import WireSql.Proofs.Sql.Pieces
import WireSql.Proofs.Sql.Queries
import WireSql.Proofs.Sql.Quotes
import WireSql.Proofs.Sql.Splitting
import WireSql.Proofs.Sql.Statements
import WireSql.Proofs.Sql.TopLevel
import WireSql.Proofs.Sql.Updates
import WireSql.Proofs.Sql.Uses
import WireSql.Proofs.Store.AllOrNothing
import WireSql.Proofs.Store.Commuting
import WireSql.Proofs.Store.Effects
import WireSql.Proofs.Store.Places
import WireSql.Proofs.Store.Reopening
import WireSql.Proofs.Store.Saving
import WireSql.Proofs.Store.Tables
import WireSql.Proofs.Table.Assignments
import WireSql.Proofs.Table.Batches
import WireSql.Proofs.Table.Bounds
import WireSql.Proofs.Table.Filtering
import WireSql.Proofs.Table.Invariant
import WireSql.Proofs.Table.Lookup
import WireSql.Proofs.Table.Padding
import WireSql.Proofs.Table.Refusals
import WireSql.Proofs.Table.Schema
import WireSql.Proofs.Table.WellFormed
import WireSql.Proofs.Text.Pieces
import WireSql.Proofs.Text.Utf8
import WireSql.Proofs.Value.Equality
import WireSql.Proofs.Wire.Bounds
import WireSql.Proofs.Wire.Decoding
import WireSql.Proofs.Wire.Exactness
import WireSql.Proofs.Wire.FieldSequences
import WireSql.Proofs.Wire.Handshake
import WireSql.Proofs.Wire.Marks
import WireSql.Proofs.Wire.Reading
import WireSql.Proofs.Wire.Results
import WireSql.Proofs.Wire.Sending
import WireSql.Proofs.Wire.StatusPackets
import WireSql.ResultSet
import WireSql.Server
import WireSql.Session
import WireSql.Snapshot
import WireSql.Sql.Literal
import WireSql.Sql.Outline
import WireSql.Sql.Parser
import WireSql.Sql.Printer
import WireSql.Sql.Split
import WireSql.Sql.Statement
import WireSql.StatementError
import WireSql.Store
import WireSql.Store.InPlace
import WireSql.Store.Saving
import WireSql.Table.Basic
import WireSql.Table.Checked
import WireSql.Table.Coercion
import WireSql.Table.ColumnType
import WireSql.Table.InPlace
import WireSql.Text.Ascii
import WireSql.Text.Blank
import WireSql.Text.DecimalDigit
import WireSql.Text.Keyword
import WireSql.Text.Search
import WireSql.Text.Utf8
import WireSql.Text.Word
import WireSql.Value
import WireSql.Wire.Buffer
import WireSql.Wire.Capability
import WireSql.Wire.Cursor
import WireSql.Wire.Field
import WireSql.Wire.Frame
import WireSql.Wire.Greeting
import WireSql.Wire.Handshake
import WireSql.Wire.Packet
import WireSql.Wire.Parse
import WireSql.Wire.Reader
import WireSql.Wire.Request
import WireSql.Wire.Rows
import WireSql.Wire.Word
