import ShellQuery.Text.Blank
import ShellQuery.Text.Quote
import ShellQuery.Text.Group
import ShellQuery.Text.Hex
import ShellQuery.Text.Identifier
import ShellQuery.Text.Lower
import ShellQuery.Text.Utf8
import ShellQuery.Text.Percent
import ShellQuery.Text.Position
import ShellQuery.Text.Word
import ShellQuery.Text.Quoted
import ShellQuery.Text.Similarity
import ShellQuery.Number.Binary64
import ShellQuery.Number.Decimal
import ShellQuery.Number.Shortest
import ShellQuery.Number.Layout
import ShellQuery.Number.Width
import ShellQuery.Json.Value
import ShellQuery.Json.Printer
import ShellQuery.Json.Decode
import ShellQuery.Json.Reader
import ShellQuery.Calendar.Date
import ShellQuery.Calendar.Instant
import ShellQuery.Calendar.Layout
import ShellQuery.Bson.Value
import ShellQuery.Bson.Extended
import ShellQuery.Error.Driver
import ShellQuery.Error.Query
import ShellQuery.Bson.OfJson
import ShellQuery.Bson.OfExtended
import ShellQuery.Statement.BaseCall
import ShellQuery.Statement.CursorCall
import ShellQuery.Statement.FunctionLiteral
import ShellQuery.Statement.Split
import ShellQuery.Argument.Constructor
import ShellQuery.Argument.DateLiteral
import ShellQuery.Argument.Quoting
import ShellQuery.Argument.Normal
import ShellQuery.Operation.Kind
import ShellQuery.Operation.CursorMethod
import ShellQuery.Operation.Descriptor
import ShellQuery.Operation.Mapping
import ShellQuery.Statement.Parse
import ShellQuery.Operation.Wire
import ShellQuery.Request.Collation
import ShellQuery.Request.Options
import ShellQuery.Toml.Quoted
import ShellQuery.Toml.Value
import ShellQuery.Toml.Word
import ShellQuery.Toml.Reader
import ShellQuery.Execution.Result
import ShellQuery.Execution.Report
import ShellQuery.Execution.Format
import ShellQuery.Config.Settings
import ShellQuery.Config.Text
import ShellQuery.Config.File
import ShellQuery.Config.Wire
import ShellQuery.Server.Command
import ShellQuery.Server.Reply
import ShellQuery.Server.Exchange
import ShellQuery.Server.Scripted
import ShellQuery.Connection.Address
import ShellQuery.Connection.UriOption
import ShellQuery.Connection.Uri
import ShellQuery.Connection.Client
import ShellQuery.Connection.Retry
import ShellQuery.Connection.Lifecycle
import ShellQuery.Connection.UriText
import ShellQuery.CommandLine.Switch
import ShellQuery.CommandLine.Scan
import ShellQuery.CommandLine.Arguments
import ShellQuery.CommandLine.Setup
import ShellQuery.Execution.Run
import ShellQuery.Execution.Perform
import ShellQuery.Program.Outcome
import ShellQuery.Program.Run
import ShellQuery.Main
import ShellQuery.Proofs.Text.Slice
import ShellQuery.Proofs.Text.Group
import ShellQuery.Proofs.Json.Literal
import ShellQuery.Proofs.Statement.Split
import ShellQuery.Proofs.Operation.Chain
import ShellQuery.Proofs.Statement.Suffix
import ShellQuery.Proofs.Text.Offset
import ShellQuery.Proofs.Text.Balanced
import ShellQuery.Proofs.Text.Cut
import ShellQuery.Proofs.Text.Utf8
import ShellQuery.Proofs.Text.Percent
import ShellQuery.Proofs.Text.Quote
import ShellQuery.Proofs.Number.Digits
import ShellQuery.Proofs.Number.Exact
import ShellQuery.Proofs.Json.Number
import ShellQuery.Proofs.Json.Grammar
import ShellQuery.Proofs.Calendar.Days
import ShellQuery.Proofs.Calendar.Count
import ShellQuery.Proofs.Calendar.Marks
import ShellQuery.Proofs.Calendar.Written
import ShellQuery.Proofs.Calendar.Forms
import ShellQuery.Proofs.Calendar.Inverse
import ShellQuery.Proofs.Bson.RoundTrip
import ShellQuery.Proofs.Bson.Wrapper
import ShellQuery.Proofs.Bson.Conversion
import ShellQuery.Proofs.Statement.Closed
import ShellQuery.Proofs.Statement.Spelling
import ShellQuery.Proofs.Statement.RoundTrip
import ShellQuery.Proofs.Statement.FunctionLiteral
import ShellQuery.Proofs.Statement.FunctionSpelling
import ShellQuery.Proofs.Statement.Prefix
import ShellQuery.Proofs.Statement.QuotedName
import ShellQuery.Proofs.Request.Carried
import ShellQuery.Proofs.Statement.Relevant
import ShellQuery.Proofs.Statement.Slices
import ShellQuery.Proofs.Statement.Terminator
import ShellQuery.Proofs.Argument.Tree
import ShellQuery.Proofs.Argument.Pass
import ShellQuery.Proofs.Argument.Reading
import ShellQuery.Proofs.Argument.Calls
import ShellQuery.Proofs.Argument.Keys
import ShellQuery.Proofs.Argument.Dates
import ShellQuery.Proofs.Argument.Restore
import ShellQuery.Proofs.Argument.Normal
import ShellQuery.Proofs.Argument.Broken
import ShellQuery.Proofs.Argument.Settled
import ShellQuery.Proofs.Argument.Lexemes
import ShellQuery.Proofs.Argument.Loose
import ShellQuery.Proofs.Argument.Slices
import ShellQuery.Proofs.Argument.Matches
import ShellQuery.Proofs.Argument.Pure
import ShellQuery.Proofs.Argument.Transparent
import ShellQuery.Proofs.Operation.Counting
import ShellQuery.Proofs.Operation.Integer
import ShellQuery.Proofs.Operation.Order
import ShellQuery.Proofs.Operation.Wire
import ShellQuery.Proofs.Config.Effective
import ShellQuery.Proofs.Connection.Retries
import ShellQuery.Proofs.Connection.Backoff
import ShellQuery.Proofs.Connection.Agreement
import ShellQuery.Proofs.Connection.Database
import ShellQuery.Proofs.Connection.Masking
import ShellQuery.Proofs.Execution.Lines
import ShellQuery.Proofs.Execution.Script
