import TableGateway.Calendar
import TableGateway.Decimal.Binary64
import TableGateway.Decimal.FloatText
import TableGateway.Decimal.Integer
import TableGateway.Decimal.Shortest
import TableGateway.Driver.Basic
import TableGateway.Driver.Scripted
import TableGateway.Error
import TableGateway.Gateway.Basic
import TableGateway.Gateway.Command
import TableGateway.Gateway.Description
import TableGateway.Gateway.Session
import TableGateway.Identifier
import TableGateway.Identifier.Alias
import TableGateway.Int64Range
import TableGateway.Json.Basic
import TableGateway.Json.Outline
import TableGateway.Json.Printer
import TableGateway.Json.Reader
import TableGateway.Json.Token
import TableGateway.KeyRules
import TableGateway.Log
import TableGateway.OrderedMap
import TableGateway.Proofs.Calendar.Date
import TableGateway.Proofs.Calendar.Reading
import TableGateway.Proofs.Decimal.Digits
import TableGateway.Proofs.Decimal.ExactValue
import TableGateway.Proofs.Decimal.Rounding
import TableGateway.Proofs.Gateway.Assembly
import TableGateway.Proofs.Gateway.ById
import TableGateway.Proofs.Gateway.CountAnswer
import TableGateway.Proofs.Gateway.CountBlindness
import TableGateway.Proofs.Gateway.KeyHistory
import TableGateway.Proofs.Gateway.Run
import TableGateway.Proofs.Gateway.SavedKeys
import TableGateway.Proofs.Gateway.Saving
import TableGateway.Proofs.Gateway.Sending
import TableGateway.Proofs.Gateway.UnionCount
import TableGateway.Proofs.Identifier.AliasCut
import TableGateway.Proofs.Identifier.Enclosed
import TableGateway.Proofs.Identifier.QuotedName
import TableGateway.Proofs.Identifier.Separator
import TableGateway.Proofs.Json.Lexing
import TableGateway.Proofs.Json.TextReading
import TableGateway.Proofs.Json.WrittenNumber
import TableGateway.Proofs.LastWord
import TableGateway.Proofs.Lexical.Expansion
import TableGateway.Proofs.Lexical.Group
import TableGateway.Proofs.Lexical.Literal
import TableGateway.Proofs.Lexical.Reading
import TableGateway.Proofs.Lexical.Token
import TableGateway.Proofs.Log.Excerpt
import TableGateway.Proofs.Record.AsRow
import TableGateway.Proofs.Record.Columns
import TableGateway.Proofs.Record.Edits
import TableGateway.Proofs.Record.Flattening
import TableGateway.Proofs.Record.Leaves
import TableGateway.Proofs.Record.Lookup
import TableGateway.Proofs.Record.PathRecovery
import TableGateway.Proofs.Select.Bracketing
import TableGateway.Proofs.Select.Contained
import TableGateway.Proofs.Select.History
import TableGateway.Proofs.Select.Lists
import TableGateway.Proofs.Select.WrittenName
import TableGateway.Proofs.Statement.Interchange
import TableGateway.Proofs.Statement.Partition
import TableGateway.Proofs.Statement.Projection
import TableGateway.Proofs.Statement.Reading
import TableGateway.Proofs.Statement.Secrecy
import TableGateway.Proofs.Statement.Target
import TableGateway.Proofs.Statement.Update
import TableGateway.Proofs.Template.Markers
import TableGateway.Proofs.Template.Position
import TableGateway.Proofs.Template.Quoting
import TableGateway.Proofs.Value.Denotation
import TableGateway.Proofs.Value.JsonReading
import TableGateway.Proofs.Value.JsonRoundTrip
import TableGateway.Proofs.Value.Readback
import TableGateway.Record.Basic
import TableGateway.Record.Flatten
import TableGateway.Record.Row
import TableGateway.Select.Basic
import TableGateway.Select.Builder
import TableGateway.Select.Render
import TableGateway.Statement
import TableGateway.Template.Basic
import TableGateway.Template.Condition
import TableGateway.Text.Blank
import TableGateway.Text.Bytes
import TableGateway.Text.CodeRange
import TableGateway.Text.DefaultIgnorable
import TableGateway.Text.GraphemeExtend
import TableGateway.Text.Graphic
import TableGateway.Text.Quoted
import TableGateway.Value.Basic
import TableGateway.Value.Conversion
import TableGateway.Value.Json
import TableGateway.Value.Text
