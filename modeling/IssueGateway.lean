import IssueGateway.Address
import IssueGateway.Assoc
import IssueGateway.Calendar.Date
import IssueGateway.Calendar.Iso
import IssueGateway.Calendar.Reading
import IssueGateway.Calendar.Slash
import IssueGateway.Calendar.Timestamp
import IssueGateway.Calendar.Window
import IssueGateway.Failure
import IssueGateway.Json.Parser
import IssueGateway.Json.Printer
import IssueGateway.Json.Text
import IssueGateway.Json.Value
import IssueGateway.Launch
import IssueGateway.Listing
import IssueGateway.Logging.Level
import IssueGateway.Logging.Redaction
import IssueGateway.Logging.Setup
import IssueGateway.Main
import IssueGateway.MultiSite
import IssueGateway.Number.Basic
import IssueGateway.Number.Binary64
import IssueGateway.Number.Literal
import IssueGateway.Number.Shortest
import IssueGateway.Number.Total
import IssueGateway.Operation.Analysis
import IssueGateway.Operation.Browse
import IssueGateway.Operation.Rules
import IssueGateway.Operation.Search
import IssueGateway.Query.Payload
import IssueGateway.Query.Range
import IssueGateway.Record
import IssueGateway.Remote.Call
import IssueGateway.Remote.Client
import IssueGateway.Remote.Script
import IssueGateway.Rest.App
import IssueGateway.Rest.Arguments
import IssueGateway.Rest.Problem
import IssueGateway.Rest.Reader
import IssueGateway.Rest.Render
import IssueGateway.Rest.Request
import IssueGateway.Rest.RequestId
import IssueGateway.Rest.Route
import IssueGateway.Settings
import IssueGateway.Stats.Aggregate
import IssueGateway.Stats.Amount
import IssueGateway.Stats.Trend
import IssueGateway.Text.Blank
import IssueGateway.Text.CodePoint
import IssueGateway.Text.Digit
import IssueGateway.Text.Encoding
import IssueGateway.Text.Percent
import IssueGateway.Text.Printable
import IssueGateway.Text.Quoted
import IssueGateway.Proofs.Assoc
import IssueGateway.Proofs.Text.CodePoint
import IssueGateway.Proofs.Remote.Request
import IssueGateway.Proofs.Remote.Retry
import IssueGateway.Proofs.Remote.Outcome
import IssueGateway.Proofs.Json.Reading
import IssueGateway.Proofs.Listing
import IssueGateway.Proofs.Remote.Interleaving
import IssueGateway.Proofs.MultiSite
import IssueGateway.Proofs.Number.Binary64
import IssueGateway.Proofs.Number.Percent
import IssueGateway.Proofs.Number.Value
import IssueGateway.Proofs.Stats.Grouping
import IssueGateway.Proofs.Stats.Partition
import IssueGateway.Proofs.Stats.Agreement
import IssueGateway.Proofs.Stats.Overview
import IssueGateway.Proofs.Operation.Escape
import IssueGateway.Proofs.Operation.Reconciliation
import IssueGateway.Proofs.Stats.Series
import IssueGateway.Proofs.Text.Padding
import IssueGateway.Proofs.Text.Decimal
import IssueGateway.Proofs.Calendar.Order
import IssueGateway.Proofs.Calendar.DayCount
import IssueGateway.Proofs.Stats.Conservation
import IssueGateway.Proofs.Stats.Chronology
import IssueGateway.Proofs.Stats.WeekOrder
import IssueGateway.Proofs.Operation.WeeklyTrend
import IssueGateway.Proofs.Stats.CalendarOrder
import IssueGateway.Proofs.Stats.BucketKeys
import IssueGateway.Proofs.Number.Order
import IssueGateway.Proofs.Remote.Limits
import IssueGateway.Proofs.Operation.Demands
import IssueGateway.Proofs.Operation.Traffic
import IssueGateway.Proofs.Operation.Validation
import IssueGateway.Proofs.Remote.Alike
import IssueGateway.Proofs.Operation.Secrecy
import IssueGateway.Proofs.Remote.Judgement
import IssueGateway.Proofs.Json.Equality
import IssueGateway.Proofs.Remote.Store
import IssueGateway.Proofs.Operation.Paging
import IssueGateway.Proofs.Json.Text
import IssueGateway.Proofs.Operation.Lookup
import IssueGateway.Proofs.Operation.Upstream
import IssueGateway.Proofs.Rest.Inquiry
import IssueGateway.Proofs.Rest.Upstream
import IssueGateway.Proofs.Rest.RequestId
import IssueGateway.Proofs.Query.Expressions
import IssueGateway.Proofs.Query.DateBounds
import IssueGateway.Proofs.Operation.DateBounds
import IssueGateway.Proofs.Number.Rounding
import IssueGateway.Proofs.Number.Shortest
import IssueGateway.Proofs.Number.Quotient
import IssueGateway.Proofs.Number.Numeral
import IssueGateway.Proofs.Query.NumberBounds
import IssueGateway.Proofs.Stats.Overflow
import IssueGateway.Proofs.Calendar.Months
import IssueGateway.Proofs.Calendar.Reading
import IssueGateway.Proofs.Query.Decoding
import IssueGateway.Proofs.Calendar.Slash
import IssueGateway.Proofs.Calendar.Position
import IssueGateway.Proofs.Calendar.Iso
import IssueGateway.Proofs.Calendar.Windows
import IssueGateway.Proofs.Text.Lowercase
import IssueGateway.Proofs.Json.Place
import IssueGateway.Proofs.Logging.Redaction
import IssueGateway.Proofs.Number.Literal
import IssueGateway.Proofs.Settings
import IssueGateway.Proofs.Stats.TextKeys
