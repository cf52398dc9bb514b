import ChainArchive.Application
import ChainArchive.Archive
import ChainArchive.Archive.Session
import ChainArchive.Block
import ChainArchive.Bytes
import ChainArchive.CommandLine
import ChainArchive.Decimal.Binary64
import ChainArchive.Decimal.Shortest
import ChainArchive.Disk
import ChainArchive.Domain.Mapping
import ChainArchive.Domain.Name
import ChainArchive.Domain.Punycode
import ChainArchive.Event
import ChainArchive.Extraction
import ChainArchive.Http
import ChainArchive.Http.Wire
import ChainArchive.Json.Basic
import ChainArchive.Json.Container
import ChainArchive.Json.Decoder
import ChainArchive.Json.Fault
import ChainArchive.Json.Printer
import ChainArchive.Json.Record
import ChainArchive.Json.Scalar
import ChainArchive.Json.Skip
import ChainArchive.Log.Directive
import ChainArchive.Log.Filter
import ChainArchive.Log.Line
import ChainArchive.Main
import ChainArchive.Node
import ChainArchive.Progress
import ChainArchive.Quantity
import ChainArchive.Rpc.Client
import ChainArchive.Rpc.Envelope
import ChainArchive.Run
import ChainArchive.SystemFault
import ChainArchive.Text.Canonical
import ChainArchive.Text.Charset
import ChainArchive.Text.Chinese
import ChainArchive.Text.Classes
import ChainArchive.Text.Direction
import ChainArchive.Text.DoubleByte
import ChainArchive.Text.Japanese
import ChainArchive.Text.Joining
import ChainArchive.Text.Korean
import ChainArchive.Text.Letter
import ChainArchive.Text.Likeness
import ChainArchive.Text.Pattern
import ChainArchive.Text.Pattern.Parser
import ChainArchive.Text.Quoted
import ChainArchive.Text.SingleByte
import ChainArchive.Text.Table
import ChainArchive.Text.Table.Big5
import ChainArchive.Text.Table.Gb18030
import ChainArchive.Text.Table.Jis0208
import ChainArchive.Text.Table.Jis0212
import ChainArchive.Text.Table.KsX1001
import ChainArchive.Text.Terminal
import ChainArchive.Text.Utf8
import ChainArchive.Text.Word
import ChainArchive.Transaction
import ChainArchive.Trouble
import ChainArchive.Url.Basic
import ChainArchive.Url.Host
import ChainArchive.Url.Parser
import ChainArchive.Wei
import ChainArchive.World
import ChainArchive.Proofs.Archive.Writing
import ChainArchive.Proofs.Extraction.Steps
import ChainArchive.Proofs.Extraction.Course
import ChainArchive.Proofs.Extraction.Completion
import ChainArchive.Proofs.Extraction.Breaking
import ChainArchive.Proofs.Extraction.Stopping
import ChainArchive.Proofs.Bytes
import ChainArchive.Proofs.Amounts
import ChainArchive.Proofs.Archive.Reading
import ChainArchive.Proofs.Archive.RoundTrip
import ChainArchive.Proofs.Disk.Agreement
import ChainArchive.Proofs.Extraction.Parametric
import ChainArchive.Proofs.Extraction.Alike
import ChainArchive.Proofs.Extraction.Afresh
import ChainArchive.Proofs.Extraction.OverCalls
import ChainArchive.Proofs.Json.Grammar
import ChainArchive.Proofs.Json.Numerals
import ChainArchive.Proofs.Json.Reading
import ChainArchive.Proofs.Json.Faithful
import ChainArchive.Proofs.Transaction.Members
import ChainArchive.Proofs.Archive.Tearing
import ChainArchive.Proofs.Decimal.Shortest
import ChainArchive.Proofs.Json.Written
import ChainArchive.Proofs.Json.Carrying
import ChainArchive.Proofs.Transaction.Carrying
import ChainArchive.Proofs.Extraction.Failing
import ChainArchive.Proofs.Extraction.Shortage
import ChainArchive.Proofs.Json.Completeness
import ChainArchive.Proofs.Json.Reordering
import ChainArchive.Proofs.Encodings
import ChainArchive.Proofs.Transaction.Meaning
import ChainArchive.Proofs.Transaction.Canonical
import ChainArchive.Proofs.Transaction.Shape
import ChainArchive.Proofs.Json.Passing
import ChainArchive.Proofs.Json.Spelling
import ChainArchive.Proofs.Json.Uniform
import ChainArchive.Proofs.Json.Ignoring
import ChainArchive.Proofs.Json.Views
import ChainArchive.Proofs.Json.Asking
import ChainArchive.Proofs.Json.Records
import ChainArchive.Proofs.Json.Layout
import ChainArchive.Proofs.Json.Glimpses
import ChainArchive.Proofs.Block
import ChainArchive.Proofs.Rpc.Envelopes
import ChainArchive.Proofs.Rpc.Answers
import ChainArchive.Proofs.Rpc.RemoteErrors
import ChainArchive.Proofs.Rpc.Numbering
import ChainArchive.Proofs.Archive.Sessions
import ChainArchive.Proofs.Json.Detaching
import ChainArchive.Proofs.Archive.Lines
import ChainArchive.Proofs.Archive.Contents
import ChainArchive.Proofs.Archive.Overwriting
import ChainArchive.Proofs.Encodings.Boundaries
import ChainArchive.Proofs.Json.Agreement
import ChainArchive.Proofs.Json.Arranging
import ChainArchive.Proofs.Encodings.ThroughValues
import ChainArchive.Proofs.Encodings.Strings
import ChainArchive.Proofs.Progress.History
import ChainArchive.Proofs.Decimal.Rounding
import ChainArchive.Proofs.Progress.Steady
import ChainArchive.Proofs.Progress.Reports
import ChainArchive.Proofs.Extraction.Journal
import ChainArchive.Proofs.Extraction.Reporting
import ChainArchive.Proofs.Extraction.Telling
import ChainArchive.Proofs.Block.Headers
