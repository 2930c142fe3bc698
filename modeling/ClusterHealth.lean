import ClusterHealth.Admin.Client
import ClusterHealth.Admin.Error
import ClusterHealth.Admin.ServerError
import ClusterHealth.Admin.Session
import ClusterHealth.Admin.Transport
import ClusterHealth.Agent.Api
import ClusterHealth.Collect.Cpus
import ClusterHealth.Collect.Memory
import ClusterHealth.Collect.Os
import ClusterHealth.Collect.Outcome
import ClusterHealth.Collect.Partitions
import ClusterHealth.Collect.Process
import ClusterHealth.Collect.Section
import ClusterHealth.CommandLine.Arguments
import ClusterHealth.CommandLine.Run
import ClusterHealth.CommandLine.Usage
import ClusterHealth.DataType
import ClusterHealth.Duration
import ClusterHealth.Entries
import ClusterHealth.Fault
import ClusterHealth.FieldError
import ClusterHealth.Host.Basic
import ClusterHealth.Host.Files
import ClusterHealth.Json.Basic
import ClusterHealth.Json.Decoder
import ClusterHealth.Json.Display
import ClusterHealth.Json.Printer
import ClusterHealth.Log
import ClusterHealth.Log.Root
import ClusterHealth.Log.Template
import ClusterHealth.Main
import ClusterHealth.Metric.Record
import ClusterHealth.Metric.Snapshot
import ClusterHealth.Number.Binary64
import ClusterHealth.Number.Field
import ClusterHealth.Number.Numeral
import ClusterHealth.Number.Places
import ClusterHealth.Number.Quantity
import ClusterHealth.Number.Shortest
import ClusterHealth.Proofs.Admin.Delivery
import ClusterHealth.Proofs.Admin.Release
import ClusterHealth.Proofs.DurationText
import ClusterHealth.Proofs.EntryLaws
import ClusterHealth.Proofs.Json.Bracketed
import ClusterHealth.Proofs.Report.Checking
import ClusterHealth.Proofs.Report.EnvelopeLaws
import ClusterHealth.Proofs.Stream.Documents
import ClusterHealth.Proofs.Stream.Framing
import ClusterHealth.Proofs.Stream.Pieces
import ClusterHealth.Proofs.Stream.ReaderLaws
import ClusterHealth.Proofs.Text.DecodingLaws
import ClusterHealth.Proofs.Web.BodyLaws
import ClusterHealth.Report.Aggregate
import ClusterHealth.Report.Shape
import ClusterHealth.Report.Timestamp
import ClusterHealth.Settings.Basic
import ClusterHealth.Settings.EnvFile
import ClusterHealth.Stream.Reader
import ClusterHealth.Stream.Scan
import ClusterHealth.Text.Basic
import ClusterHealth.Text.Blank
import ClusterHealth.Text.Digit
import ClusterHealth.Text.LetterCase
import ClusterHealth.Text.Printable
import ClusterHealth.Text.Quoted
import ClusterHealth.Text.Ranges
import ClusterHealth.Text.Utf8
import ClusterHealth.Web.Headers
import ClusterHealth.Web.Inflate
import ClusterHealth.Web.Percent
import ClusterHealth.Web.Reason
import ClusterHealth.Web.Response
import ClusterHealth.Web.Url
import ClusterHealth.Proofs.Stream.Calls
import ClusterHealth.Proofs.Web.Consumption
import ClusterHealth.Proofs.Admin.Negotiation
import ClusterHealth.Proofs.Admin.Completeness
import ClusterHealth.Proofs.Admin.SharedDocument
import ClusterHealth.Proofs.Admin.Categories
import ClusterHealth.Proofs.Stream.Laziness
import ClusterHealth.Proofs.Admin.Demand
import ClusterHealth.Proofs.Admin.Cutting
import ClusterHealth.Proofs.Web.Cutting
import ClusterHealth.Proofs.Admin.Accounting
import ClusterHealth.Proofs.Admin.Asking
import ClusterHealth.Proofs.Report.Calendar
import ClusterHealth.Proofs.Report.TimestampText
import ClusterHealth.Proofs.Report.Reading
import ClusterHealth.Proofs.Report.Holding
import ClusterHealth.Proofs.Report.Depth
import ClusterHealth.Proofs.Report.FixedPoint
import ClusterHealth.Proofs.Number.DigitLaws
import ClusterHealth.Proofs.Number.Rounding
import ClusterHealth.Proofs.Number.ShortestLaws
import ClusterHealth.Proofs.Json.NumberText
import ClusterHealth.Proofs.Json.StringText
import ClusterHealth.Proofs.Json.RoundTrip
import ClusterHealth.Proofs.Json.Decoded
import ClusterHealth.Proofs.Report.Writing
import ClusterHealth.Proofs.Report.Rendering
import ClusterHealth.Proofs.Report.Passage
import ClusterHealth.Proofs.Collect.Settling
import ClusterHealth.Proofs.Collect.Documented
import ClusterHealth.Proofs.Collect.Escapes
import ClusterHealth.Proofs.Collect.ProcessEscapes
import ClusterHealth.Proofs.CommandLine.WholeReport
import ClusterHealth.Proofs.Text.CuttingLaws
import ClusterHealth.Proofs.Settings.Acceptance
import ClusterHealth.Proofs.Settings.Building
import ClusterHealth.Proofs.Collect.Assembly
import ClusterHealth.Proofs.Text.EncodingLaws
import ClusterHealth.Proofs.Web.FormLaws
import ClusterHealth.Proofs.Query
import ClusterHealth.Proofs.Selection
import ClusterHealth.Proofs.CommandLine.SnapshotAgreement
import ClusterHealth.Proofs.Web.BoundedReading
import ClusterHealth.Proofs.Admin.Refusals
import ClusterHealth.Proofs.Number.WholeText
import ClusterHealth.Proofs.Web.Origin
import ClusterHealth.Proofs.Admin.Destination
import ClusterHealth.Proofs.Admin.Limits
import ClusterHealth.Proofs.CommandLine.DeadlineOption
import ClusterHealth.Proofs.Collect.Packaging
import ClusterHealth.Proofs.Collect.Description
import ClusterHealth.Proofs.Collect.MountEntries
import ClusterHealth.Proofs.Collect.FirstFault
import ClusterHealth.Proofs.Collect.StatFile
import ClusterHealth.Proofs.Text.CaseLaws
import ClusterHealth.Proofs.Text.LineLaws
import ClusterHealth.Proofs.Collect.FailureTexts
import ClusterHealth.Proofs.CommandLine.TypesOption
import ClusterHealth.Proofs.Json.Comparing
import ClusterHealth.Proofs.Metric.Flattening
import ClusterHealth.Proofs.Agent.Serving
import ClusterHealth.Proofs.Stream.Leaps
import ClusterHealth.Proofs.Stream.Gathering
import ClusterHealth.Proofs.LogSetup
import ClusterHealth.Proofs.LogSetup
