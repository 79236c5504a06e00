import EndpointClient.CommandLine.Check
import EndpointClient.CommandLine.Daemon
import EndpointClient.CommandLine.Help
import EndpointClient.CommandLine.Options
import EndpointClient.CommandLine.Program
import EndpointClient.CommandLine.Send
import EndpointClient.CommandLine.Serve
import EndpointClient.CommandLine.Tool
import EndpointClient.Config.Basic
import EndpointClient.Config.Decode
import EndpointClient.Config.Load
import EndpointClient.Config.Validation
import EndpointClient.Connector.Basic
import EndpointClient.Connector.Dispatch
import EndpointClient.Connector.Error
import EndpointClient.Connector.Exchange
import EndpointClient.Connector.Ticket
import EndpointClient.Connector.Traffic
import EndpointClient.Duration
import EndpointClient.Engine.Error
import EndpointClient.Engine.Link
import EndpointClient.Engine.Request
import EndpointClient.Entity
import EndpointClient.Health.Monitor
import EndpointClient.Health.Probe
import EndpointClient.Health.Query
import EndpointClient.Health.Report
import EndpointClient.Health.Shutdown
import EndpointClient.Health.Startup
import EndpointClient.Health.State
import EndpointClient.Health.Uri
import EndpointClient.Http.Body
import EndpointClient.Http.Framing
import EndpointClient.Http.Header
import EndpointClient.Http.HeaderLine
import EndpointClient.Http.Method
import EndpointClient.Http.Origin
import EndpointClient.Http.RequestBytes
import EndpointClient.Http.RequestHead
import EndpointClient.Http.Response
import EndpointClient.Http.ResponseBody
import EndpointClient.Http.ResponseHead
import EndpointClient.Http.Status
import EndpointClient.Http.Token
import EndpointClient.Http.Uri
import EndpointClient.IoError
import EndpointClient.Json.Basic
import EndpointClient.Json.Parser
import EndpointClient.Json.Printer
import EndpointClient.Main
import EndpointClient.Net.Address
import EndpointClient.Net.PinnedResolver
import EndpointClient.Observe.Filter
import EndpointClient.Observe.Journal
import EndpointClient.Observe.Log
import EndpointClient.Observe.Metric
import EndpointClient.Pipe
import EndpointClient.Pipe.Stream
import EndpointClient.Rehearsal.CommandScript
import EndpointClient.Rehearsal.ConnectorScript
import EndpointClient.Rehearsal.EchoScript
import EndpointClient.Rehearsal.Engine
import EndpointClient.Rehearsal.MonitorScript
import EndpointClient.Rehearsal.Network
import EndpointClient.Rehearsal.PipeScript
import EndpointClient.Rehearsal.ReportScript
import EndpointClient.Rehearsal.Run
import EndpointClient.Rehearsal.ShutdownScript
import EndpointClient.Rehearsal.SinkScript
import EndpointClient.Rehearsal.Step
import EndpointClient.Rehearsal.WireScript
import EndpointClient.Rehearsal.World
import EndpointClient.Request
import EndpointClient.Request.Debug
import EndpointClient.Shutdown
import EndpointClient.Text.Blank
import EndpointClient.Text.CodePoints
import EndpointClient.Text.Decimal
import EndpointClient.Text.Letter
import EndpointClient.Text.Normalization
import EndpointClient.Text.Printable
import EndpointClient.Text.Quoted
import EndpointClient.Text.Split
import EndpointClient.Text.Utf8
import EndpointClient.Toml.Document
import EndpointClient.Toml.Parser
import EndpointClient.Toml.Scalar
import EndpointClient.Toml.Text
import EndpointClient.Toml.Value
import EndpointClient.Url.Basic
import EndpointClient.Url.Host
import EndpointClient.Url.Idna
import EndpointClient.Url.Idna.Context
import EndpointClient.Url.Idna.Mapping
import EndpointClient.Url.Parser
import EndpointClient.Url.Percent
import EndpointClient.Url.Punycode
import EndpointClient.Word
import EndpointClient.Proofs.Config.Validation
import EndpointClient.Proofs.Connector.Asked
import EndpointClient.Proofs.Connector.Body
import EndpointClient.Proofs.Connector.Callback
import EndpointClient.Proofs.Connector.Capacity
import EndpointClient.Proofs.Connector.Deadlock
import EndpointClient.Proofs.Connector.EntityFailure
import EndpointClient.Proofs.Connector.Faithful
import EndpointClient.Proofs.Connector.Handle
import EndpointClient.Proofs.Connector.HeaderOrder
import EndpointClient.Proofs.Connector.Isolation
import EndpointClient.Proofs.Connector.Move
import EndpointClient.Proofs.Connector.Ongoing
import EndpointClient.Proofs.Connector.Orphan
import EndpointClient.Proofs.Connector.Outcome
import EndpointClient.Proofs.Connector.Progress
import EndpointClient.Proofs.Connector.ReadTimeout
import EndpointClient.Proofs.Connector.Reply
import EndpointClient.Proofs.Connector.Rule
import EndpointClient.Proofs.Connector.Schedule
import EndpointClient.Proofs.Connector.Sent
import EndpointClient.Proofs.Connector.Transparency
import EndpointClient.Proofs.Delivery
import EndpointClient.Proofs.Health.Change
import EndpointClient.Proofs.Health.FixedRate
import EndpointClient.Proofs.Health.LastProbe
import EndpointClient.Proofs.Health.Made
import EndpointClient.Proofs.Health.Query
import EndpointClient.Proofs.Health.Report
import EndpointClient.Proofs.Health.Reporting
import EndpointClient.Proofs.Health.Roster
import EndpointClient.Proofs.Health.Scheduled
import EndpointClient.Proofs.Health.Shutdown
import EndpointClient.Proofs.Health.Startup
import EndpointClient.Proofs.Health.Stop
import EndpointClient.Proofs.Health.StopAll
import EndpointClient.Proofs.Health.Target
import EndpointClient.Proofs.Http.Header
import EndpointClient.Proofs.Http.HeaderOrder
import EndpointClient.Proofs.Http.ReadBody
import EndpointClient.Proofs.Http.Uri
import EndpointClient.Proofs.Pipe.Ending
import EndpointClient.Proofs.Pipe.Fifo
import EndpointClient.Proofs.Pipe.Stream
import EndpointClient.Proofs.Request.Settings
import EndpointClient.Proofs.Text.CodePoints
import EndpointClient.Proofs.Text.Normalization
import EndpointClient.Proofs.Text.Parts
import EndpointClient.Proofs.Text.Utf8
import EndpointClient.Proofs.Url.Authority
import EndpointClient.Proofs.Url.Host
import EndpointClient.Proofs.Url.Idna
import EndpointClient.Proofs.Url.Resource
import EndpointClient.Proofs.Url.Segments
import EndpointClient.Proofs.Health.Grace
import EndpointClient.Proofs.Entity.Sink
import EndpointClient.Proofs.Entity.Slot
import EndpointClient.Proofs.Config.Decode
import EndpointClient.Proofs.Config.KnownKeys
import EndpointClient.Proofs.Url.PlainName
import EndpointClient.Proofs.Url.Plain
import EndpointClient.Proofs.Http.PlainUri
import EndpointClient.Proofs.Health.PlainTarget
import EndpointClient.Health.Fleet
import EndpointClient.Proofs.Observe.Metric
import EndpointClient.Proofs.Observe.Journal
import EndpointClient.Proofs.Connector.Record
import EndpointClient.Proofs.Engine.Timeout
import EndpointClient.Proofs.Net.Address
import EndpointClient.Proofs.Health.Record
import EndpointClient.Proofs.Health.Summary
import EndpointClient.Proofs.Text.Ascii
import EndpointClient.Proofs.Text.Blank
import EndpointClient.Proofs.Http.HeaderField
import EndpointClient.Proofs.Http.HeaderLine
