import AdminPort.Address
import AdminPort.Address.Printer
import AdminPort.Address.Reader
import AdminPort.Build
import AdminPort.Command
import AdminPort.Command.Table
import AdminPort.Config
import AdminPort.Config.Load
import AdminPort.Config.Schema
import AdminPort.Connection.Handle
import AdminPort.Connection.Registry
import AdminPort.Connection.Watch
import AdminPort.Daemon
import AdminPort.Decimal.Double
import AdminPort.Decimal.Shortest
import AdminPort.Dispatch
import AdminPort.Exchange
import AdminPort.Fault
import AdminPort.FileTree
import AdminPort.Front
import AdminPort.Http.Request
import AdminPort.Http.Target
import AdminPort.Journal
import AdminPort.Latency
import AdminPort.Main
import AdminPort.Page
import AdminPort.PointStore
import AdminPort.RoutingKey
import AdminPort.Serving
import AdminPort.Startup
import AdminPort.Stats.Collector
import AdminPort.Stats.Line
import AdminPort.Text.Blank
import AdminPort.Text.Json
import AdminPort.Text.Markup
import AdminPort.Text.Numeral
import AdminPort.Text.Quoted
import AdminPort.Text.Unprintable
import AdminPort.Traffic
import AdminPort.Yaml.BlockText
import AdminPort.Yaml.Document
import AdminPort.Yaml.Event
import AdminPort.Yaml.FlowText
import AdminPort.Yaml.Lexer
import AdminPort.Yaml.Mismatch
import AdminPort.Yaml.Node
import AdminPort.Yaml.Number
import AdminPort.Yaml.Source
import AdminPort.Yaml.Tag
import AdminPort.Yaml.Token
import AdminPort.Proofs.Numerals
import AdminPort.Proofs.Course
import AdminPort.Proofs.Encounter
import AdminPort.Proofs.Frames
import AdminPort.Proofs.ReplyLaw
import AdminPort.Proofs.Run
import AdminPort.Proofs.Counters
import AdminPort.Proofs.Stopping
import AdminPort.Proofs.Attendance
import AdminPort.Proofs.Lines
import AdminPort.Proofs.Percentile
import AdminPort.Proofs.History
import AdminPort.Proofs.Readback
import AdminPort.Proofs.Launch
import AdminPort.Proofs.Conservation
import AdminPort.Proofs.Isolation
import AdminPort.Proofs.ChunkedGuard
import AdminPort.Proofs.Escape
import AdminPort.Proofs.Pages
import AdminPort.Proofs.Fallback
import AdminPort.Proofs.Spelling
import AdminPort.Proofs.Acceptance
import AdminPort.Proofs.Crowd
import AdminPort.Proofs.Interleaving
import AdminPort.Proofs.Reception
import AdminPort.Proofs.Registrations
import AdminPort.Proofs.Account
import AdminPort.Proofs.Indifference
import AdminPort.Proofs.Draining
import AdminPort.Proofs.OrderStatistic
import AdminPort.Proofs.KeyGrammar
import AdminPort.Proofs.Collecting
import AdminPort.Proofs.JsonReading
import AdminPort.Proofs.BuildReply
import AdminPort.Proofs.BuildTime
import AdminPort.Proofs.Naming
import AdminPort.Proofs.AddressReading
import AdminPort.Proofs.HandleReading
