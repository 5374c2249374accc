import BatteryWatch.Bus.Basic
import BatteryWatch.Bus.Link
import BatteryWatch.Bytes
import BatteryWatch.CommandLine.Options
import BatteryWatch.CommandLine.Parse
import BatteryWatch.Decimal
import BatteryWatch.Device
import BatteryWatch.Log.Filter
import BatteryWatch.Log.Pattern
import BatteryWatch.Log.Pattern.Bracket
import BatteryWatch.Log.Pattern.Cursor
import BatteryWatch.Log.Pattern.Escape
import BatteryWatch.Log.Pattern.Fault
import BatteryWatch.Log.Pattern.Group
import BatteryWatch.Log.Pattern.Meaning
import BatteryWatch.Log.Pattern.Read
import BatteryWatch.Log.Pattern.Size
import BatteryWatch.Log.Pattern.Tree
import BatteryWatch.Main
import BatteryWatch.Message
import BatteryWatch.Monitor
import BatteryWatch.Packet
import BatteryWatch.Program
import BatteryWatch.Proofs.Answer
import BatteryWatch.Proofs.AnswerText
import BatteryWatch.Proofs.Connection
import BatteryWatch.Proofs.Conversation
import BatteryWatch.Proofs.Delegation
import BatteryWatch.Proofs.Describing
import BatteryWatch.Proofs.Handles.Ledger
import BatteryWatch.Proofs.Handles.LifeCycle
import BatteryWatch.Proofs.Handshake
import BatteryWatch.Proofs.Json.Reader
import BatteryWatch.Proofs.Json.Reading
import BatteryWatch.Proofs.Log.LevelFilter
import BatteryWatch.Proofs.Log.Narration
import BatteryWatch.Proofs.Log.Transfers
import BatteryWatch.Proofs.Log.Verbosity
import BatteryWatch.Proofs.Loopback
import BatteryWatch.Proofs.Operation
import BatteryWatch.Proofs.PacketMaking
import BatteryWatch.Proofs.PollInterval
import BatteryWatch.Proofs.Reports
import BatteryWatch.Proofs.RequestBuilding
import BatteryWatch.Proofs.RoundTrip
import BatteryWatch.Proofs.Rounding
import BatteryWatch.Proofs.Seconds
import BatteryWatch.Proofs.Settings.Content
import BatteryWatch.Proofs.Settings.Defaults
import BatteryWatch.Proofs.Settings.Entries
import BatteryWatch.Proofs.Settings.Integers
import BatteryWatch.Proofs.Settings.Reading
import BatteryWatch.Proofs.Settings.Strictness
import BatteryWatch.Proofs.StatusLayout
import BatteryWatch.Proofs.StatusLine
import BatteryWatch.Proofs.StatusReading
import BatteryWatch.Proofs.StatusText
import BatteryWatch.Proofs.StoredText
import BatteryWatch.Proofs.Trace
import BatteryWatch.Proofs.Waiting
import BatteryWatch.Proofs.Watching.OnBus
import BatteryWatch.Proofs.Watching.Planned
import BatteryWatch.Proofs.Watching.Poll
import BatteryWatch.Proofs.Watching.Run
import BatteryWatch.Proofs.WholeRun
import BatteryWatch.Proofs.WireFormat
import BatteryWatch.Session
import BatteryWatch.Settings
import BatteryWatch.Text.CodeRanges
import BatteryWatch.Text.Quoted
import BatteryWatch.Text.Terminal
import BatteryWatch.Trace
import BatteryWatch.Transport
import BatteryWatch.Yaml.Node
import BatteryWatch.Yaml.Scalar
import BatteryWatch.Yaml.Token
import BatteryWatch.Yaml.Token.Property
import BatteryWatch.Yaml.Token.Scalar
import BatteryWatch.Yaml.Token.Scan
