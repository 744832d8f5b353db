import LineChat.Address.Ip
import LineChat.Address.Socket
import LineChat.Address.Target
import LineChat.Command.Argument
import LineChat.Command.ClientRun
import LineChat.Command.Duration
import LineChat.Command.Exit
import LineChat.Command.Options
import LineChat.Command.Report
import LineChat.Command.ServerRun
import LineChat.Command.Version
import LineChat.Fault
import LineChat.Line.Basic
import LineChat.Line.Blank
import LineChat.Line.Buffer
import LineChat.Line.Encoding
import LineChat.Line.Error
import LineChat.Line.Framer
import LineChat.Line.Message
import LineChat.Line.Reader
import LineChat.Line.Writer
import LineChat.Loopback.Endpoint
import LineChat.Loopback.Network
import LineChat.Loopback.Pair
import LineChat.Loopback.Program
import LineChat.Loopback.Scene
import LineChat.Main
import LineChat.Octets
import LineChat.Proofs.Line.Records
import LineChat.Readiness.Event
import LineChat.Readiness.Interest
import LineChat.Readiness.Poller
import LineChat.Session.Client
import LineChat.Session.Connection
import LineChat.Session.Error
import LineChat.Session.History
import LineChat.Session.Registry
import LineChat.Session.Server
import LineChat.Session.Socket
import LineChat.Text.Json
import LineChat.Text.Lossy
import LineChat.Text.Numeral
import LineChat.Text.Printable
import LineChat.Text.Quoted
import LineChat.Text.Ranges
import LineChat.Text.Table
import LineChat.Text.Width
import LineChat.Proofs.Line.Framing
import LineChat.Proofs.Line.Wire
import LineChat.Proofs.Line.RoundTrip
import LineChat.Proofs.Line.Reading
import LineChat.Proofs.Line.Sending
import LineChat.Proofs.Session.Passes
import LineChat.Proofs.Session.Traffic
import LineChat.Proofs.Session.Work
import LineChat.Proofs.Session.Deeds
import LineChat.Proofs.Session.Peers
import LineChat.Proofs.Session.Course
import LineChat.Proofs.Session.Relay
import LineChat.Proofs.Session.Capacity
import LineChat.Proofs.Session.Account
import LineChat.Proofs.Session.Intake
import LineChat.Proofs.Session.Conversation
import LineChat.Proofs.Session.Fate
import LineChat.Proofs.Session.Inbox
import LineChat.Proofs.Session.Removal
import LineChat.Proofs.Session.Tidy
import LineChat.Proofs.Session.Wakeup
import LineChat.Proofs.Line.Requests
import LineChat.Proofs.Line.Attempts
import LineChat.Proofs.Session.OwnLines
import LineChat.Proofs.Command.ExitAfter
import LineChat.Proofs.Command.Outgoing
import LineChat.Proofs.Session.Numbers
import LineChat.Proofs.Session.Lifecycle
import LineChat.Proofs.Session.Isolation
import LineChat.Proofs.Session.Feeding
import LineChat.Proofs.Session.ListenerFault
import LineChat.Proofs.Session.Release
import LineChat.Proofs.Line.Calls
import LineChat.Proofs.Line.WholeLines
import LineChat.Proofs.Line.Refusals
import LineChat.Proofs.Line.Agreement
import LineChat.Proofs.Session.Shapes
import LineChat.Proofs.Line.ByteQueue
import LineChat.Proofs.Text.Decimal
import LineChat.Proofs.Text.Outline
import LineChat.Proofs.Text.JsonReading
import LineChat.Proofs.Command.DurationTexts
import LineChat.Proofs.Command.Printing
import LineChat.Proofs.Address.Reading
import LineChat.Proofs.Address.Targets
import LineChat.Proofs.Line.Growth
import LineChat.Proofs.Session.Interests
