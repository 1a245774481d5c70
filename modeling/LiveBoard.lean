import LiveBoard.Backoff.Jitter
import LiveBoard.Board.Listener
import LiveBoard.CommandLine.Run
import LiveBoard.Connection.Machine
import LiveBoard.Main
import LiveBoard.Message.Wire
import LiveBoard.Proofs.Board.Distinct
import LiveBoard.Proofs.Board.Amend
import LiveBoard.Proofs.Board.Reading
import LiveBoard.Proofs.Board.Replay
import LiveBoard.Proofs.Board.Blur
import LiveBoard.Proofs.Connection.Step
import LiveBoard.Proofs.Connection.Ledger
import LiveBoard.Proofs.Connection.Coherent
import LiveBoard.Proofs.Json.Scan
import LiveBoard.Proofs.Json.Tree
import LiveBoard.Proofs.Json.Record
import LiveBoard.Proofs.Message.RoundTrip
import LiveBoard.Proofs.Relay.Operation
import LiveBoard.Proofs.Relay.Mailbox
import LiveBoard.Proofs.Relay.History
import LiveBoard.Proofs.Relay.Socket
import LiveBoard.Proofs.Relay.LockStep
import LiveBoard.Proofs.Relay.Lag
import LiveBoard.Proofs.Session.Agreement
import LiveBoard.Proofs.Session.Step
import LiveBoard.Proofs.Session.World
import LiveBoard.Proofs.Session.Convergence
import LiveBoard.Settings.Wire
import LiveBoard.Url.Parser
import LiveBoard.Proofs.Board.Change
import LiveBoard.Proofs.Board.Reachable
import LiveBoard.Proofs.Connection.Epoch
import LiveBoard.Proofs.Decimal.Finite
import LiveBoard.Proofs.Json.Numeral
import LiveBoard.Proofs.Json.Canonical
import LiveBoard.Proofs.Message.Received
import LiveBoard.Proofs.Backoff.Delay
import LiveBoard.Proofs.Connection.Outage
import LiveBoard.Proofs.Connection.Rejection
import LiveBoard.Proofs.Relay.Published
import LiveBoard.Proofs.Text.Utf8
import LiveBoard.Proofs.Url.Percent
import LiveBoard.Proofs.Url.Segment
import LiveBoard.Proofs.Settings.Addresses
import LiveBoard.Proofs.Relay.Call
import LiveBoard.Proofs.Relay.Request
import LiveBoard.Proofs.Relay.Stranger
import LiveBoard.Proofs.Url.Parser
import LiveBoard.Proofs.Url.Slash
import LiveBoard.Proofs.Settings.Agreement
import LiveBoard.Proofs.Relay.Visit
import LiveBoard.Proofs.Connection.Slots
import LiveBoard.Proofs.Session.Request
import LiveBoard.Proofs.Json.Spell
import LiveBoard.Proofs.Json.Gap
import LiveBoard.Proofs.Json.Readable
import LiveBoard.Proofs.Json.Reading
import LiveBoard.Proofs.Json.Order
import LiveBoard.Proofs.Json.Form
import LiveBoard.Proofs.Json.Respell
import LiveBoard.Proofs.Message.Compatible
import LiveBoard.Proofs.Message.Tagged
import LiveBoard.Proofs.Board.Watch
import LiveBoard.Proofs.Connection.Ending
import LiveBoard.Proofs.Url.Form
import LiveBoard.Proofs.Url.Target
import LiveBoard.Proofs.Url.Authority
import LiveBoard.Proofs.Relay.Token
import LiveBoard.Proofs.Connection.Path
import LiveBoard.Proofs.Board.Suggestions
import LiveBoard.Proofs.Task.Patch
import LiveBoard.Proofs.Relay.Guest
import LiveBoard.Proofs.Session.Link
import LiveBoard.Proofs.CommandLine.Move
import LiveBoard.Proofs.Connection.Saturation
import LiveBoard.Proofs.Connection.Forecast
import LiveBoard.Proofs.Board.Independence
import LiveBoard.Proofs.Board.Redelivery
import LiveBoard.Proofs.Task.Lookup
import LiveBoard.Proofs.Settings.Token
import LiveBoard.Proofs.Decimal.Unsigned
import LiveBoard.Proofs.Backoff.Doubling
import LiveBoard.Proofs.Backoff.Jitter
import LiveBoard.Proofs.Relay.Admission
import LiveBoard.Proofs.Settings.Timing
import LiveBoard.Proofs.Board.FirstOfEach
import LiveBoard.Proofs.Board.Columns
import LiveBoard.Proofs.Text.Table
import LiveBoard.Proofs.Text.Width
import LiveBoard.Proofs.Terminal.Cell
import LiveBoard.Proofs.Toml.Quoted
import LiveBoard.Proofs.Toml.Numeral
import LiveBoard.Proofs.Toml.Document
import LiveBoard.Proofs.Toml.Bounded
import LiveBoard.Proofs.Settings.Written
import LiveBoard.Proofs.CommandLine.Show
