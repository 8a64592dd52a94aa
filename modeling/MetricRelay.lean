import MetricRelay.Buffer
import MetricRelay.Command
import MetricRelay.Command.Line
import MetricRelay.Config.Arguments
import MetricRelay.Config.Basic
import MetricRelay.Config.Environment
import MetricRelay.Config.File
import MetricRelay.Config.Setting
import MetricRelay.Decimal.Binary64
import MetricRelay.Decimal.Positional
import MetricRelay.Decimal.Shortest
import MetricRelay.Deque
import MetricRelay.Disk
import MetricRelay.Gzip.Bits
import MetricRelay.Gzip.Deflate
import MetricRelay.Gzip.Huffman
import MetricRelay.Gzip.Inflate
import MetricRelay.Gzip.Member
import MetricRelay.Http.Client
import MetricRelay.Http.Message
import MetricRelay.Http.Scripted
import MetricRelay.Http.Status
import MetricRelay.LittleEndian
import MetricRelay.Live.Files
import MetricRelay.Live.Input
import MetricRelay.Live.Rehearsal
import MetricRelay.Live.Sockets
import MetricRelay.Log.Directive
import MetricRelay.Log.Filter
import MetricRelay.Log.Level
import MetricRelay.Log.Message
import MetricRelay.Main
import MetricRelay.OrderedMap
import MetricRelay.Pattern.Basic
import MetricRelay.Pattern.Class
import MetricRelay.Pattern.Mode
import MetricRelay.Program
import MetricRelay.Proofs.Buffer
import MetricRelay.Proofs.Buffer.Peak
import MetricRelay.Proofs.Buffer.Refinement
import MetricRelay.Proofs.Command.Ending
import MetricRelay.Proofs.Command.Names
import MetricRelay.Proofs.Command.Reading
import MetricRelay.Proofs.Command.Values
import MetricRelay.Proofs.Config.Accepted
import MetricRelay.Proofs.Config.Limit
import MetricRelay.Proofs.Config.Value
import MetricRelay.Proofs.Config.Variables
import MetricRelay.Proofs.Decimal.Nearest
import MetricRelay.Proofs.Decimal.Positional
import MetricRelay.Proofs.Decimal.RoundTrip
import MetricRelay.Proofs.Decimal.Shortest
import MetricRelay.Proofs.Decimal.Written
import MetricRelay.Proofs.Gzip.Bits
import MetricRelay.Proofs.Gzip.Codes
import MetricRelay.Proofs.Gzip.Deflate
import MetricRelay.Proofs.Gzip.Member
import MetricRelay.Proofs.Http.Calls
import MetricRelay.Proofs.Http.Client
import MetricRelay.Proofs.Http.Recorded
import MetricRelay.Proofs.Mount
import MetricRelay.Proofs.OrderedMap
import MetricRelay.Proofs.Relay.Agreement
import MetricRelay.Proofs.Relay.Carrier
import MetricRelay.Proofs.Relay.FailFast
import MetricRelay.Proofs.Relay.Forwarding
import MetricRelay.Proofs.Relay.Handed
import MetricRelay.Proofs.Relay.History
import MetricRelay.Proofs.Relay.InLine
import MetricRelay.Proofs.Relay.Input
import MetricRelay.Proofs.Relay.Keeping
import MetricRelay.Proofs.Relay.Plain
import MetricRelay.Proofs.Relay.Posted
import MetricRelay.Proofs.Relay.Posting
import MetricRelay.Proofs.Relay.Posts
import MetricRelay.Proofs.Relay.Replay
import MetricRelay.Proofs.Relay.Run
import MetricRelay.Proofs.Relay.Smooth
import MetricRelay.Proofs.Relay.Unfailing
import MetricRelay.Proofs.Relay.Way
import MetricRelay.Proofs.Sender.Advance
import MetricRelay.Proofs.Sender.Attended
import MetricRelay.Proofs.Sender.Batch
import MetricRelay.Proofs.Sender.Books
import MetricRelay.Proofs.Sender.Calls
import MetricRelay.Proofs.Sender.Closing
import MetricRelay.Proofs.Sender.Conservation
import MetricRelay.Proofs.Sender.Counters
import MetricRelay.Proofs.Sender.Crowd
import MetricRelay.Proofs.Sender.Drain
import MetricRelay.Proofs.Sender.Flow
import MetricRelay.Proofs.Sender.InTurn
import MetricRelay.Proofs.Sender.LastWrite
import MetricRelay.Proofs.Sender.Ledger
import MetricRelay.Proofs.Sender.Order
import MetricRelay.Proofs.Sender.Pending
import MetricRelay.Proofs.Sender.Placement
import MetricRelay.Proofs.Sender.Probe
import MetricRelay.Proofs.Sender.Progress
import MetricRelay.Proofs.Sender.Readiness
import MetricRelay.Proofs.Sender.Report
import MetricRelay.Proofs.Sender.Returns
import MetricRelay.Proofs.Sender.Session
import MetricRelay.Proofs.Sender.Smooth
import MetricRelay.Proofs.Sender.Storage
import MetricRelay.Proofs.Sender.Taken
import MetricRelay.Proofs.Sender.Usable
import MetricRelay.Proofs.Sender.Writes
import MetricRelay.Proofs.Spool
import MetricRelay.Proofs.Spool.Acts
import MetricRelay.Proofs.Spool.Deposits
import MetricRelay.Proofs.Spool.Expiry
import MetricRelay.Proofs.Spool.Folder
import MetricRelay.Proofs.Spool.Record
import MetricRelay.Proofs.Spool.Restore
import MetricRelay.Proofs.Spool.Sole
import MetricRelay.Proofs.Spool.Stamp
import MetricRelay.Proofs.Spool.Usage
import MetricRelay.Proofs.Text.Lines
import MetricRelay.Proofs.Text.Quoted
import MetricRelay.Proofs.Text.Utf8
import MetricRelay.Proofs.Transport.Carried
import MetricRelay.Proofs.Transport.Recorded
import MetricRelay.Relay.Basic
import MetricRelay.Relay.Carrier
import MetricRelay.Relay.Input
import MetricRelay.Relay.Notice
import MetricRelay.Relay.Plain
import MetricRelay.Relay.Posting
import MetricRelay.Relay.Run
import MetricRelay.Relay.Way
import MetricRelay.Result
import MetricRelay.Sender.Basic
import MetricRelay.Sender.Batch
import MetricRelay.Sender.Crowd
import MetricRelay.Sender.Session
import MetricRelay.Sender.Step
import MetricRelay.Sender.Timeline
import MetricRelay.Severity
import MetricRelay.Spool.Folder
import MetricRelay.Spool.Mount
import MetricRelay.Spool.Record
import MetricRelay.Spool.Spool
import MetricRelay.Text.CharSet
import MetricRelay.Text.Composite
import MetricRelay.Text.Digits
import MetricRelay.Text.Direction
import MetricRelay.Text.Joining
import MetricRelay.Text.Letter
import MetricRelay.Text.Lines
import MetricRelay.Text.Mark
import MetricRelay.Text.Normal
import MetricRelay.Text.Quoted
import MetricRelay.Text.Utf8
import MetricRelay.Toml.Parse
import MetricRelay.Toml.Scalar
import MetricRelay.Toml.Text
import MetricRelay.Toml.Value
import MetricRelay.Toml.Write
import MetricRelay.Tracker
import MetricRelay.Transport
import MetricRelay.Transport.Peer
import MetricRelay.Transport.Scripted
import MetricRelay.Transport.Tcp
import MetricRelay.Url.Address
import MetricRelay.Url.Domain
import MetricRelay.Url.Domain.Alphabet
import MetricRelay.Url.Domain.Label
import MetricRelay.Url.Domain.Mapping
import MetricRelay.Url.Parse
import MetricRelay.Url.Percent
import MetricRelay.Url.Punycode
