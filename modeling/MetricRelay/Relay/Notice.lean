import MetricRelay.Log.Level

namespace MetricRelay.Relay

inductive Notice
  | signalled
  | linkOpened
  | linkDown
  | senderReady
  | probeStopped
  | writeFailed
  | bufferDelivered
  | bufferFull
  | batchIncomplete
  | batchAborted
  | connecting
  | dialling
  | posting
  | postRefused
  | batchFailed
  | stopped
  | fileSkipped
  | linesRestored
  | fileStored
  | linesSpooled
  | spoolFailed
  | linesLost
  deriving DecidableEq, Repr

namespace Notice

def level : Notice → LogLevel
  | signalled => .info
  | linkOpened => .info
  | linkDown => .info
  | senderReady => .info
  | probeStopped => .debug
  | writeFailed => .warn
  | bufferDelivered => .info
  | bufferFull => .warn
  | batchIncomplete => .debug
  | batchAborted => .warn
  | connecting => .debug
  | dialling => .debug
  | posting => .debug
  | postRefused => .warn
  | batchFailed => .warn
  | stopped => .warn
  | fileSkipped => .warn
  | linesRestored => .info
  | fileStored => .debug
  | linesSpooled => .info
  | spoolFailed => .error
  | linesLost => .warn

def target : Notice → String
  | signalled => "tsd_client::app::shutdown"
  | linkOpened => "tsd_client::sender::transport"
  | linkDown => "tsd_client::sender::tracker"
  | senderReady => "tsd_client::sender::plain"
  | probeStopped => "tsd_client::sender::plain"
  | writeFailed => "tsd_client::sender::plain"
  | bufferDelivered => "tsd_client::sender::plain"
  | bufferFull => "tsd_client::buffer::queue"
  | batchIncomplete => "tsd_client::sender::batch"
  | batchAborted => "tsd_client::sender::batch"
  | connecting => "reqwest::connect"
  | dialling => "hyper_util::client::legacy::connect::http"
  | posting => "tsd_client::sender::http"
  | postRefused => "tsd_client::sender::http"
  | batchFailed => "tsd_client::app"
  | stopped => "tsd_client::app"
  | fileSkipped => "tsd_client::reliability::disk"
  | linesRestored => "tsd_client::reliability::disk"
  | fileStored => "tsd_client::reliability::disk"
  | linesSpooled => "tsd_client::app"
  | spoolFailed => "tsd_client::app"
  | linesLost => "tsd_client::app"

def text : Notice → String
  | signalled => "Received a signal, shutting down"
  | linkOpened => "Connected to ingestion port"
  | linkDown => "Ingestion connection is DOWN"
  | senderReady => "Plain command sender connected"
  | probeStopped => "Connection probe stopped"
  | writeFailed => "A write failed, buffering command"
  | bufferDelivered => "Delivered buffered commands"
  | bufferFull => "Command buffer full"
  | batchIncomplete => "A batch finished with unsent commands"
  | batchAborted => "Batch aborted"
  | connecting => "starting new connection"
  | dialling => "connecting to the server"
  | posting => "Posting commands"
  | postRefused => "Command post failed"
  | batchFailed => "An HTTP batch failed"
  | stopped => "Stopping after an undelivered command"
  | fileSkipped => "Skipping unreadable spool file"
  | linesRestored => "Restored spooled commands"
  | fileStored => "Stored a spool file"
  | linesSpooled => "Spooled undelivered commands"
  | spoolFailed => "Failed to spool undelivered commands"
  | linesLost => "Commands were not delivered and no spool is configured"

end Notice

end MetricRelay.Relay
