import MetricRelay.Buffer
import MetricRelay.Text.Lines
import MetricRelay.Tracker
import MetricRelay.Transport

/-!
A sender of lines over one transport. Many calls may be under way; one at a time holds the
transport, the others wait for it in the order in which they came.
-/
namespace MetricRelay

/-- Times are in milliseconds. -/
structure SenderConfig where
  checkPeriod : Nat
  capacity : Nat
  policy : OverflowPolicy
  maxPending : Nat
  deriving DecidableEq, Repr

def SenderConfig.default : SenderConfig := ⟨5000, 10000, .dropOldest, 1024⟩

inductive SenderError
  | initialConnect (endpoint : String) (fault : TransportFault)
  | zeroCheckPeriod
  | zeroMaxPending
  | noRuntime
  | buffer (cause : BufferError)
  deriving DecidableEq, Repr

def SenderError.message (text : IoFault → String) : SenderError → String
  | initialConnect endpoint fault =>
    s!"Initial connection to {endpoint} failed: {fault.message text}"
  | zeroCheckPeriod => "Invalid sender configuration: check_period must be greater than zero"
  | zeroMaxPending => "Invalid sender configuration: max_pending_writes must be greater than zero"
  | noRuntime => "No Tokio runtime available to run the connection probe"
  | buffer cause => s!"Buffer error: {cause.message}"

def SenderConfig.validate (c : SenderConfig) : Except SenderError Unit :=
  if c.checkPeriod = 0 then .error .zeroCheckPeriod
  else if c.maxPending = 0 then .error .zeroMaxPending
  else .ok ()

inductive Outcome
  | sent
  | buffered
  | rejected
  deriving DecidableEq, Repr

def Outcome.name : Outcome → String
  | sent => "Sent"
  | buffered => "Buffered"
  | rejected => "Rejected"

structure DrainReport where
  written : Nat
  remaining : Nat
  interrupted : Bool
  deriving DecidableEq, Repr

/-- Counters of a sender. `sent` counts the lines written by the call that brought them, `drained`
those written from the buffer. -/
structure Stats where
  sent : Nat
  bytesSent : Nat
  buffered : Nat
  dropped : Nat
  rejected : Nat
  drained : Nat
  writeFailures : Nat
  probes : Nat
  reconnects : Nat
  wrote : Bool
  deriving DecidableEq, Repr

def Stats.zero : Stats := ⟨0, 0, 0, 0, 0, 0, 0, 0, 0, false⟩

abbrev CallId := Nat

inductive Errand
  | send (line : String)
  | drain
  | probe
  deriving DecidableEq, Repr

inductive Job
  | run (errand : Errand)
  | close
  deriving DecidableEq, Repr

inductive Phase
  /-- Writing a line from the buffer, `written` others having been written before it. -/
  | draining (errand : Errand) (line : String) (written : Nat)
  | writing (line : String)
  | checking
  | connecting
  | closing
  deriving DecidableEq, Repr

def Phase.request : Phase → Request
  | draining _ line _ => .write line
  | writing line => .write line
  | checking => .check
  | connecting => .connect
  | closing => .shutdown

inductive Answer
  | outcome (o : Outcome)
  | drained (r : DrainReport)
  | probed (s : LinkState)
  | closed
  deriving DecidableEq, Repr

structure Sender where
  tracker : Tracker
  buffer : Buffer
  stats : Stats
  closed : Bool
  /-- Whether the transport is connected, as of its last reply. -/
  connected : Bool
  holder : Option (CallId × Phase)
  queue : List (CallId × Job)
  background : Option CallId
  /-- The first call to close, while it waits for the background probe to end. -/
  retiring : Option CallId
  /-- Pending writes counted for callers outside. -/
  guards : Nat
  nextId : CallId

namespace Sender

def build (config : SenderConfig) (state : LinkState) (connected : Bool) :
    Except SenderError Sender :=
  match Buffer.create config.capacity config.policy with
  | .error e => .error (.buffer e)
  | .ok buffer =>
    .ok {
      tracker := .new config.checkPeriod config.maxPending state
      buffer
      stats := .zero
      closed := false
      connected
      holder := none
      queue := []
      background := none
      retiring := none
      guards := 0
      nextId := 0 }

def startDisconnected (config : SenderConfig) (hasRuntime : Bool) : Except SenderError Sender := do
  config.validate
  if !hasRuntime then throw .noRuntime
  build config .down false

def startConnected (config : SenderConfig) (endpoint : String) (reply : Reply) :
    Except SenderError Sender := do
  config.validate
  if let some fault := reply.fault then throw (.initialConnect endpoint fault)
  let s ← build config .up reply.connected
  return { s with tracker := s.tracker.markUp.2 }

def state (s : Sender) : LinkState := s.tracker.state

def canSend (s : Sender) : Bool := s.tracker.canSend

def isIdle (s : Sender) : Bool := s.holder.isNone && s.queue.isEmpty && s.retiring.isNone

end Sender

end MetricRelay
