import MetricRelay.Transport

namespace MetricRelay

/-- Times are in milliseconds. -/
structure TcpConfig where
  host : String
  port : Nat
  connectTimeout : Nat
  writeTimeout : Nat
  nodelay : Bool
  deriving DecidableEq, Repr

def TcpConfig.default : TcpConfig := ⟨"localhost", 8081, 5000, 10000, true⟩

def TcpConfig.endpoint (c : TcpConfig) : String := s!"{c.host}:{c.port}"

inductive OpenResult
  | opened
  | unset (cause : IoFault)
  | timedOut
  | failed (cause : IoFault)
  deriving DecidableEq, Repr

/-- A write that did not end well may have put any part of the text on the connection. -/
inductive PutResult
  | done
  | timedOut
  | failed (cause : IoFault)
  deriving DecidableEq, Repr

/-- What there is to read. Data that was there is gone. -/
inductive PollResult
  | nothing
  | data
  | ended
  | failed (cause : IoFault)
  deriving DecidableEq, Repr

class Network (ν : Type) where
  connect (host : String) (port : Nat) (nodelay : Bool) : ν → OpenResult × ν
  put : String → ν → PutResult × ν
  poll : ν → PollResult × ν
  close : ν → ν

structure Tcp (ν : Type) where
  config : TcpConfig
  connected : Bool
  network : ν

namespace Tcp

variable {ν : Type}

def new (config : TcpConfig) (network : ν) : Tcp ν := ⟨config, false, network⟩

def go (t : Tcp ν) (network : ν) : Reply × Tcp ν := (⟨none, t.connected⟩, { t with network })

variable [Network ν]

def abandon (t : Tcp ν) (network : ν) (fault : TransportFault) : Reply × Tcp ν :=
  (⟨some fault, false⟩, { t with connected := false, network := Network.close network })

def shutdown (t : Tcp ν) : Tcp ν :=
  if t.connected then { t with connected := false, network := Network.close t.network } else t

def connect (t : Tcp ν) : Reply × Tcp ν :=
  let t := t.shutdown
  match Network.connect t.config.host t.config.port t.config.nodelay t.network with
  | (.opened, network) => go { t with connected := true } network
  | (.unset cause, network) => t.abandon network (.io cause)
  | (.timedOut, network) =>
    t.abandon network (.connectTimeout t.config.endpoint t.config.connectTimeout)
  | (.failed cause, network) => t.abandon network (.connectFailed t.config.endpoint cause)

def write (line : String) (t : Tcp ν) : Reply × Tcp ν :=
  if !t.connected then (⟨some .notConnected, false⟩, t)
  else
    match Network.put line t.network with
    | (.done, network) => t.go network
    | (.timedOut, network) => t.abandon network (.writeTimeout t.config.writeTimeout)
    | (.failed cause, network) => t.abandon network (.io cause)

/-- The peer never answers, so data to read means nothing, and an end or a failure that the
connection is lost. -/
def check (t : Tcp ν) : Reply × Tcp ν :=
  if !t.connected then (⟨some .notConnected, false⟩, t)
  else
    match Network.poll t.network with
    | (.nothing, network) => t.go network
    | (.data, network) => t.go network
    | (.ended, network) => t.abandon network .closed
    | (.failed cause, network) => t.abandon network (.io cause)

instance : Transport (Tcp ν) where
  serve
    | .connect, t => t.connect
    | .check, t => t.check
    | .write line, t => t.write line
    | .shutdown, t => (⟨none, false⟩, t.shutdown)

end Tcp

end MetricRelay
