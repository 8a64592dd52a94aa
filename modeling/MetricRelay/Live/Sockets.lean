import MetricRelay.Http.Message
import MetricRelay.Live.Rehearsal
import Std.Async.DNS
import Std.Async.TCP
import Std.Async.Timer

namespace MetricRelay.Live

open Std.Async Std.Net

structure Sockets where
  config : TcpConfig
  /-- How long an exchange with a server may take, in milliseconds. -/
  patience : Nat
  link : IO.Ref (Option TCP.Socket.Client)
  lastDeed : IO.Ref Nat

def within {α : Type} (ms : Nat) (work : Async α) : IO (Option α) := do
  let result ← (do return some (← work) : Async (Option α)).toIO
  let timer ← (do
    sleep (Std.Time.Millisecond.Offset.ofNat ms)
    return none : Async (Option α)).toIO
  IO.ofExcept (← IO.waitAny [result, timer])

def socketAddress (port : Nat) : IPAddr → SocketAddress
  | .v4 addr => .v4 ⟨addr, UInt16.ofNat port⟩
  | .v6 addr => .v6 ⟨addr, UInt16.ofNat port⟩

def dial (host : String) (port : Nat) : Async TCP.Socket.Client := do
  let mut failure := IO.userError "no address"
  for address in ← DNS.getAddrInfo host (toString port) do
    let socket ← TCP.Socket.Client.mk
    try
      socket.connect (socketAddress port address)
      return socket
    catch e => failure := e
  throw failure

partial def receiveAll (socket : TCP.Socket.Client) (data : ByteArray) : Async ByteArray := do
  match ← socket.recv? 65536 with
  | some more => receiveAll socket (data ++ more)
  | none => return data

namespace Sockets

def new (c : Config) : IO Sockets :=
  return ⟨c.tcp, c.http.timeout, ← IO.mkRef none, ← IO.mkRef (← IO.monoMsNow)⟩

def connect (n : Sockets) : IO Upshot := do
  try
    match ← within n.config.connectTimeout (dial n.config.host n.config.port) with
    | none => return .timedOut
    | some socket =>
      try
        if n.config.nodelay then socket.noDelay
      catch _ => return .unset .invalidData
      n.link.set (some socket)
      return .well
  catch _ => return .failed .connectionRefused

def put (n : Sockets) (text : String) : IO Upshot := do
  match ← n.link.get with
  | none => return .failed .brokenPipe
  | some socket =>
    try
      match ← within n.config.writeTimeout (socket.send text.toUTF8) with
      | none => return .timedOut
      | some () => return .well
    catch _ => return .failed .connectionReset

def poll (n : Sockets) : IO Upshot := do
  match ← n.link.get with
  | none => return .ended
  | some socket =>
    try
      match ← (socket.recvSelector 256).tryFn.block with
      | none => return .well
      | some none => return .ended
      | some (some _) => return .data
    catch _ => return .failed .connectionReset

def close (n : Sockets) : IO Upshot := do
  match ← n.link.get with
  | none => return .well
  | some socket =>
    n.link.set none
    try
      socket.shutdown.block
      return .well
    catch _ => return .well

def exchange (n : Sockets) (r : Http.Request) : IO Upshot := do
  if String.ofList r.url.scheme != "http" then return .answered .broken
  try
    let answer ← within n.patience do
      let socket ← dial r.host r.port
      socket.send r.text.toUTF8
      receiveAll socket .empty
    match answer with
    | none => return .answered .timeout
    | some data => return .answered (Http.Answer.ofBytes data.toList)
  catch _ => return .answered .broken

def perform (n : Sockets) (d : Deed) : IO Upshot := do
  let upshot ←
    match d with
    | .connect => n.connect
    | .put text => n.put text
    | .poll => n.poll
    | .close => n.close
    | .exchange r => n.exchange r
  n.lastDeed.set (← IO.monoMsNow)
  return upshot

/-- Does what `f` would do, for as long as everything comes out as `f` took it to. -/
partial def run {α : Type} (n : Sockets) (f : Rehearsal → α × Rehearsal)
    (known : List Upshot) : IO α := do
  let (result, deeds) := Rehearsal.plan f known
  let mut upshots := known.reverse
  for d in deeds do
    let upshot ← n.perform d
    upshots := upshot :: upshots
    if upshot ≠ d.guess then return ← n.run f upshots.reverse
  return result

end Sockets

end MetricRelay.Live
