import MetricRelay.Live.Rehearsal
import Std.Async.Signal
import Std.Async.Timer
import Std.Sync.Channel

namespace MetricRelay.Live

open Relay Std.Async

inductive News
  /-- A line with its end, or what comes last. There is no more if it is empty. -/
  | input (b : Bytes)
  | stop
  | tick

structure Intake where
  begun : Bytes
  arrivals : List (Arrival (Tcp Rehearsal))
  closed : Bool

partial def readLine (stream : IO.FS.Stream) (line : ByteArray) : IO ByteArray := do
  let b ← stream.read 1
  if b.isEmpty then return line
  let line := line ++ b
  if b.data.contains lineFeed then return line else readLine stream line

partial def readAll (stream : IO.FS.Stream) (lines : Std.Channel Bytes) : IO Unit := do
  let line ← readLine stream .empty
  let _ ← IO.wait (← lines.send line.toList)
  if line.isEmpty then return else readAll stream lines

def atEnd {α : Type} (work : AsyncTask α) (news : News) : Task News :=
  (ExceptT.run work).map fun _ => news

structure Waiting where
  lines : Std.Channel Bytes
  next : IO.Ref (Option (Task Bytes))
  signals : List (Task News)
  tickAt : IO.Ref Nat
  period : Nat

namespace Waiting

def new (period : Nat) : IO Waiting := do
  let lines ← Std.Channel.new (some 1024)
  let stream ← IO.getStdin
  let _ ← IO.asTask (readAll stream lines) Task.Priority.dedicated
  let signals ← [Signal.sigint, Signal.sigterm].mapM fun signal => do
    let waiter ← Signal.Waiter.mk signal false
    return atEnd (← waiter.wait) .stop
  return ⟨lines, ← IO.mkRef none, signals, ← IO.mkRef ((← IO.monoMsNow) + period), period⟩

def news (w : Waiting) : IO News := do
  let now ← IO.monoMsNow
  let tickAt ← w.tickAt.get
  if tickAt ≤ now then
    w.tickAt.set (now + w.period)
    return .tick
  let next ←
    match ← w.next.get with
    | some next => pure next
    | none => w.lines.recv
  w.next.set (some next)
  let timer ← (sleep (Std.Time.Millisecond.Offset.ofNat (tickAt - now))).toIO
  let news ← IO.waitAny (next.map .input :: atEnd timer .tick :: w.signals) (Nat.zero_lt_succ _)
  match news with
  | .input _ => w.next.set none
  | .tick => w.tickAt.set ((← IO.monoMsNow) + w.period)
  | .stop => pure ()
  return news

end Waiting

namespace Intake

def add (i : Intake) : News → Intake
  | .input [] => ⟨[], i.arrivals ++ Ending.eof.arrivals i.begun, true⟩
  | .input b =>
    let (lines, begun) := cutLines [] i.begun b
    { i with
      begun
      arrivals := i.arrivals ++ lines.map fun line => .ofBytes (dropReturn line) }
  | .stop => ⟨[], [.stop], true⟩
  | .tick => i

end Intake

end MetricRelay.Live
