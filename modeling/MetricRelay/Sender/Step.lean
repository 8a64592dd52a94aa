import MetricRelay.Sender.Basic

/-!
One step of a sender: a call comes in and runs to its first wait, the transport replies to the call
that holds it, or the first call in the queue is given the transport. Between two steps any other
call may come in.
-/
namespace MetricRelay

inductive Op
  | send (line : String)
  | drain
  | probe
  /-- The background task wakes up; the last check lies `elapsed` back. -/
  | tick (elapsed : Nat)
  | close
  deriving DecidableEq, Repr

inductive Event
  | start (op : Op)
  | reply (r : Reply)
  | grant
  /-- The call to close goes on when the background probe has ended. -/
  | retire
  | take
  | markUp
  | markDown
  | hold
  | release
  deriving DecidableEq, Repr

inductive Effect
  | asked (id : CallId) (p : Phase)
  | accepted (line : String)
  /-- The line came out of the buffer, could not be written, and is the first in it again. -/
  | requeued (line : String)
  | discarded (line : String)
  | refused (line : String)
  | took (lines : List String)
  | marked (changed : Bool)
  | returned (id : CallId) (a : Answer)
  deriving DecidableEq, Repr

namespace Sender

def markUp (s : Sender) : Sender := { s with tracker := s.tracker.markUp.2 }

def markDown (s : Sender) : Sender := { s with tracker := s.tracker.markDown.2 }

def keep (s : Sender) (line : String) : Outcome × Sender × List Effect :=
  let (outcome, buffer) := s.buffer.push line
  let s := { s with buffer }
  let stats := s.stats
  match outcome with
  | .queued => (.buffered, { s with stats := { stats with buffered := stats.buffered + 1 } }, [])
  | .queuedAfterDrop oldest =>
    (.buffered,
      { s with
        stats := { stats with buffered := stats.buffered + 1, dropped := stats.dropped + 1 } },
      [.discarded oldest])
  | .refused _ =>
    (.rejected, { s with stats := { stats with rejected := stats.rejected + 1 } }, [.refused line])

def ask (s : Sender) (id : CallId) (p : Phase) : Sender × List Effect :=
  ({ s with holder := some (id, p) }, [.asked id p])

def finish (s : Sender) (id : CallId) (a : Answer) : Sender × List Effect :=
  ({ s with
    holder := none
    background := if s.background = some id then none else s.background },
    [.returned id a])

def finishSend (s : Sender) (id : CallId) (o : Outcome) : Sender × List Effect :=
  finish { s with tracker := s.tracker.endWrite } id (.outcome o)

def keepAndFinish (s : Sender) (id : CallId) (line : String) : Sender × List Effect :=
  let (outcome, s, effects) := s.keep line
  let (s, effects') := s.finishSend id outcome
  (s, effects ++ effects')

/-- Counts the lines of a drain that is over. Lines written to its end show that the link is up. -/
def countDrained (s : Sender) (written : Nat) (interrupted : Bool) : Sender :=
  let s := { s with stats := { s.stats with drained := s.stats.drained + written } }
  if 0 < written && !interrupted then s.markUp else s

def endDrain (s : Sender) (id : CallId) (errand : Errand) (written : Nat) (interrupted : Bool) :
    Sender × List Effect :=
  let s := s.countDrained written interrupted
  match errand with
  | .send line => if interrupted then s.keepAndFinish id line else s.ask id (.writing line)
  | .drain => s.finish id (.drained ⟨written, s.buffer.size, interrupted⟩)
  | .probe => s.finish id (.probed s.state)

def pump (s : Sender) (id : CallId) (errand : Errand) (written : Nat) : Sender × List Effect :=
  match s.buffer.pop? with
  | some (line, buffer) => ask { s with buffer } id (.draining errand line written)
  | none => s.endDrain id errand written false

def enter (s : Sender) (id : CallId) : Job → Sender × List Effect
  | .run (.send line) =>
    if s.closed || !s.tracker.isUp then s.keepAndFinish id line
    else if s.buffer.isEmpty then s.ask id (.writing line)
    else s.pump id (.send line) 0
  | .run .drain => s.pump id .drain 0
  | .run .probe =>
    if s.closed then s.finish id (.probed s.state)
    else
      let s := { s with stats := { s.stats with probes := s.stats.probes + 1 } }
      s.ask id (if s.connected then .checking else .connecting)
  | .close => s.ask id .closing

def arrive (s : Sender) (id : CallId) (job : Job) : Sender × List Effect :=
  if s.holder.isNone && s.queue.isEmpty then s.enter id job
  else ({ s with queue := s.queue ++ [(id, job)] }, [])

def recover (s : Sender) (id : CallId) : Sender × List Effect :=
  let (changed, tracker) := s.tracker.markUp
  let reconnects := if changed then s.stats.reconnects + 1 else s.stats.reconnects
  let s := { s with tracker, stats := { s.stats with reconnects } }
  if s.buffer.isEmpty then s.finish id (.probed s.state) else s.pump id .probe 0

def countWriteFailure (s : Sender) : Sender :=
  { s with stats := { s.stats with writeFailures := s.stats.writeFailures + 1 } }

def countSent (s : Sender) (line : String) : Sender :=
  { s with
    stats := { s.stats with
      sent := s.stats.sent + 1
      bytesSent := s.stats.bytesSent + line.utf8ByteSize
      wrote := true } }

def succeed (s : Sender) (id : CallId) : Phase → Sender × List Effect
  | .draining errand line written =>
    let (s, effects) := s.pump id errand (written + 1)
    (s, .accepted line :: effects)
  | .writing line =>
    let (s, effects) := (s.markUp.countSent line).finishSend id .sent
    (s, .accepted line :: effects)
  | .checking => s.recover id
  | .connecting => s.recover id
  | .closing => s.markDown.finish id .closed

def fail (s : Sender) (id : CallId) : Phase → Sender × List Effect
  | .draining errand line written =>
    let (discarded, buffer) := s.buffer.requeue line
    let s := { s with buffer }
    let (s, effects) := s.countWriteFailure.markDown.endDrain id errand written true
    (s, .requeued line :: discarded.map .discarded ++ effects)
  | .writing line => s.countWriteFailure.markDown.keepAndFinish id line
  | .checking => s.markDown.ask id .connecting
  | .connecting =>
    let s := s.markDown
    s.finish id (.probed s.state)
  | .closing => s.markDown.finish id .closed

/-- A call comes in and makes its checks. If it passes them, it wants the transport for a job. -/
def screen (s : Sender) (op : Op) : Option (CallId × Job) × Sender × List Effect :=
  let id := s.nextId
  let s := { s with nextId := id + 1 }
  match op with
  | .send line =>
    let line := terminated line
    if s.closed || !s.tracker.canSend then
      let (outcome, s, effects) := s.keep line
      (none, s, effects ++ [.returned id (.outcome outcome)])
    else (some (id, .run (.send line)), { s with tracker := s.tracker.beginWrite }, [])
  | .drain =>
    if s.closed || !s.tracker.isUp || s.buffer.isEmpty then
      (none, s, [.returned id (.drained ⟨0, s.buffer.size, false⟩)])
    else (some (id, .run .drain), s, [])
  | .probe =>
    if s.closed then (none, s, [.returned id (.probed s.state)])
    else (some (id, .run .probe), s, [])
  | .tick elapsed =>
    if s.closed || (s.tracker.isUp && !s.tracker.isCheckDue elapsed) then (none, s, [])
    else (some (id, .run .probe), { s with background := some id }, [])
  | .close =>
    if s.closed then (some (id, .close), s, [])
    else (none, { s with closed := true, retiring := some id }, [])

def start (s : Sender) (op : Op) : Sender × List Effect :=
  match s.screen op with
  | (some (id, job), admitted, _) => admitted.arrive id job
  | (none, done, effects) => (done, effects)

/-- What the event does, `none` if it cannot happen now. -/
def step (s : Sender) : Event → Option (Sender × List Effect)
  | .start (.tick elapsed) => if s.background.isSome then none else some (s.start (.tick elapsed))
  | .start op => some (s.start op)
  | .reply r =>
    match s.holder with
    | none => none
    | some (id, phase) =>
      let s := { s with connected := r.connected }
      some (if r.fault.isNone then s.succeed id phase else s.fail id phase)
  | .grant =>
    match s.holder, s.queue with
    | none, (id, job) :: queue => some (enter { s with queue } id job)
    | _, _ => none
  | .retire =>
    match s.retiring, s.background with
    | some id, none => some (arrive { s with retiring := none } id .close)
    | _, _ => none
  | .take =>
    let (lines, buffer) := s.buffer.takeAll
    some ({ s with buffer }, [.took lines])
  | .markUp =>
    let (changed, tracker) := s.tracker.markUp
    some ({ s with tracker }, [.marked changed])
  | .markDown =>
    let (changed, tracker) := s.tracker.markDown
    some ({ s with tracker }, [.marked changed])
  | .hold => some ({ s with tracker := s.tracker.beginWrite, guards := s.guards + 1 }, [])
  | .release =>
    if s.guards = 0 then none
    else some ({ s with tracker := s.tracker.endWrite, guards := s.guards - 1 }, [])

def run (s : Sender) : List Event → Option (Sender × List Effect)
  | [] => some (s, [])
  | e :: es => do
    let (s, effects) ← s.step e
    let (s, effects') ← s.run es
    return (s, effects ++ effects')

end Sender

end MetricRelay
