import MetricRelay.Sender.Step
import MetricRelay.Transport.Scripted

namespace MetricRelay

structure Timeline where
  sender : Sender
  wire : Wire
  clock : Nat
  nextTick : Nat
  answerAt : Nat

namespace Timeline

def new (sender : Sender) (wire : Wire) : Timeline :=
  { sender, wire, clock := 0, nextTick := sender.tracker.checkPeriod, answerAt := 0 }

def noteRequests (t : Timeline) (effects : List Effect) : Timeline :=
  effects.foldl
    (fun t e =>
      match e with
      | .asked _ p =>
        { t with wire := t.wire.noteRequest p.request, answerAt := t.clock + t.wire.delay p.request }
      | _ => t)
    t

def apply (t : Timeline) (e : Event) : Timeline × List Effect :=
  match t.sender.step e with
  | none => (t, [])
  | some (sender, effects) => (noteRequests { t with sender } effects, effects)

/-- A tick later than this has missed its moment, and the next one counts from it. -/
def tickTolerance : Nat := 5

def tick (t : Timeline) : Timeline × List Effect :=
  let period := t.sender.tracker.checkPeriod
  let nextTick :=
    if t.nextTick + tickTolerance < t.clock then t.clock + period else t.nextTick + period
  apply { t with nextTick } (.start (.tick 0))

def isTicking (t : Timeline) : Bool := t.sender.background.isNone && !t.sender.closed

def turn? (t : Timeline) : Option (Timeline × List Effect) :=
  match t.sender.holder with
  | some (_, phase) =>
    if t.answerAt ≤ t.clock then
      let (reply, wire) := t.wire.answer phase.request
      some (apply { t with wire } (.reply reply))
    else none
  | none =>
    if !t.sender.queue.isEmpty then some (t.apply .grant)
    else if t.sender.retiring.isSome && t.sender.background.isNone then some (t.apply .retire)
    else none

def nextMoment? (t : Timeline) : Option Nat :=
  let answer := if t.sender.holder.isSome then some t.answerAt else none
  let tick := if t.isTicking then some t.nextTick else none
  match answer, tick with
  | some a, some b => some (min a b)
  | some a, none => some a
  | none, b => b

/-- One thing done, or time passed up to the next thing; `none` if that is not before `limit`. -/
def advance? (t : Timeline) (limit : Option Nat) : Option (Timeline × List Effect) :=
  match t.turn? with
  | some r => some r
  | none =>
    if t.isTicking && t.nextTick ≤ t.clock then some t.tick
    else
      match t.nextMoment? with
      | none => none
      | some moment =>
        if limit.all (moment < ·) then some ({ t with clock := max t.clock moment }, []) else none

def runUntil :
    Nat → List CallId → Timeline → List (CallId × Answer) → List (CallId × Answer) × Timeline
  | 0, _, t, answers => (answers, t)
  | fuel + 1, ids, t, answers =>
    if ids.all fun id => answers.any (·.1 == id) then (answers, t)
    else
      match t.advance? none with
      | none => (answers, t)
      | some (t, effects) =>
        runUntil fuel ids t (answers ++ effects.filterMap fun
          | .returned id a => some (id, a)
          | _ => none)

def patience (t : Timeline) (calls : Nat) : Nat :=
  let calls := calls + t.sender.queue.length + 4
  8 * calls * (t.sender.buffer.size + calls)

def call (t : Timeline) (ops : List Op) : List Answer × Timeline :=
  let first := t.sender.nextId
  let start := fun (s : Timeline × List Effect) op =>
    let (t, effects) := s.1.apply (.start op)
    (t, s.2 ++ effects)
  let (t, effects) := ops.foldl start (t, [])
  let answers := effects.filterMap fun
    | .returned id a => some (id, a)
    | _ => none
  let ids := List.range' first ops.length
  let (answers, t) := runUntil (t.patience ops.length) ids t answers
  (ids.filterMap fun id => answers.lookup id, t)

def waitUntil : Nat → Nat → Timeline → Timeline
  | 0, limit, t => { t with clock := limit }
  | fuel + 1, limit, t =>
    match t.advance? (some limit) with
    | some (t, _) => waitUntil fuel limit t
    | none => { t with clock := limit }

def wait (t : Timeline) (ms : Nat) : Timeline :=
  let ticks := ms / max 1 t.sender.tracker.checkPeriod + 2
  waitUntil (t.patience ticks) (t.clock + ms) t

end Timeline

end MetricRelay
