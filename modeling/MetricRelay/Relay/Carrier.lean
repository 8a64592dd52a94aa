import MetricRelay.Relay.Basic
import MetricRelay.Relay.Input

/-!
A relay over a carrier, which delivers lines in its own way and tells in the end which ones it could
not deliver.
-/
namespace MetricRelay.Relay

structure Delivery where
  delivered : Nat
  undelivered : List String

class Carrier (τ κ : Type) where
  change : (τ → τ) → κ → κ
  obstacle : κ → Option Panic
  resume : List String → κ → κ
  /-- A batch of lines. False if it is to be the last one. -/
  deliver : List String → κ → Bool × κ
  finish : κ → Delivery × κ
  notices : κ → List Notice

structure Progress (κ : Type) where
  carrier : κ
  restored : Nat
  read : Nat
  ended : Bool
  stopped : Bool
  fault : Option IoFault

namespace Progress

def begin (τ : Type) {κ : Type} [Carrier τ κ] (lines : List String) (k : κ) : Progress κ :=
  ⟨Carrier.resume τ lines k, lines.length, 0, false, false, none⟩

variable {τ κ : Type} [Carrier τ κ]

/-- Hands over a batch. Only one that is empty is the last one. -/
def advance (p : Progress κ) (r : Round τ) : Progress κ :=
  let k := r.changes.foldl (fun k f => Carrier.change f k) p.carrier
  let p := { p with carrier := k, stopped := p.stopped || r.stopped }
  if r.fault.isSome then { p with ended := true, fault := r.fault }
  else if r.lines.isEmpty then { p with ended := true }
  else
    let (goOn, k) := Carrier.deliver τ r.lines k
    { p with carrier := k, read := p.read + r.lines.length, ended := !goOn }

def notices (p : Progress κ) : List Notice := if p.stopped then [.signalled] else []

def summary (p : Progress κ) (d : Delivery) : Summary :=
  { read := p.read, restored := p.restored, delivered := d.delivered, spooled := 0, lost := 0 }

end Progress

structure Ended (κ : Type) where
  result : Result Error Summary
  carrier : κ
  spool : Option Spool
  notices : List Notice

structure Reading (τ κ : Type) where
  size : Nat
  progress : Progress κ
  batch : Gathering τ
  spool : Option Spool
  notices : List Notice

namespace Reading

variable {τ κ : Type} [Carrier τ κ]

/-- A batch without room for a line is complete, and the last one. -/
def begin (size : Nat) (p : Progress κ) (spool : Option Spool) (notices : List Notice) :
    Reading τ κ :=
  let batch : Gathering τ := .new size
  let progress := if size = 0 then p.advance (batch.round none) else p
  { size, progress, batch, spool, notices }

def start (size : Nat) (k : κ) (spool : Option Spool) : Except (Ended κ) (Reading τ κ) :=
  let notices := restoreNotices spool
  match restore spool with
  | (.error e, rest) => .error ⟨.error (.spool e), k, rest, notices⟩
  | (.panicked p, rest) => .error ⟨.panicked p, k, rest, notices⟩
  | (.ok lines, rest) =>
    match spool.bind fun _ => Carrier.obstacle τ k with
    | some p => .error ⟨.panicked p, k, rest, notices⟩
    | none =>
      let p := Progress.begin τ lines k
      if batchLimit < size then .error ⟨.panicked .capacityOverflow, p.carrier, rest, notices⟩
      else .ok (begin size p rest notices)

def take (r : Reading τ κ) (a : Arrival τ) : Reading τ κ :=
  if r.progress.ended then r
  else
    match r.batch.add a with
    | .inl batch => { r with batch }
    | .inr round => { r with progress := r.progress.advance round, batch := .new r.size }

def close (r : Reading τ κ) : Progress κ :=
  if r.progress.ended then r.progress else r.progress.advance (r.batch.round none)

def finish (stamp : Stamp) (r : Reading τ κ) : Ended κ :=
  let p := r.close
  let notices := r.notices ++ p.notices
  match p.fault with
  | some fault => ⟨.error (.input fault), p.carrier, r.spool, notices⟩
  | none =>
    let (d, k) := Carrier.finish τ p.carrier
    let (summary, spool) := keep stamp d.undelivered r.spool (p.summary d)
    ⟨.ok summary, k, spool, notices ++ Carrier.notices τ k ++ summary.notices spool⟩

end Reading

variable {τ κ : Type} [Carrier τ κ]

/-- Delivers the lines of the spool, and then those of the input in batches of `size`. -/
def relay (size : Nat) (stamp : Stamp) (input : List (Arrival τ)) (k : κ) (spool : Option Spool) :
    Ended κ :=
  match Reading.start (τ := τ) size k spool with
  | .error e => e
  | .ok r => (input.foldl Reading.take r).finish stamp

end MetricRelay.Relay
