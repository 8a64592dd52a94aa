import MetricRelay.Deque

/-!
The bounded buffer of lines that wait for delivery, oldest first, with counters of what happened to
them.
-/
namespace MetricRelay

inductive OverflowPolicy
  | dropOldest
  | rejectNewest
  deriving DecidableEq, Repr

namespace OverflowPolicy

def all : List OverflowPolicy := [dropOldest, rejectNewest]

def name : OverflowPolicy → String
  | dropOldest => "drop-oldest"
  | rejectNewest => "reject-newest"

end OverflowPolicy

inductive BufferError
  | invalidCapacity (capacity : Nat)
  | full (capacity : Nat)
  deriving DecidableEq, Repr

def BufferError.message : BufferError → String
  | invalidCapacity n => s!"Invalid buffer capacity: {n}"
  | full n => s!"Buffer is full (capacity {n}), newest command rejected"

inductive PushOutcome
  | queued
  | queuedAfterDrop (oldest : String)
  | refused (cause : BufferError)
  deriving DecidableEq, Repr

structure Buffer where
  capacity : Nat
  policy : OverflowPolicy
  lines : Deque String
  bytes : Nat
  pushed : Nat
  popped : Nat
  dropped : Nat
  rejected : Nat
  peak : Nat

namespace Buffer

def maxCapacity : Nat := 10000000

def create (capacity : Nat) (policy : OverflowPolicy) : Except BufferError Buffer :=
  if capacity = 0 ∨ maxCapacity < capacity then .error (.invalidCapacity capacity)
  else .ok ⟨capacity, policy, .empty, 0, 0, 0, 0, 0, 0⟩

def toList (b : Buffer) : List String := b.lines.toList

def size (b : Buffer) : Nat := b.lines.size

def isEmpty (b : Buffer) : Bool := b.lines.isEmpty

def isFull (b : Buffer) : Bool := b.capacity ≤ b.size

def push (b : Buffer) (line : String) : PushOutcome × Buffer :=
  let append (b : Buffer) : Buffer :=
    { b with
      lines := b.lines.pushBack line
      bytes := b.bytes + line.utf8ByteSize
      pushed := b.pushed + 1
      peak := max b.peak (b.lines.size + 1) }
  if b.isFull then
    match b.policy with
    | .rejectNewest => (.refused (.full b.capacity), { b with rejected := b.rejected + 1 })
    | .dropOldest =>
      match b.lines.popFront? with
      | none => (.queued, append b)
      | some (oldest, rest) =>
        (.queuedAfterDrop oldest,
          append { b with
            lines := rest, bytes := b.bytes - oldest.utf8ByteSize, dropped := b.dropped + 1 })
  else (.queued, append b)

def victim? (b : Buffer) : Option (String × Deque String) :=
  match b.policy with
  | .dropOldest => b.lines.popFront?
  | .rejectNewest => b.lines.popBack?

def evict : Nat → Buffer → List String × Buffer
  | 0, b => ([], b)
  | n + 1, b =>
    match b.victim? with
    | none => ([], b)
    | some (line, rest) =>
      let r := evict n
        { b with lines := rest, bytes := b.bytes - line.utf8ByteSize, dropped := b.dropped + 1 }
      (line :: r.1, r.2)

/-- Puts a line back at the head, and lets go of what is then over capacity. -/
def requeue (b : Buffer) (line : String) : List String × Buffer :=
  let b := { b with lines := b.lines.pushFront line, bytes := b.bytes + line.utf8ByteSize }
  b.evict (b.size - b.capacity)

def pop? (b : Buffer) : Option (String × Buffer) :=
  b.lines.popFront?.map fun r =>
    (r.1, { b with lines := r.2, bytes := b.bytes - r.1.utf8ByteSize, popped := b.popped + 1 })

def takeAll (b : Buffer) : List String × Buffer :=
  (b.toList, { b with lines := .empty, bytes := 0, popped := b.popped + b.size })

structure Metrics where
  capacity : Nat
  size : Nat
  pushed : Nat
  popped : Nat
  dropped : Nat
  rejected : Nat
  peak : Nat
  bytes : Nat
  deriving DecidableEq, Repr

def Metrics.zero : Metrics := ⟨0, 0, 0, 0, 0, 0, 0, 0⟩

def Metrics.fillRatio (m : Metrics) : Float :=
  if m.capacity = 0 then 0 else m.size.toFloat / m.capacity.toFloat

def metrics (b : Buffer) : Metrics :=
  ⟨b.capacity, b.size, b.pushed, b.popped, b.dropped, b.rejected, b.peak, b.bytes⟩

end Buffer

end MetricRelay
