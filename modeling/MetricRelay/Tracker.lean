namespace MetricRelay

inductive LinkState
  | down
  | up
  deriving DecidableEq, Repr

def LinkState.name : LinkState → String
  | down => "Down"
  | up => "Up"

/-- Times are in milliseconds. -/
structure Tracker where
  state : LinkState
  checked : Bool
  failures : Nat
  pending : Nat
  checkPeriod : Nat
  maxPending : Nat
  deriving DecidableEq, Repr

namespace Tracker

def new (checkPeriod maxPending : Nat) (state : LinkState) : Tracker :=
  ⟨state, false, 0, 0, checkPeriod, maxPending⟩

def isUp (t : Tracker) : Bool := t.state == .up

def canSend (t : Tracker) : Bool := t.isUp && t.pending < t.maxPending

def maxFailures : Nat := 4294967295

def markUp (t : Tracker) : Bool × Tracker :=
  (t.state != .up, { t with state := .up, checked := true, failures := 0 })

def markDown (t : Tracker) : Bool × Tracker :=
  (t.state != .down,
    { t with state := .down, checked := true, failures := min (t.failures + 1) maxFailures })

def isCheckDue (t : Tracker) (elapsed : Nat) : Bool := !t.checked || t.checkPeriod ≤ elapsed

def beginWrite (t : Tracker) : Tracker := { t with pending := t.pending + 1 }

def endWrite (t : Tracker) : Tracker := { t with pending := t.pending - 1 }

end Tracker

end MetricRelay
