import MetricRelay.Relay.Run

/-!
What lies outside, on paper: what has become of the first deeds is known, and everything after them
is taken to go well. A function that is run on it tells what it would do. Once that has been done,
and has come out otherwise, it can be run again on what is known by then.
-/
namespace MetricRelay

inductive Deed
  | connect
  | put (text : String)
  | poll
  | close
  | exchange (r : Http.Request)

inductive Upshot
  | well
  | data
  | ended
  | timedOut
  | failed (cause : IoFault)
  | unset (cause : IoFault)
  | answered (a : Http.Answer)
  deriving DecidableEq

def Deed.guess : Deed → Upshot
  | exchange _ => .answered (.status 200 [])
  | _ => .well

structure Rehearsal where
  known : List Upshot
  deeds : List Deed

namespace Rehearsal

def new (known : List Upshot) : Rehearsal := ⟨known, []⟩

def blank : Rehearsal := new []

def act (d : Deed) (r : Rehearsal) : Upshot × Rehearsal :=
  match r.known with
  | u :: known => (u, ⟨known, d :: r.deeds⟩)
  | [] => (d.guess, ⟨[], d :: r.deeds⟩)

instance : Network Rehearsal where
  connect _ _ _ r :=
    match r.act .connect with
    | (.unset cause, r) => (.unset cause, r)
    | (.timedOut, r) => (.timedOut, r)
    | (.failed cause, r) => (.failed cause, r)
    | (_, r) => (.opened, r)
  put text r :=
    match r.act (.put text) with
    | (.timedOut, r) => (.timedOut, r)
    | (.failed cause, r) => (.failed cause, r)
    | (_, r) => (.done, r)
  poll r :=
    match r.act .poll with
    | (.data, r) => (.data, r)
    | (.ended, r) => (.ended, r)
    | (.failed cause, r) => (.failed cause, r)
    | (_, r) => (.nothing, r)
  close r := (r.act .close).2

instance : Http.Server Rehearsal where
  exchange request r :=
    match r.act (.exchange request) with
    | (.answered a, r) => (a, r)
    | (_, r) => (.broken, r)

/-- What comes of `f`, and what it does beyond the deeds that are known. -/
def plan {α : Type} (f : Rehearsal → α × Rehearsal) (known : List Upshot) : α × List Deed :=
  let (result, r) := f (new known)
  (result, r.deeds.reverse.drop known.length)

end Rehearsal

namespace Relay

abbrev OnPaper := Running Rehearsal Rehearsal

namespace Way

def outside : Way Rehearsal Rehearsal → Rehearsal
  | link p => p.session.link.network
  | server p => p.server

def within (r : Rehearsal) : Way Rehearsal Rehearsal → Way Rehearsal Rehearsal
  | link p => link { p with session.link.network := r }
  | server p => server { p with server := r }

def wake (elapsed : Nat) : Way Rehearsal Rehearsal → Way Rehearsal Rehearsal
  | link p => link { p with session := p.session.wake elapsed }
  | server p => server p

end Way

namespace Running

def mapWay (f : Way Rehearsal Rehearsal → Way Rehearsal Rehearsal) (r : OnPaper) : OnPaper :=
  { r with reading.progress.carrier := f r.reading.progress.carrier }

def outside (r : OnPaper) : Rehearsal := r.reading.progress.carrier.outside

def within (outside : Rehearsal) (r : OnPaper) : OnPaper := r.mapWay (·.within outside)

def wake (elapsed : Nat) (r : OnPaper) : OnPaper := r.mapWay (·.wake elapsed)

def disk (r : OnPaper) : Disk := unmount r.world.disk r.mounted r.reading.spool

end Running

def World.outside (c : Config) (w : World Rehearsal Rehearsal) : Rehearsal :=
  if c.viaHttp then w.server else w.network

end Relay

end MetricRelay
