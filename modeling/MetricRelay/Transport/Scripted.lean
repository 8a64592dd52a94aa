import MetricRelay.Transport

namespace MetricRelay

structure Switches where
  refuseConnect : Bool
  failWrites : Bool
  dead : Bool
  keepOpen : Bool
  connectDelay : Nat
  failOn : List Nat
  deriving DecidableEq, Repr

def Switches.off : Switches := ⟨false, false, false, false, 0, []⟩

structure Wire where
  switches : Switches
  connected : Bool
  connects : Nat
  checks : Nat
  shutdowns : Nat
  writes : Nat
  /-- The lines written since they were last looked at, newest first. -/
  fresh : List String
  deriving DecidableEq, Repr

namespace Wire

def new (switches : Switches) : Wire := ⟨switches, false, 0, 0, 0, 0, []⟩

def noteRequest (w : Wire) : Request → Wire
  | .connect => { w with connects := w.connects + 1 }
  | _ => w

def reply (w : Wire) (fault : Option TransportFault) : Reply × Wire := (⟨fault, w.connected⟩, w)

def answer (w : Wire) : Request → Reply × Wire
  | .connect =>
    if w.switches.refuseConnect then reply { w with connected := false } (some .notConnected)
    else reply { w with connected := true } none
  | .write line =>
    if !w.connected then reply w (some .notConnected)
    else
      let w := { w with writes := w.writes + 1 }
      if w.switches.failWrites || w.switches.failOn.contains w.writes then
        reply { w with connected := w.switches.keepOpen } (some .closed)
      else reply { w with fresh := line :: w.fresh } none
  | .check =>
    let w := { w with checks := w.checks + 1 }
    if w.switches.dead then reply { w with connected := false } (some .closed) else reply w none
  | .shutdown => reply { w with shutdowns := w.shutdowns + 1, connected := false } none

def delay (w : Wire) : Request → Nat
  | .connect => w.switches.connectDelay
  | _ => 0

def look (w : Wire) : List String × Wire := (w.fresh.reverse, { w with fresh := [] })

instance : Transport Wire where
  serve request w := (w.noteRequest request).answer request

end Wire

end MetricRelay
