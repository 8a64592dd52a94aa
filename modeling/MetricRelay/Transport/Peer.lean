import MetricRelay.Transport
import MetricRelay.Transport.Tcp

namespace MetricRelay

inductive Fate
  | intact
  | ended
  | reset
  deriving DecidableEq, Repr

structure Connection where
  /-- What has come and the peer has not read, newest first. -/
  unread : List String
  waiting : Nat
  fate : Fate
  deriving DecidableEq, Repr

structure Peer where
  address : Address
  listening : Bool
  /-- Whether the peer takes what is written to it. If not, a write of a byte or more runs out of
  time. -/
  stalled : Bool
  newest : Connection
  deriving DecidableEq, Repr

namespace Peer

def new (address : Address) (listening : Bool) : Peer :=
  ⟨address, listening, false, ⟨[], 0, .ended⟩⟩

def scratch : Nat := 256

instance : Network Peer where
  connect host port _ p :=
    if p.listening && p.address.admits host port then (.opened, { p with newest := ⟨[], 0, .intact⟩ })
    else (.failed .connectionRefused, p)
  put text p :=
    if text.isEmpty then (.done, p)
    else
      match p.newest.fate with
      | .ended => (.failed .brokenPipe, p)
      | .reset => (.failed .connectionReset, p)
      | .intact =>
        if p.stalled then (.timedOut, p)
        else (.done, { p with newest := { p.newest with unread := text :: p.newest.unread } })
  poll p :=
    if 0 < p.newest.waiting then
      (.data, { p with newest := { p.newest with waiting := p.newest.waiting - scratch } })
    else
      match p.newest.fate with
      | .ended => (.ended, p)
      | .reset => (.failed .connectionReset, p)
      | .intact => (.nothing, p)
  close p := p

def read (p : Peer) : String × Peer :=
  (String.join p.newest.unread.reverse, { p with newest := { p.newest with unread := [] } })

def setFate (fate : Fate) (p : Peer) : Peer :=
  if p.newest.fate = .intact then { p with newest := { p.newest with fate } } else p

def close (p : Peer) : String × Peer :=
  let (text, p) := p.read
  (text, p.setFate .ended)

def reset (p : Peer) : String × Peer :=
  let (text, p) := p.read
  (text, p.setFate .reset)

def write (size : Nat) (p : Peer) : String × Peer :=
  let (text, p) := p.read
  (text, { p with newest := { p.newest with waiting := p.newest.waiting + size } })

def listen (listening : Bool) (p : Peer) : String × Peer :=
  let (text, p) := p.read
  (text, { p with listening })

/-- Closes the connection without reading. Data that nobody read makes that a reset. -/
def drop (p : Peer) : String × Peer :=
  let fate := if p.newest.unread.isEmpty then .ended else .reset
  let p := p.setFate fate
  ("", { p with newest := { p.newest with unread := [] } })

end Peer

end MetricRelay
