import MetricRelay.Disk
import MetricRelay.Relay.Plain
import MetricRelay.Relay.Posting

namespace MetricRelay.Relay

structure World (ν σ : Type) where
  disk : Disk
  network : ν
  server : σ

inductive Way (ν σ : Type)
  | link (p : Plain (Tcp ν))
  | server (p : Posting σ)

namespace Way

variable {ν σ : Type} [Network ν] [Http.Server σ]

def enter (c : Config) (moves : List Move) (w : World ν σ) : Except Error (Way ν σ) × World ν σ :=
  if c.viaHttp then
    match Posting.new c w.server with
    | .error e => (.error (.http e), w)
    | .ok p => (.ok (server p), w)
  else
    match Plain.connect c moves (Tcp.new c.tcp w.network) with
    | (.error e, t) => (.error (.sender e), { w with network := t.network })
    | (.ok p, t) => (.ok (link p), { w with network := t.network })

def leave (w : World ν σ) : Way ν σ → World ν σ
  | link p => { w with network := p.session.link.network }
  | server p => { w with server := p.server }

instance : Carrier (Tcp ν) (Way ν σ) where
  change f
    | link p => link (Carrier.change f p)
    | server p => server (Carrier.change f p)
  obstacle
    | link p => Carrier.obstacle (Tcp ν) p
    | server p => Carrier.obstacle (Tcp ν) p
  resume lines
    | link p => link (Carrier.resume (Tcp ν) lines p)
    | server p => server (Carrier.resume (Tcp ν) lines p)
  deliver lines
    | link p => (Carrier.deliver (Tcp ν) lines p).map id link
    | server p => (Carrier.deliver (Tcp ν) lines p).map id server
  finish
    | link p => (Carrier.finish (Tcp ν) p).map id link
    | server p => (Carrier.finish (Tcp ν) p).map id server
  notices
    | link p => Carrier.notices (Tcp ν) p
    | server p => Carrier.notices (Tcp ν) p

end Way

end MetricRelay.Relay
