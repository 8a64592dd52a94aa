import MetricRelay.Config.Basic
import MetricRelay.Relay.Carrier
import MetricRelay.Sender.Batch

/-!
Delivery to a link, line by line. What the link does not take at once is held back until the end.
-/
namespace MetricRelay.Relay

structure Plain (τ : Type) where
  session : Session τ
  /-- Whether a line that is not written at once may be followed by others. -/
  tolerant : Bool
  /-- The lines of the last batch that were not handed to the sender. -/
  skipped : List String
  stopped : Bool

variable {τ : Type} [Transport τ]

def Plain.connect (c : Config) (moves : List Move) (link : τ) :
    Except SenderError (Plain τ) × τ :=
  let (session, link) := Session.connect c.sender c.tcp.endpoint link moves
  (session.map fun s => ⟨s, !c.failFast, [], false⟩, link)

instance : Carrier τ (Plain τ) where
  change f p := { p with session := { p.session with link := f p.session.link } }
  obstacle _ := none
  resume lines p := { p with session := (Batch.dispatch Session.send true lines p.session).2 }
  deliver lines p :=
    let (report, session) := Batch.dispatch Session.send p.tolerant lines p.session
    if report.aborted then
      (false, { p with session, skipped := lines.drop report.attempted, stopped := true })
    else (true, { p with session })
  finish p :=
    let s := p.session.drain.close
    let stats := s.sender.stats
    let (saved, s) := s.take
    (⟨stats.sent + stats.drained, saved ++ p.skipped.map terminated⟩, { p with session := s })
  notices p :=
    let stats := p.session.sender.stats
    let note := fun (b : Bool) (notices : List Notice) => if b then notices else []
    [.linkOpened, .senderReady, .linkDown, .probeStopped]
      ++ note (0 < stats.writeFailures) [.writeFailed]
      ++ note (0 < stats.drained) [.bufferDelivered]
      ++ note (0 < stats.dropped + stats.rejected) [.bufferFull]
      ++ note (0 < stats.buffered + stats.rejected) [.batchIncomplete]
      ++ note p.stopped [.batchAborted, .stopped]

end MetricRelay.Relay
