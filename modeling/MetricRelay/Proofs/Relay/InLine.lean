import MetricRelay.Proofs.Relay.Keeping
import MetricRelay.Proofs.Sender.InTurn
import MetricRelay.Proofs.Sender.Taken

namespace MetricRelay.Relay

open Effect

variable {ν : Type} {handed given : List String} {s : Session (Tcp (Recorded ν))}
  {p : Plain (Tcp (Recorded ν))}

/-- These lines have been handed to the session one after the other. -/
structure InLine (handed : List String) (s : Session (Tcp (Recorded ν))) : Prop where
  tended : s.Tended handed []
  inTurn : s.InTurn handed
  truthful : s.Truthful

/-- These lines have been handed over, but for the last of them if the last batch broke off. -/
def Plain.InLine (given : List String) (p : Plain (Tcp (Recorded ν))) : Prop :=
  ∃ handed, Relay.InLine handed p.session ∧ given = handed ++ p.skipped.map terminated

variable [Network ν]

theorem InLine.send (h : InLine handed s) (line : String) :
    InLine (handed ++ [terminated line]) (s.send line).2 :=
  ⟨h.tended.send line, h.inTurn.send h.tended line, h.truthful.send line⟩

theorem InLine.dispatch (h : InLine handed s) (tolerant : Bool) (lines : List String) :
    InLine
      (handed ++
        (lines.take (Batch.dispatch Session.send tolerant lines s).1.attempted).map terminated)
      (Batch.dispatch Session.send tolerant lines s).2 := by
  obtain ⟨k, -, attempted, -, -, h⟩ := Batch.dispatchFrom_spec tolerant lines
    ⟨lines.length, 0, 0⟩ (fun given line (s : Session (Tcp (Recorded ν))) (h : InLine given s) =>
      h.send line) h
  rw [Nat.zero_add] at attempted
  rw [← attempted] at h
  exact h

theorem InLine.finish (h : InLine handed s) :
    let r := s.drain.close.take
    let metrics := r.2.sender.buffer.metrics
    (r.2.link.network.taken ++ r.1).Sublist handed ∧ r.2.Truthful ∧
      (metrics.dropped + metrics.rejected = 0 → r.2.link.network.taken ++ r.1 = handed) := by
  have drained : InLine handed s.drain :=
    ⟨h.tended.drain, h.inTurn.drain h.tended, h.truthful.call .drain⟩
  obtain ⟨tended, idle⟩ := drained.tended.close
  have part := (drained.inTurn.close drained.tended).sublist
  have truthful : s.drain.close.take.2.Truthful := (drained.truthful.call .close).apply (by simp)
  rw [Sender.inHand_of_isIdle idle, List.nil_append] at part
  obtain ⟨-, perm, dropped, rejected⟩ := finish_session h.tended
  intro r metrics
  have taken : r.2.link.network.taken = writes s.drain.close.effects := by
    rw [truthful, Session.effects_take]
    simp
  have part : (r.2.link.network.taken ++ r.1).Sublist handed := taken ▸ part
  refine ⟨part, truthful, fun whole => part.eq_of_length ?_⟩
  have total := perm.length_eq
  simp only [List.length_append, dropped, rejected] at total
  rw [List.length_append, truthful]
  simp only [metrics, r] at whole ⊢
  omega

namespace Plain

variable {c : Config} {moves : List Move} {link link' : Tcp (Recorded ν)}

theorem inLine_connect (fresh : link.network.taken = [])
    (h : Plain.connect c moves link = (.ok p, link')) : p.InLine [] ∧ p.skipped = [] := by
  obtain ⟨s, hs, rfl⟩ := connect_ok h
  exact ⟨⟨[], ⟨Session.tended_connect hs, Session.inTurn_connect hs,
    Session.truthful_connect fresh hs⟩, rfl⟩, rfl⟩

theorem InLine.change (h : p.InLine given) {f : Tcp (Recorded ν) → Tcp (Recorded ν)}
    (untouched : ∀ t, (f t).network.record = t.network.record) :
    (Carrier.change f p).InLine given := by
  obtain ⟨handed, ⟨tended, inTurn, truthful⟩, given_eq⟩ := h
  refine ⟨handed, ⟨⟨tended.history, tended.untaken, tended.attended⟩, inTurn, ?_⟩, given_eq⟩
  have same := untouched p.session.link
  unfold Session.Truthful Recorded.taken at *
  exact same ▸ truthful

theorem InLine.resume (h : p.InLine given) (going : p.skipped = []) (lines : List String) :
    (Carrier.resume (Tcp (Recorded ν)) lines p).InLine (given ++ lines.map terminated) ∧
      (Carrier.resume (Tcp (Recorded ν)) lines p).skipped = [] := by
  obtain ⟨handed, inLine, rfl⟩ := h
  obtain ⟨-, whole, -⟩ := dispatch_session true lines inLine.tended
  have next := inLine.dispatch true lines
  rw [whole rfl, List.take_length] at next
  simp only [Carrier.resume]
  generalize Batch.dispatch Session.send true lines p.session = r at next
  exact ⟨⟨_, next, by simp [going]⟩, going⟩

theorem InLine.deliver (h : p.InLine given) (going : p.skipped = []) (lines : List String) :
    (Carrier.deliver (Tcp (Recorded ν)) lines p).2.InLine (given ++ lines.map terminated) ∧
      ((Carrier.deliver (Tcp (Recorded ν)) lines p).1 = true →
        (Carrier.deliver (Tcp (Recorded ν)) lines p).2.skipped = []) := by
  obtain ⟨handed, inLine, rfl⟩ := h
  obtain ⟨whole, -⟩ := dispatch_session p.tolerant lines inLine.tended
  have next := inLine.dispatch p.tolerant lines
  simp only [Carrier.deliver]
  generalize Batch.dispatch Session.send p.tolerant lines p.session = r at whole next
  split
  · refine ⟨⟨_, next, ?_⟩, (nomatch ·)⟩
    rw [going, List.map_nil, List.append_nil, List.append_assoc, ← List.map_append,
      List.take_append_drop]
  · rename_i complete
    rw [whole (by simpa using complete), List.take_length] at next
    exact ⟨⟨_, next, by simp [going]⟩, fun _ => going⟩

theorem InLine.finish (h : p.InLine given) :
    let r := Carrier.finish (Tcp (Recorded ν)) p
    let metrics := r.2.session.sender.buffer.metrics
    (r.2.session.link.network.taken ++ r.1.undelivered).Sublist given ∧ r.2.session.Truthful ∧
      (metrics.dropped + metrics.rejected = 0 →
        r.2.session.link.network.taken ++ r.1.undelivered = given) := by
  obtain ⟨handed, inLine, rfl⟩ := h
  obtain ⟨part, truthful, whole⟩ := inLine.finish
  simp only [Carrier.finish]
  generalize p.session.drain.close.take = r at part truthful whole
  rw [← List.append_assoc]
  exact ⟨part.append_right _, truthful, fun none_ => congrArg (· ++ _) (whole none_)⟩

section

variable {size : Nat} {input : List (Arrival (Tcp (Recorded ν)))} {spool : Option Spool}
  {stamp : Stamp} {summary : Summary}

theorem inLine_afterInput (goes : panic? (Tcp (Recorded ν)) size p spool = none)
    (untouched : ∀ f, .change f ∈ input → ∀ t, (f t).network.record = t.network.record)
    (h : p.InLine []) (going : p.skipped = []) :
    (afterInput size input p spool).carrier.InLine
      ((found spool ++ (consumed size input p spool).flatMap Round.handed).map terminated) := by
  rw [consumed_of_none goes, ← Progress.flatten_handedOver]
  obtain ⟨resumed, going⟩ := h.resume going (found spool)
  let P (batches : List (List String)) (p : Plain (Tcp (Recorded ν))) : Prop :=
    p.InLine ((found spool ++ batches.flatten).map terminated)
  have begun : P [] (Progress.begin (Tcp (Recorded ν)) (found spool) p).carrier := by
    simpa [P, Progress.begin] using resumed
  refine Progress.carried_advanceAll (P := P) (G := fun p => p.skipped = [])
    (F := fun f => ∀ t, (f t).network.record = t.network.record)
    (fun fine h going => ⟨h.change fine, going⟩) (fun {batches p lines} _ h going => ?_) begun
    (fun _ => going) fun r hr f hf => untouched f (Round.mem_of_mem_changes hr hf)
  have next := h.deliver going lines
  rwa [← List.map_append, List.append_assoc, ← List.flatten_concat] at next

theorem inLine_relay
    (untouched : ∀ f, .change f ∈ input → ∀ t, (f t).network.record = t.network.record)
    (h : p.InLine []) (going : p.skipped = [])
    (ok : (relay size stamp input p spool).result = .ok summary) :
    let e := relay size stamp input p spool
    let lines := (found spool ++ (Account.of size stamp input p spool).read).map terminated
    let taken := e.carrier.session.link.network.taken
    let metrics := e.carrier.session.sender.buffer.metrics
    e.carrier.session.Truthful ∧
      ∃ left, Kept stamp left (emptied spool) summary.spooled summary.lost e.spool ∧
        (taken ++ left).Sublist lines ∧
        (metrics.dropped + metrics.rejected = 0 → taken ++ left = lines) := by
  obtain ⟨goes, sound⟩ := completes_of_ok ok
  have read : (consumed size input p spool).flatMap (·.lines) =
      (consumed size input p spool).flatMap Round.handed := by
    rw [consumed_of_none goes]
    exact Round.flatMap_lines (Progress.unfinished_of_fault sound)
  have after := inLine_afterInput goes untouched h going
  obtain ⟨part, truthful, whole⟩ := after.finish
  obtain ⟨notices, e⟩ := relay_eq goes sound stamp
  let a := afterInput size input p spool
  let d := (Carrier.finish (Tcp (Recorded ν)) a.carrier).1
  have kept := kept_keep stamp d.undelivered (emptied spool) (s := a.summary d) rfl rfl
  generalize keep stamp d.undelivered (emptied spool) (a.summary d) = r at kept e
  unfold Account.of
  rw [e] at ok ⊢
  obtain rfl := Result.ok.inj ok
  rw [← read] at part whole
  exact ⟨truthful, _, kept, part, whole⟩

end

end Plain

variable {σ : Type} [Http.Server σ] {c : Config} {moves : List Move} {stamp : Stamp}
  {input : List (Arrival (Tcp (Recorded ν)))} {w : World ν σ}

/-- What the network has taken when a run over a link has come to its end, and the lines of the file
that the run has put away behind it, are a part of what it found in the spool and read, in its order.
They are all of it if no line had to make room, or found none, in the buffer, and none was lost for
want of a place. -/
theorem sublist_of_run_ok {summary : Summary} (viaHttp : c.viaHttp = false)
    (untouched : ∀ f, .change f ∈ input → ∀ t, (f t).network.record = t.network.record)
    (ok : (run c moves stamp input w.recorded).1.result = .ok summary) :
    let r := run c moves stamp input w.recorded
    let a := account c moves stamp input w.recorded
    let lines := (readable c w.disk ++ a.read).map terminated
    let taken := r.2.network.taken
    ∃ mounted rest again p link file,
      (mount c w.disk = .ok mounted ∧
        restore (mounted.map (·.spool)) = (.ok (readable c w.disk), rest) ∧
        mount c r.2.disk = .ok again ∧
        Plain.connect c moves (Tcp.new c.tcp w.recorded.network) = (.ok p, link)) ∧
      (Stored stamp rest file (again.map (·.spool)) ∧ summary.spooled = file.length) ∧
      (a.delivered = taken ∧ (taken ++ file).Sublist lines) ∧
      let e := relay c.batchSize stamp input p (mounted.map (·.spool))
      let metrics := e.carrier.session.sender.buffer.metrics
      metrics.dropped + metrics.rejected = 0 → summary.lost = 0 → taken ++ file = lines := by
  obtain ⟨mounted, p, link, mounts, connects, ok, account_eq⟩ := runPlain_of_run_ok viaHttp ok
  obtain ⟨-, network⟩ := run_plain stamp input viaHttp mounts connects
  obtain ⟨again, remounts, alike⟩ := mount_run_plain stamp input viaHttp mounts connects
  have restored := restore_of_goes (completes_of_ok ok).1
  obtain ⟨inLine, going⟩ := Plain.inLine_connect rfl connects
  obtain ⟨truthful, left, kept, part, whole⟩ := Plain.inLine_relay untouched inLine going ok
  obtain ⟨file, stored, spooled, all, none_⟩ := (kept.alike alike).file
  rw [← readable_of_mount mounts] at restored
  rw [← readable_of_mount mounts, ← account_eq, ← network] at part whole
  rw [Session.Truthful, ← network] at truthful
  refine ⟨mounted, _, again, p, link, file, ⟨mounts, restored, remounts, connects⟩,
    ⟨stored, spooled⟩, ⟨?_, ?_⟩, fun roomy kept => ?_⟩
  · rw [account_eq]
    exact truthful.symm
  · by_cases kept : summary.lost = 0
    · rw [all kept]
      exact part
    · rw [none_ kept, List.append_nil]
      exact (List.sublist_append_left ..).trans part
  · rw [all kept]
    exact whole roomy

def resetting (t : Tcp (Recorded Peer)) : Tcp (Recorded Peer) :=
  { t with network := { t.network with network := t.network.network.setFate .reset } }

def resetAfterOne : List (Arrival (Tcp (Recorded Peer))) :=
  [.line "a", .change resetting, .line "b", .line "c"]

theorem untouched_resetAfterOne (f : Tcp (Recorded Peer) → Tcp (Recorded Peer))
    (mem : .change f ∈ resetAfterOne) (t : Tcp (Recorded Peer)) :
    (f t).network.record = t.network.record := by
  obtain rfl : f = resetting := by simpa [resetAfterOne] using mem
  rfl

def listening : World Peer Http.Scripted :=
  { disk := .build [] ["spool"] [("spool/r.spool", SpoolRecord.encode ⟨"r", 0, ["r"]⟩)]
    network := .new (.loopback 8081) true
    server := .new (.loopback 8088) true [] }

theorem sublist_of_run_ok_reset :
    let c := { Config.default with batchSize := 1, spoolPath := some (Text.bytes "spool") }
    let r := run c [] ⟨0, 0, ""⟩ resetAfterOne listening.recorded
    r.1.result = .ok ⟨3, 1, 2, 2, 0⟩ ∧ r.2.network.taken = ["r\n", "a\n"] ∧
      ∃ file, file.length = 2 ∧ (r.2.network.taken ++ file).Sublist ["r\n", "a\n", "b\n", "c\n"] := by
  intro c
  have ok : (run c [] ⟨0, 0, ""⟩ resetAfterOne listening.recorded).1.result =
      .ok ⟨3, 1, 2, 2, 0⟩ := by
    decide +kernel
  obtain ⟨-, -, -, -, -, file, -, ⟨-, spooled⟩, ⟨-, part⟩, -⟩ :=
    sublist_of_run_ok rfl untouched_resetAfterOne ok
  have lines : (readable c listening.disk ++
      (account c [] ⟨0, 0, ""⟩ resetAfterOne listening.recorded).read).map terminated =
        ["r\n", "a\n", "b\n", "c\n"] := by
    decide +kernel
  rw [lines] at part
  exact ⟨ok, by decide +kernel, file, spooled.symm, part⟩

theorem not_eq_of_roomy :
    ¬∀ (c : Config) (moves : List Move) (stamp : Stamp)
      (input : List (Arrival (Tcp (Recorded Peer)))) (w : World Peer Http.Scripted) (s : Summary),
      c.validate w.disk = .ok () → c.viaHttp = false →
      (∀ f, .change f ∈ input → ∀ t, (f t).network.record = t.network.record) →
      (run c moves stamp input w.recorded).1.result = .ok s →
      let r := run c moves stamp input w.recorded
      let a := account c moves stamp input w.recorded
      a.waived = [] → ∃ file, (file = [] ∨ ∃ m, mount c r.2.disk = .ok (some m) ∧
          m.spool.Files ⟨stamp.id, stamp.time, file⟩) ∧
        r.2.network.taken ++ file = (readable c w.disk ++ a.read).map terminated := by
  intro whole
  let c := { Config.default with batchSize := 1 }
  obtain ⟨file, none_ | ⟨m, mounts, -⟩, same⟩ := whole c [] ⟨0, 0, ""⟩ resetAfterOne listening
    ⟨3, 0, 1, 0, 2⟩ (by decide +kernel) rfl untouched_resetAfterOne (by decide +kernel)
    (by decide +kernel)
  · rw [none_] at same
    revert same
    decide +kernel
  · cases mounts

end MetricRelay.Relay
