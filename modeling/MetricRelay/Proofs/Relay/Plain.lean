import MetricRelay.Proofs.Relay.Carrier
import MetricRelay.Proofs.Sender.Batch
import MetricRelay.Proofs.Sender.Session
import MetricRelay.Relay.Plain

namespace MetricRelay.Relay

open Effect

variable {τ : Type}

instance : Audit (Plain τ) where
  Right given p := ∃ handed, p.session.Tended handed [] ∧
    given.Perm (handed ++ p.skipped.map terminated)
  Going p := p.skipped = []
  delivered p := writes p.session.effects
  held p := p.session.sender.inHand ++ p.session.sender.buffer.toList ++ p.skipped.map terminated
  waived p := discards p.session.effects ++ refusals p.session.effects

variable [Transport τ]

namespace Plain

theorem connect_ok {c : Config} {moves : List Move} {link link' : τ} {p : Plain τ}
    (h : Plain.connect c moves link = (.ok p, link')) :
    ∃ s, Session.connect c.sender c.tcp.endpoint link moves = (.ok s, link') ∧
      p = ⟨s, !c.failFast, [], false⟩ := by
  unfold Plain.connect at h
  rcases hs : Session.connect c.sender c.tcp.endpoint link moves with ⟨e | s, link''⟩
  · rw [hs] at h
    cases h
  · rw [hs] at h
    cases h
    exact ⟨s, rfl, rfl⟩

theorem deliver_fst (p : Plain τ) (lines : List String) :
    (Carrier.deliver τ lines p).1 =
      !(Batch.dispatch Session.send p.tolerant lines p.session).1.aborted := by
  simp only [Carrier.deliver]
  split
  · rename_i aborted
    rw [aborted]
    rfl
  · rename_i whole
    rw [Bool.eq_false_iff.2 whole]
    rfl

theorem session_deliver (p : Plain τ) (lines : List String) :
    (Carrier.deliver τ lines p).2.session =
      (Batch.dispatch Session.send p.tolerant lines p.session).2 := by
  simp only [Carrier.deliver]
  split <;> rfl

end Plain

theorem dispatch_session (tolerant : Bool) (lines : List String) {handed : List String}
    {s : Session τ} (h : s.Tended handed []) :
    let r := Batch.dispatch Session.send tolerant lines s
    (r.1.aborted = false → r.1.attempted = lines.length) ∧
      (tolerant = true → r.1.attempted = lines.length) ∧
      r.2.Tended (handed ++ (lines.take r.1.attempted).map terminated) [] := by
  obtain ⟨k, le, attempted, total, all, tended⟩ :=
    Batch.dispatchFrom_spec tolerant lines ⟨lines.length, 0, 0⟩
      (fun given line (s : Session τ) (h : s.Tended given []) => h.send line) h
  intro r
  have attempted : r.1.attempted = k := attempted.trans (Nat.zero_add k)
  have total : r.1.total = lines.length := total
  rw [BatchReport.aborted, total, attempted]
  refine ⟨fun whole => ?_, all, tended⟩
  have := of_decide_eq_false whole
  omega

theorem finish_session {handed : List String} {s : Session τ} (h : s.Tended handed []) :
    let s' := s.drain.close
    let r := s'.take
    s'.sender.stats.sent + s'.sender.stats.drained = (writes r.2.effects).length ∧
      handed.Perm (writes r.2.effects ++ (r.1 ++ (discards r.2.effects ++ refusals r.2.effects))) ∧
      (discards r.2.effects).length = r.2.sender.buffer.metrics.dropped ∧
      (refusals r.2.effects).length = r.2.sender.buffer.metrics.rejected := by
  obtain ⟨closed, idle⟩ := h.drain.close
  intro s' r
  have perm := closed.lines_perm
  obtain ⟨written, dropped, rejected⟩ := closed.counts
  rw [Sender.inHand_of_isIdle idle, List.nil_append, List.append_assoc] at perm
  rw [Sender.delivered, Sender.uncounted_of_isIdle idle, Nat.add_zero] at written
  obtain ⟨dropped_eq, rejected_eq⟩ := s'.metrics_take
  have taken : r.1 = s'.sender.buffer.toList := s'.take_fst
  rw [s'.effects_take, dropped_eq, rejected_eq, taken]
  simp only [writes_append, discards_append, refusals_append]
  refine ⟨?_, ?_, ?_, ?_⟩
  · simpa using written.symm
  · simpa using perm
  · simpa using dropped
  · simpa using rejected

instance : Accountable τ (Plain τ) where
  perm := by
    rintro given p ⟨handed, tended, perm⟩
    refine perm.trans ((tended.lines_perm.append_right _).trans ?_)
    refine List.perm_iff_count.2 fun line => ?_
    simp only [Audit.delivered, Audit.held, Audit.waived, List.count_append]
    omega
  change := by
    rintro given p f ⟨handed, tended, perm⟩ going
    exact ⟨⟨handed, ⟨tended.history, tended.untaken, tended.attended⟩, perm⟩, going⟩
  resume := by
    rintro given p lines ⟨handed, tended, perm⟩ going
    obtain ⟨-, whole, tended⟩ := dispatch_session true lines tended
    rw [whole rfl, List.take_length] at tended
    simp only [Carrier.resume]
    generalize Batch.dispatch Session.send true lines p.session = r at tended
    refine ⟨⟨_, tended, ?_⟩, going⟩
    have none_ : p.skipped = [] := going
    rw [none_, List.map_nil, List.append_nil] at perm
    rw [none_, List.map_nil, List.append_nil]
    exact perm.append_right _
  deliver := by
    rintro given p lines ⟨handed, tended, perm⟩ going
    have none_ : p.skipped = [] := going
    rw [none_, List.map_nil, List.append_nil] at perm
    obtain ⟨whole, -, tended⟩ := dispatch_session p.tolerant lines tended
    simp only [Carrier.deliver]
    generalize Batch.dispatch Session.send p.tolerant lines p.session = r at whole tended
    split
    · refine ⟨⟨_, tended, ?_⟩, fun e => nomatch e⟩
      rw [List.append_assoc, ← List.map_append, List.take_append_drop]
      exact perm.append_right _
    · rename_i finished
      rw [whole (by simpa using finished), List.take_length] at tended
      refine ⟨⟨_, tended, ?_⟩, fun _ => going⟩
      rw [none_, List.map_nil, List.append_nil]
      exact perm.append_right _
  finish := by
    rintro given p ⟨handed, tended, perm⟩
    obtain ⟨written, finished, -⟩ := finish_session tended
    simp only [Carrier.finish]
    generalize p.session.drain.close = s at written finished
    refine ⟨written, perm.trans ((finished.append_right _).trans
      (List.perm_iff_count.2 fun line => ?_))⟩
    simp only [Audit.delivered, Audit.waived, List.count_append]
    omega

theorem waived_finish {given : List String} {p : Plain τ} (h : Audit.Right given p) :
    let p' := (Carrier.finish τ p).2
    let metrics := p'.session.sender.buffer.metrics
    (Audit.waived p').length = metrics.dropped + metrics.rejected := by
  obtain ⟨handed, tended, -⟩ := h
  obtain ⟨-, -, dropped, rejected⟩ := finish_session tended
  exact List.length_append.trans (congrArg₂ (· + ·) dropped rejected)

theorem right_connect {c : Config} {moves : List Move} {link link' : τ} {p : Plain τ}
    (h : Plain.connect c moves link = (.ok p, link')) : Audit.Right [] p ∧ Audit.Going p := by
  obtain ⟨s, hs, rfl⟩ := Plain.connect_ok h
  exact ⟨⟨[], Session.tended_connect hs, .refl _⟩, rfl⟩

end MetricRelay.Relay
