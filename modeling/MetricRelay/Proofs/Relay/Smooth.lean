import MetricRelay.Proofs.Relay.Plain
import MetricRelay.Proofs.Relay.Unfailing
import MetricRelay.Proofs.Sender.Smooth

namespace MetricRelay.Relay

open Effect Session

variable {ν : Type} [Network ν] {s : Session (Tcp (Recorded ν))}

theorem clean_of_send {line : String} (clean : (s.send line).2.Clean) : s.Clean := by
  rw [send_snd] at clean
  exact clean_of_call clean

theorem clean_of_dispatchFrom (tolerant : Bool) (lines : List String) (r : BatchReport)
    (clean : (Batch.dispatchFrom Session.send tolerant r lines s).2.Clean) : s.Clean := by
  induction lines generalizing r s with
  | nil => exact clean
  | cons line lines ih =>
    rw [Batch.dispatchFrom_cons] at clean
    split at clean
    · exact clean_of_send (ih _ clean)
    · exact clean_of_send clean

structure Sent (handed : List String) (s : Session (Tcp (Recorded ν))) : Prop where
  tended : s.Tended handed []
  smooth : s.Smooth handed
  faithful : s.Faithful

theorem Sent.send {handed : List String} (h : Sent handed s) {line : String}
    (clean : (s.send line).2.Clean) :
    (s.send line).1 = .sent ∧ Sent (handed ++ [terminated line]) (s.send line).2 := by
  obtain ⟨sent, smooth⟩ := h.smooth.send h.tended clean
  refine ⟨sent, h.tended.send line, smooth, ?_⟩
  rw [send_snd] at clean ⊢
  exact h.faithful.call clean

theorem Sent.dispatchFrom {handed : List String} (tolerant : Bool) (lines : List String)
    (r : BatchReport) (h : Sent handed s)
    (clean : (Batch.dispatchFrom Session.send tolerant r lines s).2.Clean) :
    (Batch.dispatchFrom Session.send tolerant r lines s).1.attempted = r.attempted + lines.length ∧
      (Batch.dispatchFrom Session.send tolerant r lines s).1.total = r.total ∧
      Sent (handed ++ lines.map terminated)
        (Batch.dispatchFrom Session.send tolerant r lines s).2 := by
  induction lines generalizing handed r s with
  | nil => exact ⟨rfl, rfl, by simpa [Batch.dispatchFrom] using h⟩
  | cons line lines ih =>
    rw [Batch.dispatchFrom_cons] at clean ⊢
    split at clean
    · rename_i on
      rw [if_pos on]
      obtain ⟨-, next⟩ := h.send (clean_of_dispatchFrom _ _ _ clean)
      obtain ⟨attempted, total, rest⟩ := ih _ next clean
      refine ⟨attempted.trans ?_, total, ?_⟩
      · rw [List.length_cons]
        exact Nat.succ_add_eq_add_succ ..
      · simpa using rest
    · rename_i off
      exact absurd (.inl (h.send clean).1) off

omit [Network ν] in
theorem Sent.texts {handed : List String} (h : Sent handed s) : s.link.network.texts = handed :=
  h.faithful.trans (h.smooth.writes_eq h.tended)

theorem Sent.finish {handed : List String} (h : Sent handed s) (clean : s.drain.close.Clean) :
    let s' := s.drain.close
    s'.sender.stats.sent + s'.sender.stats.drained = handed.length ∧ s'.take.1 = [] ∧
      s'.link.network.texts = handed := by
  have clean₁ : s.drain.Clean := clean_of_call clean
  have drained : writes s.drain.effects = handed :=
    (h.smooth.drain h.tended clean₁).writes_eq h.tended.drain
  have faithful : s.drain.close.Faithful := (h.faithful.call clean₁).call clean
  obtain ⟨more, effects⟩ := s.drain.effects_prefix_of_call .close
  have closed : writes s.drain.close.effects = handed ++ writes more := by
    rw [← drained, ← writes_append, effects]
    rfl
  obtain ⟨count, perm, -⟩ := finish_session h.tended
  have total := perm.length_eq
  rw [effects_take, writes_append, closed] at count total
  simp only [List.length_append] at count total
  have none_ : (writes more).length = 0 := by omega
  have left : s.drain.close.take.1.length = 0 := by omega
  rw [List.length_eq_zero_iff] at none_ left
  refine ⟨?_, left, ?_⟩
  · rw [none_] at count
    exact count
  · rw [faithful, closed, none_, List.append_nil]

namespace Plain

structure Passed (given : List String) (p : Plain (Tcp (Recorded ν))) : Prop where
  sent : Sent (given.map terminated) p.session
  skipped : p.skipped = []

theorem passed_connect {c : Config} {moves : List Move} {network : ν} {p : Plain (Tcp (Recorded ν))}
    {link : Tcp (Recorded ν)}
    (h : Plain.connect c moves (Tcp.new c.tcp (Recorded.start network)) = (.ok p, link))
    (clean : p.session.Clean) : p.Passed [] := by
  obtain ⟨s, hs, rfl⟩ := Plain.connect_ok h
  have tended := tended_connect hs
  obtain ⟨reply, sender, served, started, rfl⟩ := Session.connect_ok hs
  have done := Tcp.served served clean
  obtain ⟨rfl, connected⟩ := done.met (by simp) (.inl rfl)
  exact ⟨⟨tended, ⟨Sender.flowing_startConnected started rfl, connected⟩, done.texts⟩, rfl⟩

theorem unfailing (size : Nat) :
    Unfailing (Tcp (Recorded ν)) size (fun p : Plain (Tcp (Recorded ν)) => p.session.Clean) Passed
      fun given p => p.session.link.network.texts = given.map terminated where
  clean_resume clean := clean_of_dispatchFrom _ _ _ clean
  clean_deliver := by
    intro lines p clean
    rw [session_deliver] at clean
    exact clean_of_dispatchFrom _ _ _ clean
  clean_finish := by
    intro p clean
    have clean : p.session.drain.close.Clean := clean
    exact clean_of_call (clean_of_call clean)
  resume := by
    intro lines p passed clean
    obtain ⟨-, -, sent⟩ := passed.sent.dispatchFrom true lines _ clean
    exact ⟨sent, passed.skipped⟩
  deliver := by
    intro given lines p some_ short passed clean
    rw [session_deliver] at clean
    obtain ⟨attempted, total, sent⟩ := passed.sent.dispatchFrom p.tolerant lines _ clean
    have whole : (Batch.dispatch Session.send p.tolerant lines p.session).1.aborted = false := by
      refine decide_eq_false ?_
      rw [Batch.dispatch, attempted, total]
      simp
    refine ⟨by rw [deliver_fst, whole, Bool.not_false], ?_, ?_⟩
    · rwa [session_deliver, List.map_append]
    · simp only [Carrier.deliver, whole]
      exact passed.skipped
  finish := by
    intro given p passed clean
    have clean : p.session.drain.close.Clean := clean
    obtain ⟨count, left, texts⟩ := passed.sent.finish clean
    refine ⟨count.trans (List.length_map ..), ?_, texts⟩
    change p.session.drain.close.take.1 ++ p.skipped.map terminated = []
    rw [left, passed.skipped]
    rfl

end Plain

end MetricRelay.Relay
