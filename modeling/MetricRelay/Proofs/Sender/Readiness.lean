import MetricRelay.Proofs.Sender.Drain

namespace MetricRelay

namespace Effect

def requests (effects : List Effect) : List Request :=
  effects.filterMap fun
    | .asked _ p => some p.request
    | _ => none

@[simp] theorem requests_append (l l' : List Effect) :
    requests (l ++ l') = requests l ++ requests l' := List.filterMap_append

end Effect

namespace Sender

open Effect

variable {s s₀ : Sender} {es : List Event} {past : List Effect} {first : List (Request × Reply)}

theorem requests_keep (s : Sender) (line : String) : requests (s.keep line).2.2 = [] := by
  obtain ⟨b, k, -⟩ | ⟨b, oldest, rest, k, -⟩ | ⟨b, k, -⟩ := s.keep_cases line
  all_goals
    rw [k]
    rfl

theorem pump_send (s : Sender) (id : CallId) (line : String) :
    let fx := (s.pump id (.send line) 0).2
    requests fx = [.write (s.buffer.toList.headD line)] ∧ returns fx = [] := by
  cases pop : s.buffer.pop? with
  | none =>
    have empty := Buffer.pop?_eq_none.1 pop
    rw [pump_of_nil empty, empty]
    exact ⟨rfl, rfl⟩
  | some r =>
    obtain ⟨oldest, b⟩ := r
    rw [pump_of_pop? pop, (Buffer.toList_of_pop? pop).1]
    exact ⟨rfl, rfl⟩

theorem start_send_of_ready (free : s.holder = none) (alone : s.queue = [])
    (ready : s.canSend = true ∧ s.closed = false) (line : String) :
    let fx := (s.start (.send line)).2
    requests fx = [.write (s.buffer.toList.headD (terminated line))] ∧ returns fx = [] := by
  have pumps : s.start (.send line) = _ :=
    Option.some.inj (Begins.sends line free alone ready.2 ready.1).step
  rw [pumps]
  exact pump_send ..

theorem start_send_eq_of_unready (unready : ¬ (s.canSend = true ∧ s.closed = false))
    (line : String) :
    let kept := keep { s with nextId := s.nextId + 1 } (terminated line)
    s.start (.send line) = (kept.2.1, kept.2.2 ++ [.returned s.nextId (.outcome kept.1)]) := by
  have barred : (s.closed || !s.tracker.canSend) = true := by
    cases closed : s.closed with
    | true => rfl
    | false => simpa [canSend, closed] using unready
  rw [start_eq]
  exact if_pos barred

theorem start_send_of_unready (unready : ¬ (s.canSend = true ∧ s.closed = false)) (line : String) :
    let fx := (s.start (.send line)).2
    requests fx = [] ∧ ∃ o, returns fx = [(s.nextId, .outcome o)] ∧ o ≠ .sent := by
  rw [start_send_eq_of_unready unready]
  refine ⟨?_, _, ?_, keep_ne_sent { s with nextId := s.nextId + 1 } (terminated line)⟩
  · rw [requests_append, requests_keep]
    rfl
  · rw [returns_append, returns_keep]
    rfl

theorem Blank.state_of_closed (h : Blank s₀) (run : s₀.run es = some (s, past))
    (idle : s.isIdle = true) (closed : s.closed = true) :
    (s₀.marks es).getLast? = some s.state := by
  obtain ⟨id, under⟩ | ⟨-, marked⟩ := h.marked_run run closed
  · rw [underway_of_isIdle idle] at under
    cases under
  · exact marked

/-- A call to send that comes in when no other is under way asks for a write, of the oldest line or
of its own, exactly if the sender says that it can send and has not been closed; else its line is
buffered or rejected and nothing is asked. So what the sender says is true unless it has been closed,
the last mark on the link, by a call to close that returned or from outside, is one from outside that
it is up, and there is room for a pending write. -/
theorem canSend_iff_write (begun : Begun s₀ first) (run : s₀.run es = some (s, past))
    (idle : s.isIdle = true) (line : String) :
    ∃ r : Sender × List Effect, s.step (.start (.send line)) = some r ∧
      (requests r.2 = [.write (s.buffer.toList.headD (terminated line))] ∧ returns r.2 = [] ∨
        requests r.2 = [] ∧ ∃ o, returns r.2 = [(s.nextId, .outcome o)] ∧ o ≠ .sent) ∧
      (requests r.2 ≠ [] ↔ s.canSend = true ∧ s.closed = false) ∧
      ((s.canSend = true ↔ requests r.2 ≠ []) ↔
        ¬ (s.closed = true ∧ (s₀.marks es).getLast? = some .up ∧
          s.tracker.pending < s.tracker.maxPending)) := by
  obtain ⟨free, alone, -⟩ := isIdle_iff.1 idle
  have sends := fun ready => start_send_of_ready (s := s) free alone ready line
  have keeps := fun unready => start_send_of_unready (s := s) unready line
  have asks : requests (s.start (.send line)).2 ≠ [] ↔ s.canSend = true ∧ s.closed = false := by
    constructor
    · intro asked
      by_contra unready
      exact asked (keeps unready).1
    · intro ready
      rw [(sends ready).1]
      exact List.cons_ne_nil _ _
  refine ⟨s.start (.send line), rfl, ?_, asks, ?_⟩
  · by_cases ready : s.canSend = true ∧ s.closed = false
    · exact .inl (sends ready)
    · exact .inr (keeps ready)
  · -- Both sides agree in an open sender, so what is left are the closed ones that are up.
    have truthful : (s.canSend = true ↔ s.canSend = true ∧ s.closed = false) ↔
        ¬ (s.closed = true ∧ s.canSend = true) := by
      cases s.closed <;> cases s.canSend <;> decide
    rw [asks, truthful, not_iff_not]
    refine and_congr_right fun closed => ?_
    rw [begun.blank.state_of_closed run idle closed, canSend_iff, Option.some.injEq]

theorem canSend_iff_write_backlog :
    let es : List Event := [.markDown, .start (.send "a"), .markUp]
    ∃ (s₀ s : Sender) (past : List Effect) (r : Sender × List Effect),
      Begun s₀ [(.connect, ⟨none, true⟩)] ∧ s₀.run es = some (s, past) ∧ s.isIdle = true ∧
      s.step (.start (.send "b")) = some r ∧ s.canSend = true ∧
      requests r.2 = [.write "a\n"] := by
  intro es
  obtain ⟨s₀, built, seen⟩ : ∃ s₀,
      startConnected ⟨5000, 4, .dropOldest, 1⟩ "e" ⟨none, true⟩ = .ok s₀ ∧
      (s₀.run es).map (fun r => (r.1.isIdle, r.1.canSend, r.1.closed, r.1.buffer.toList)) =
        some (true, true, false, ["a\n"]) := ⟨_, rfl, by decide +kernel⟩
  obtain ⟨⟨s, past⟩, run, seen⟩ := Option.map_eq_some_iff.1 seen
  simp only [Prod.mk.injEq] at seen
  obtain ⟨idle, ready, was_open, lines⟩ := seen
  have begun : Begun s₀ [(.connect, ⟨none, true⟩)] := .connected built
  obtain ⟨r, step, fate, asks, -⟩ := canSend_iff_write begun run idle "b"
  obtain ⟨asked, -⟩ | ⟨silent, -⟩ := fate
  · rw [lines] at asked
    exact ⟨s₀, s, past, r, begun, run, idle, step, ready, asked⟩
  · exact absurd silent (asks.2 ⟨ready, was_open⟩)

/-- The sender is closed, and the link is marked as up from outside. -/
theorem not_canSend_iff_write :
    ¬ ∀ (es : List Event) (s₀ s : Sender) (first : List (Request × Reply)) (past : List Effect)
      (r : Sender × List Effect) (line : String), Begun s₀ first → s₀.run es = some (s, past) →
      s.isIdle = true → s.step (.start (.send line)) = some r →
      (s.canSend = true ↔ ∃ text, .write text ∈ requests r.2) := by
  intro claim
  let es : List Event := [.start .close, .retire, .reply ⟨none, false⟩, .markUp]
  obtain ⟨s₀, built, seen⟩ : ∃ s₀,
      startConnected ⟨5000, 4, .dropOldest, 1⟩ "e" ⟨none, true⟩ = .ok s₀ ∧
      ((s₀.run es).bind fun r => (r.1.step (.start (.send "a"))).map fun r' =>
        (r.1.isIdle, r.1.canSend, requests r'.2)) = some (true, true, []) :=
    ⟨_, rfl, by decide +kernel⟩
  obtain ⟨⟨s, past⟩, run, seen⟩ := Option.bind_eq_some_iff.1 seen
  obtain ⟨r, step, seen⟩ := Option.map_eq_some_iff.1 seen
  simp only [Prod.mk.injEq] at seen
  obtain ⟨idle, ready, silent⟩ := seen
  obtain ⟨text, asked⟩ :=
    (claim es s₀ s _ past r "a" (.connected built) run idle step).1 ready
  rw [silent] at asked
  cases asked

end Sender

end MetricRelay
