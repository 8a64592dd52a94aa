import MetricRelay.Proofs.Sender.Attended
import MetricRelay.Proofs.Sender.Closing

/-!
A link that is up can be used. The state of the link goes up only on a reply that tells of success,
and it goes down on each that tells of a failure and when the transport is shut down.
-/
namespace MetricRelay

/-- The reply of a transport that is connected after each success and not connected after a failed
connect and after a shutdown. A write or a check that fails may leave it open. -/
def Reply.Honours (r : Reply) : Request → Prop
  | .connect => r.connected = r.fault.isNone
  | .write _ => r.fault = none → r.connected = true
  | .check => r.fault = none → r.connected = true
  | .shutdown => r.connected = false

instance (r : Reply) : (q : Request) → Decidable (r.Honours q)
  | .connect => inferInstanceAs (Decidable (r.connected = r.fault.isNone))
  | .write _ => inferInstanceAs (Decidable (r.fault = none → r.connected = true))
  | .check => inferInstanceAs (Decidable (r.fault = none → r.connected = true))
  | .shutdown => inferInstanceAs (Decidable (r.connected = false))

theorem Reply.Honours.connected {r : Reply} {q : Request} (h : r.Honours q) (hq : q ≠ .shutdown)
    (ok : r.fault = none) : r.connected = true := by
  cases q with
  | connect => exact h.trans (by rw [ok]; rfl)
  | write line => exact h ok
  | check => exact h ok
  | shutdown => exact absurd rfl hq

theorem Phase.request_ne_shutdown {p : Phase} (h : p ≠ .closing) : p.request ≠ .shutdown := by
  cases p with
  | closing => exact absurd rfl h
  | _ => exact Request.noConfusion

namespace Sender

open Effect

variable {s s' : Sender} {e : Event} {fx : List Effect} {id : CallId}

structure Linked (s s' : Sender) : Prop where
  state : s'.state = s.state
  connected : s'.connected = s.connected

theorem linked_keep (s : Sender) (line : String) : Linked s (s.keep line).2.1 := by
  obtain ⟨b, k, -⟩ | ⟨b, oldest, rest, k, -⟩ | ⟨b, k, -⟩ := s.keep_cases line
  all_goals
    rw [k]
    exact ⟨rfl, rfl⟩

theorem linked_keepAndFinish (s : Sender) (id : CallId) (line : String) :
    Linked s (s.keepAndFinish id line).1 :=
  have kept := s.linked_keep line
  ⟨kept.state, kept.connected⟩

theorem connected_countDrained (s : Sender) (written : Nat) (interrupted : Bool) :
    (s.countDrained written interrupted).connected = s.connected := by
  unfold countDrained
  dsimp only
  split <;> rfl

theorem state_countDrained {written : Nat} {interrupted : Bool}
    (h : written = 0 ∨ interrupted = true) :
    (s.countDrained written interrupted).state = s.state := by
  have unproven : ¬ (decide (0 < written) && !interrupted) = true := by
    obtain rfl | rfl := h <;> simp
  rw [countDrained, if_neg unproven]
  rfl

theorem connected_endDrain (s : Sender) (id : CallId) (errand : Errand) (written : Nat)
    (interrupted : Bool) :
    (s.endDrain id errand written interrupted).1.connected = s.connected := by
  refine Eq.trans ?_ (s.connected_countDrained written interrupted)
  cases errand with
  | send line =>
    cases interrupted with
    | true => exact (linked_keepAndFinish _ id line).connected
    | false => rfl
  | _ => rfl

theorem state_endDrain {errand : Errand} {written : Nat} {interrupted : Bool}
    (h : written = 0 ∨ interrupted = true) :
    (s.endDrain id errand written interrupted).1.state = s.state := by
  refine Eq.trans ?_ (state_countDrained h)
  cases errand with
  | send line =>
    cases interrupted with
    | true => exact (linked_keepAndFinish _ id line).state
    | false => rfl
  | _ => rfl

theorem connected_pump (s : Sender) (id : CallId) (errand : Errand) (written : Nat) :
    (s.pump id errand written).1.connected = s.connected := by
  unfold pump
  split
  · rfl
  · exact s.connected_endDrain id errand written false

theorem linked_pump (s : Sender) (id : CallId) (errand : Errand) :
    Linked s (s.pump id errand 0).1 := by
  refine ⟨?_, s.connected_pump id errand 0⟩
  unfold pump
  split
  · rfl
  · exact state_endDrain (.inl rfl)

theorem linked_enter (s : Sender) (id : CallId) (job : Job) : Linked s (s.enter id job).1 := by
  unfold enter
  split
  · split
    · exact linked_keepAndFinish ..
    · split
      · exact ⟨rfl, rfl⟩
      · exact linked_pump ..
  · exact linked_pump ..
  · split <;> exact ⟨rfl, rfl⟩
  · exact ⟨rfl, rfl⟩

theorem linked_arrive (s : Sender) (id : CallId) (job : Job) : Linked s (s.arrive id job).1 := by
  obtain ⟨-, -, e⟩ | e := s.arrive_cases id job
  · rw [e]
    exact s.linked_enter id job
  · rw [e]
    exact ⟨rfl, rfl⟩

theorem linked_start (s : Sender) (op : Op) : Linked s (s.start op).1 := by
  cases op with
  | send line =>
    simp only [start_eq]
    split
    · have kept := linked_keep { s with nextId := s.nextId + 1 } (terminated line)
      exact ⟨kept.state, kept.connected⟩
    · have arrived := linked_arrive
        { s with nextId := s.nextId + 1, tracker := s.tracker.beginWrite } s.nextId
        (.run (.send (terminated line)))
      exact ⟨arrived.state, arrived.connected⟩
  | drain | probe =>
    simp only [start_eq]
    split
    · exact ⟨rfl, rfl⟩
    · have arrived := linked_arrive { s with nextId := s.nextId + 1 } s.nextId
      exact ⟨(arrived _).state, (arrived _).connected⟩
  | tick elapsed =>
    simp only [start_eq]
    split
    · exact ⟨rfl, rfl⟩
    · have arrived := linked_arrive
        { s with nextId := s.nextId + 1, background := some s.nextId } s.nextId (.run .probe)
      exact ⟨arrived.state, arrived.connected⟩
  | close =>
    simp only [start_eq]
    split
    · have arrived := linked_arrive { s with nextId := s.nextId + 1 } s.nextId .close
      exact ⟨arrived.state, arrived.connected⟩
    · exact ⟨rfl, rfl⟩

theorem linked_step (h : s.step e = some (s', fx)) (unanswered : ∀ r, e ≠ .reply r)
    (unmarked : e ≠ .markUp ∧ e ≠ .markDown) : Linked s s' := by
  cases e with
  | start op =>
    have linked := s.linked_start op
    rwa [step_start h] at linked
  | reply r => exact absurd rfl (unanswered r)
  | grant =>
    obtain ⟨id, job, queue, -, -, h⟩ := step_grant h
    have linked := linked_enter { s with queue } id job
    rw [h] at linked
    exact ⟨linked.state, linked.connected⟩
  | retire =>
    obtain ⟨id, -, -, h⟩ := step_retire h
    have linked := linked_arrive { s with retiring := none } id .close
    rw [h] at linked
    exact ⟨linked.state, linked.connected⟩
  | markUp => exact absurd rfl unmarked.1
  | markDown => exact absurd rfl unmarked.2
  | release =>
    obtain ⟨-, h⟩ := step_release h
    cases h
    exact ⟨rfl, rfl⟩
  | _ =>
    cases h
    exact ⟨rfl, rfl⟩

theorem connected_recover (s : Sender) (id : CallId) :
    (s.recover id).1.connected = s.connected := by
  unfold recover
  dsimp only
  split
  · rfl
  · exact connected_pump ..

theorem connected_succeed (s : Sender) (id : CallId) (p : Phase) :
    (s.succeed id p).1.connected = s.connected := by
  cases p with
  | draining errand line written => exact s.connected_pump id errand (written + 1)
  | checking => exact s.connected_recover id
  | connecting => exact s.connected_recover id
  | _ => rfl

theorem state_fail (s : Sender) (id : CallId) (p : Phase) : (s.fail id p).1.state = .down := by
  cases p with
  | draining errand line written => exact state_endDrain (.inr rfl)
  | writing line => exact (linked_keepAndFinish s.countWriteFailure.markDown id line).state
  | _ => rfl

theorem up_step (h : s.step e = some (s', fx)) (own : e ≠ .markUp) (up : s'.state = .up) :
    ((∀ r, e ≠ .reply r) ∧ s.state = .up ∧ s'.connected = s.connected) ∨
      ∃ r id p, e = .reply r ∧ s.holder = some (id, p) ∧ p ≠ .closing ∧ r.fault = none ∧
        s'.connected = r.connected := by
  by_cases replies : ∃ r, e = .reply r
  · obtain ⟨r, rfl⟩ := replies
    obtain ⟨id, p, holder, ⟨ok, h⟩ | ⟨-, h⟩⟩ := step_reply h
    · have connected := connected_succeed { s with connected := r.connected } id p
      rw [h] at connected
      refine .inr ⟨r, id, p, rfl, holder, ?_, ok, connected⟩
      rintro rfl
      cases h
      cases up
    · have down := state_fail { s with connected := r.connected } id p
      rw [h, up] at down
      cases down
  · have unanswered : ∀ r, e ≠ .reply r := fun r he => replies ⟨r, he⟩
    have undone : e ≠ .markDown := by
      rintro rfl
      cases h
      cases up
    have linked := linked_step h unanswered ⟨own, undone⟩
    exact .inl ⟨unanswered, linked.state.symm.trans up, linked.connected⟩

def exchange (s : Sender) : Event → List (Request × Reply)
  | .reply r => s.holder.toList.map fun h => (h.2.request, r)
  | _ => []

def exchanges (s : Sender) (es : List Event) : List (Request × Reply) := s.along exchange es

def Usable (seen : List (Request × Reply)) (s : Sender) : Prop :=
  s.state = .up → s.connected = true ∧
    ∃ before q r, seen = before ++ [(q, r)] ∧ q ≠ .shutdown ∧ r.fault = none

theorem Usable.step {seen : List (Request × Reply)} (h : Usable seen s)
    (step : s.step e = some (s', fx)) (own : e ≠ .markUp)
    (honest : ∀ x ∈ s.exchange e, x.2.Honours x.1) : Usable (seen ++ s.exchange e) s' := by
  intro up
  obtain ⟨he, up, connected⟩ | ⟨r, id, p, rfl, holder, hp, ok, connected⟩ := up_step step own up
  · have silent : s.exchange e = [] := by
      cases e with
      | reply r => exact absurd rfl (he r)
      | _ => rfl
    rw [connected, silent, List.append_nil]
    exact h up
  · have asked : s.exchange (.reply r) = [(p.request, r)] := by
      simp [exchange, holder]
    have hq := Phase.request_ne_shutdown hp
    have honest : r.Honours p.request := honest (p.request, r) (by simp [asked])
    rw [connected, asked]
    exact ⟨honest.connected hq ok, seen, p.request, r, rfl, hq, ok⟩

theorem Usable.run {seen : List (Request × Reply)} {es : List Event} (h : Usable seen s)
    (run : s.run es = some (s', fx)) (own : .markUp ∉ es)
    (honest : ∀ x ∈ s.exchanges es, x.2.Honours x.1) : Usable (seen ++ s.exchanges es) s' := by
  induction es generalizing s seen fx with
  | nil =>
    cases run
    rwa [exchanges, along, List.append_nil]
  | cons e es ih =>
    obtain ⟨s₁, fx₁, fx₂, step, run, -⟩ := run_cons.1 run
    rw [exchanges, along_cons step] at honest ⊢
    rw [List.forall_mem_append] at honest
    rw [← List.append_assoc]
    exact ih (h.step step (List.ne_of_not_mem_cons own).symm honest.1) run
      (List.not_mem_of_not_mem_cons own) honest.2

/-- What an event tells of the link whatever the transport does: it is marked from outside, or a
call to close comes to its end. -/
def mark (s : Sender) : Event → List LinkState
  | .markUp => [.up]
  | .markDown => [.down]
  | .reply _ =>
    match s.holder with
    | some (_, .closing) => [.down]
    | _ => []
  | _ => []

def marks (s : Sender) (es : List Event) : List LinkState := s.along mark es

theorem up_notMem_marks {es : List Event} (own : .markUp ∉ es) : .up ∉ s.marks es := by
  induction es generalizing s with
  | nil => exact List.not_mem_nil
  | cons e es ih =>
    have other : .up ∉ s.mark e := by
      cases e with
      | markUp => exact absurd List.mem_cons_self own
      | reply r =>
        rw [mark]
        split <;> simp
      | markDown => simp [mark]
      | _ => exact List.not_mem_nil
    rw [marks, along, List.mem_append, List.mem_flatMap]
    rintro (mem | ⟨r, -, mem⟩)
    · exact other mem
    · exact ih (List.not_mem_of_not_mem_cons own) mem

def Marked (seen : List LinkState) (s : Sender) : Prop :=
  s.closed = true →
    (∃ id, (id, .close) ∈ s.underway) ∨ (Shut s ∧ seen.getLast? = some s.state)

theorem Shut.mark_step {seen : List LinkState} (h : Shut s) (last : seen.getLast? = some s.state)
    (step : s.step e = some (s', fx)) : (seen ++ s.mark e).getLast? = some s'.state := by
  cases e with
  | reply r =>
    obtain ⟨id, p, holder, result⟩ := step_reply step
    have mem : (id, p.job) ∈ s.inTurn := by
      rw [inTurn_of_holder holder]
      exact List.mem_cons_self
    obtain rfl := job_eq_close.1 (h.closing _ mem)
    rw [mark, holder, List.getLast?_concat]
    obtain ⟨-, done⟩ | ⟨-, done⟩ := result
    all_goals
      cases done
      rfl
  | markUp | markDown =>
    cases step
    exact List.getLast?_concat
  | _ =>
    have linked := linked_step step nofun ⟨nofun, nofun⟩
    rw [linked.state]
    exact (congrArg List.getLast? (List.append_nil seen)).trans last

theorem Marked.step {seen : List LinkState} (h : Marked seen s) (last : ClosesLast s)
    (step : s.step e = some (s', fx)) : Marked (seen ++ s.mark e) s' := by
  intro closed'
  obtain ⟨closed, -⟩ | ⟨-, retiring⟩ := closing_step step
  · obtain ⟨id, under⟩ | ⟨shut, marked⟩ := h (closed.symm.trans closed')
    · have called : (id, .close) ∈ s.incoming e ++ s.underway := List.mem_append_right _ under
      cases turnover_step step last.retiring with
      | stays perm _ => exact .inl ⟨id, perm.mem_iff.2 called⟩
      | ends id' job a perm returns_eq fits =>
        obtain first | under' := List.mem_cons.1 (perm.mem_iff.2 called)
        · -- The call to close ends: it leaves the link down, with none but its like behind it.
          cases first
          obtain rfl : a = .closed := by
            cases a with
            | closed => rfl
            | _ => cases fits
          have returned : (id, .closed) ∈ returns fx := by
            rw [returns_eq]
            exact List.mem_cons_self
          obtain ⟨r, rfl, holder, done⟩ := step_closed step returned
          refine .inr ⟨last.shut step returned, ?_⟩
          rw [mark, holder, List.getLast?_concat, done]
          rfl
        · exact .inl ⟨id, under'⟩
    · exact .inr ⟨shut.step step, shut.mark_step marked step⟩
  · refine .inl ⟨s.nextId, ?_⟩
    simp [underway, waiting, retiring]

theorem Marked.run {seen : List LinkState} {es : List Event} (h : Marked seen s)
    (last : ClosesLast s) (run : s.run es = some (s', fx)) : Marked (seen ++ s.marks es) s' := by
  induction es generalizing s seen fx with
  | nil =>
    cases run
    rwa [marks, along, List.append_nil]
  | cons e es ih =>
    obtain ⟨s₁, fx₁, fx₂, step, run, -⟩ := run_cons.1 run
    rw [marks, along_cons step, ← List.append_assoc]
    exact ih (h.step last step) (last.step step) run

theorem Blank.marked_run {es : List Event} (h : Blank s) (run : s.run es = some (s', fx)) :
    Marked (s.marks es) s' := by
  have begun : Marked [] s := fun closed => by
    rw [h.closed] at closed
    cases closed
  exact begun.run h.closesLast run

def Sealed (s : Sender) : Prop :=
  s.closed = true → (∃ id, (id, .close) ∈ s.underway) ∨ (Shut s ∧ s.state = .down)

theorem Blank.sealed_run {es : List Event} (h : Blank s) (run : s.run es = some (s', fx))
    (own : .markUp ∉ es) : Sealed s' := by
  intro closed
  obtain under | ⟨shut, marked⟩ := h.marked_run run closed
  · exact .inl under
  · refine .inr ⟨shut, ?_⟩
    cases up : s'.state with
    | down => rfl
    | up =>
      rw [up] at marked
      exact absurd (List.mem_of_getLast? marked) (up_notMem_marks own)

theorem isIdle_iff :
    s.isIdle = true ↔ s.holder = none ∧ s.queue = [] ∧ s.retiring = none := by
  simp [isIdle, and_assoc]

theorem underway_of_isIdle (h : s.isIdle = true) : s.underway = [] := by
  obtain ⟨holder, queue, retiring⟩ := isIdle_iff.1 h
  rw [underway, waiting, holder, queue, retiring]
  rfl

/-- A sender at its start, and what its transport has been asked by then. One that starts down may
be given a transport that is open. -/
inductive Begun : Sender → List (Request × Reply) → Prop
  | connected {config : SenderConfig} {endpoint : String} {reply : Reply} {s : Sender}
      (built : startConnected config endpoint reply = .ok s) : Begun s [(.connect, reply)]
  | disconnected {config : SenderConfig} {hasRuntime : Bool} {s : Sender} (is_open : Bool)
      (built : startDisconnected config hasRuntime = .ok s) :
      Begun { s with connected := is_open } []

variable {s₀ : Sender} {first : List (Request × Reply)}

theorem link_of_build {config : SenderConfig} {state : LinkState} {connected : Bool}
    (h : build config state connected = .ok s) : s.state = state ∧ s.connected = connected := by
  unfold build at h
  split at h
  · cases h
  · cases h
    exact ⟨rfl, rfl⟩

theorem Begun.blank (h : Begun s₀ first) : Blank s₀ := by
  cases h with
  | connected built => exact Started.blank (.inl ⟨_, _, _, built⟩)
  | disconnected is_open built =>
    have b := Started.blank (.inr ⟨_, _, built⟩)
    exact ⟨b.holder, b.queue, b.retiring, b.background, b.closed, b.nextId, b.stats, b.buffer⟩

theorem Begun.usable (h : Begun s₀ first) (honest : ∀ x ∈ first, x.2.Honours x.1) :
    Usable first s₀ := by
  cases h with
  | @connected config endpoint reply s built =>
    obtain ⟨-, ok, s₁, built₁, rfl⟩ := startConnected_ok built
    have honest : reply.Honours .connect := honest (.connect, reply) (List.mem_singleton_self _)
    have connected : s₁.connected = true :=
      (link_of_build built₁).2.trans (honest.connected Request.noConfusion ok)
    exact fun _ => ⟨connected, [], .connect, reply, rfl, Request.noConfusion, ok⟩
  | disconnected is_open built =>
    have down := (link_of_build (startDisconnected_ok built).2.2).1
    intro up
    cases down.symm.trans up

/-- A link that is up is connected at any moment, and the last thing that its transport was asked is
a connect, a check or a write, which it has done. When no call is under way the sender has not been
closed. -/
theorem usable_of_up {es : List Event} (begun : Begun s₀ first)
    (run : s₀.run es = some (s, fx)) (own : .markUp ∉ es)
    (honest : ∀ x ∈ first ++ s₀.exchanges es, x.2.Honours x.1) (up : s.state = .up) :
    s.connected = true ∧ (s.isIdle = true → s.closed = false) ∧
      ∃ before q r, first ++ s₀.exchanges es = before ++ [(q, r)] ∧ q ≠ .shutdown ∧
        r.fault = none := by
  rw [List.forall_mem_append] at honest
  obtain ⟨connected, last⟩ := (begun.usable honest.1).run run own honest.2 up
  refine ⟨connected, fun idle => ?_, last⟩
  by_contra closed
  obtain ⟨id, under⟩ | ⟨-, down⟩ := begun.blank.sealed_run run own (by simpa using closed)
  · rw [underway_of_isIdle idle] at under
    cases under
  · cases up.symm.trans down

theorem usable_of_up_reconnected :
    let es : List Event := [.start (.send "a"), .reply ⟨some .closed, true⟩, .start (.tick 0),
      .reply ⟨some .closed, true⟩, .reply ⟨none, true⟩, .reply ⟨none, true⟩]
    ∃ s₀ s fx, Begun s₀ [(.connect, ⟨none, true⟩)] ∧ s₀.run es = some (s, fx) ∧
      s₀.exchanges es = [(.write "a\n", ⟨some .closed, true⟩), (.check, ⟨some .closed, true⟩),
        (.connect, ⟨none, true⟩), (.write "a\n", ⟨none, true⟩)] ∧
      s.state = .up ∧ s.connected = true ∧ s.closed = false := by
  intro es
  obtain ⟨s₀, built, seen⟩ : ∃ s₀,
      startConnected ⟨5000, 4, .dropOldest, 1⟩ "e" ⟨none, true⟩ = .ok s₀ ∧
      (s₀.run es).map (fun r => (s₀.exchanges es, r.1.isIdle, r.1.state)) =
        some ([(.write "a\n", ⟨some .closed, true⟩), (.check, ⟨some .closed, true⟩),
          (.connect, ⟨none, true⟩), (.write "a\n", ⟨none, true⟩)], true, .up) :=
    ⟨_, rfl, by decide +kernel⟩
  obtain ⟨⟨s, fx⟩, run, seen⟩ := Option.map_eq_some_iff.1 seen
  simp only [Prod.mk.injEq] at seen
  obtain ⟨asked, idle, up⟩ := seen
  have begun : Begun s₀ [(.connect, ⟨none, true⟩)] := .connected built
  have honest : ∀ x ∈ [(.connect, ⟨none, true⟩)] ++ s₀.exchanges es, x.2.Honours x.1 := by
    rw [asked]
    decide
  obtain ⟨connected, still_open, -⟩ := usable_of_up begun run (by decide) honest up
  exact ⟨s₀, s, fx, begun, run, asked, up, connected, still_open idle⟩

end Sender

end MetricRelay
