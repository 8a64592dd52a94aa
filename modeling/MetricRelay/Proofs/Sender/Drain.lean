import Mathlib.Data.Stream.Init
import MetricRelay.Proofs.Sender.Storage
import MetricRelay.Proofs.Sender.Writes

namespace MetricRelay

def Event.replies (rs : Stream' Reply) (n : Nat) : List Event := (rs.take n).map .reply

theorem Event.replies_succ (rs : Stream' Reply) (n : Nat) :
    replies rs (n + 1) = .reply rs.head :: replies rs.tail n := by
  rw [replies, Stream'.take_succ]
  rfl

theorem Event.replies_add (rs : Stream' Reply) (m n : Nat) :
    replies rs (m + n) = replies rs m ++ replies (rs.drop m) n := by
  rw [replies, Stream'.take_add, List.map_append]
  rfl

namespace Sender

open Effect

variable {s s₁ d : Sender} {e : Event} {es : List Event} {id : CallId} {p : Phase} {r : Reply}

theorem step_reply_of_ok (holder : s.holder = some (id, p)) (ok : r.fault = none) :
    s.step (.reply r) = some (succeed { s with connected := r.connected } id p) := by
  simp [step, holder, ok]

theorem step_reply_of_failed (holder : s.holder = some (id, p)) (failed : r.fault ≠ none) :
    s.step (.reply r) = some (fail { s with connected := r.connected } id p) := by
  simp [step, holder, failed]

theorem exchange_reply (holder : s.holder = some (id, p)) :
    s.exchange (.reply r) = [(p.request, r)] := by
  simp [exchange, holder]

def revival (s : Sender) : Event → List LinkState
  | .reply r =>
    match s.holder, r.fault with
    | some (_, .checking), none => [s.state]
    | some (_, .connecting), none => [s.state]
    | _, _ => []
  | _ => []

def revivals (s : Sender) (es : List Event) : List LinkState := s.along revival es

/-- The events lead from the result `r` of a step to the result `r'` of another. On the way `x` is
asked of the transport, the link is in the states `v` when the transport shows itself alive, and
`fx` takes effect. -/
structure Leads (r : Sender × List Effect) (es : List Event) (x : List (Request × Reply))
    (v : List LinkState) (fx : List Effect) (r' : Sender × List Effect) : Prop where
  run : ∃ past, r.1.run es = some (r'.1, past) ∧ r.2 ++ past = fx ++ r'.2
  asked : r.1.exchanges es = x
  revived : r.1.revivals es = v

section

variable {r r' r'' : Sender × List Effect} {es' : List Event} {x x' : List (Request × Reply)}
  {v v' : List LinkState} {fx fx' : List Effect}

theorem Leads.refl (r : Sender × List Effect) : Leads r [] [] [] [] r :=
  ⟨⟨[], rfl, List.append_nil _⟩, rfl, rfl⟩

theorem Leads.prepend {effects : List Effect} (h : Leads (s, effects) es x v fx r')
    (before : List Effect) : Leads (s, before ++ effects) es x v (before ++ fx) r' := by
  obtain ⟨past, run, eq⟩ := h.run
  refine ⟨⟨past, run, ?_⟩, h.asked, h.revived⟩
  rw [List.append_assoc, List.append_assoc]
  exact congrArg (before ++ ·) eq

theorem Leads.run_cons (step : s.step e = some r) (h : Leads r es x v fx r') :
    s.run (e :: es) = some (r'.1, fx ++ r'.2) ∧ s.exchanges (e :: es) = s.exchange e ++ x ∧
      s.revivals (e :: es) = s.revival e ++ v := by
  obtain ⟨past, run, eq⟩ := h.run
  refine ⟨Sender.run_cons.2 ⟨r.1, r.2, past, step, run, eq.symm⟩, ?_, ?_⟩
  · rw [exchanges, along_cons step, ← h.asked]
    rfl
  · rw [revivals, along_cons step, ← h.revived]
    rfl

theorem Leads.cons (step : r.1.step e = some r') (h : Leads r' es x v fx r'') :
    Leads r (e :: es) (r.1.exchange e ++ x) (r.1.revival e ++ v) (r.2 ++ fx) r'' := by
  obtain ⟨run, asked, revived⟩ := h.run_cons step
  exact ⟨⟨_, run, (List.append_assoc ..).symm⟩, asked, revived⟩

theorem Leads.trans (h : Leads r es x v fx r') (h' : Leads r' es' x' v' fx' r'') :
    Leads r (es ++ es') (x ++ x') (v ++ v') (fx ++ fx') r'' := by
  obtain ⟨past, run, eq⟩ := h.run
  obtain ⟨past', run', eq'⟩ := h'.run
  refine ⟨⟨past ++ past', run_append.2 ⟨_, _, _, run, run', rfl⟩, ?_⟩, ?_, ?_⟩
  · rw [← List.append_assoc, eq, List.append_assoc, eq', List.append_assoc]
  · rw [exchanges, along_append run, ← h.asked, ← h'.asked]
    rfl
  · rw [revivals, along_append run, ← h.revived, ← h'.revived]
    rfl

end

def afterDrain (s : Sender) (id : CallId) (report : DrainReport) : Errand → Sender × List Effect
  | .send line => if report.interrupted then s.keepAndFinish id line else s.ask id (.writing line)
  | .drain => s.finish id (.drained report)
  | .probe => s.finish id (.probed s.state)

theorem endDrain_eq (s : Sender) (id : CallId) (errand : Errand) (written : Nat)
    (interrupted : Bool) :
    s.endDrain id errand written interrupted =
      (s.countDrained written interrupted).afterDrain id
        ⟨written, s.buffer.size, interrupted⟩ errand := by
  have buffer := (s.countDrained_fields written interrupted).1
  cases errand with
  | drain =>
    rw [← buffer]
    rfl
  | _ => rfl

def brokenOff (s : Sender) (line : String) : Sender :=
  (countWriteFailure { s with buffer := s.buffer.back line }).markDown

theorem fail_draining {line : String} (room : s.buffer.size < s.buffer.capacity) (errand : Errand)
    (written : Nat) :
    s.fail id (.draining errand line written) =
      (((s.brokenOff line).endDrain id errand written true).1,
        .requeued line :: ((s.brokenOff line).endDrain id errand written true).2) := by
  simp only [fail, Buffer.requeue_of_room room]
  rfl

/-- A drain leads from `s` to `d`, before its lines are counted. It has written `k` lines, and it
is broken off if the next one could not be written. -/
structure Drains (s d : Sender) (k : Nat) (broken : Bool) (x : List (Request × Reply))
    (fx : List Effect) : Prop where
  frame : Frame s d
  le : k + broken.toNat ≤ s.buffer.toList.length
  whole : broken = false → k = s.buffer.toList.length
  asked : x.map Prod.fst = (s.buffer.toList.take (k + broken.toNat)).map .write
  done : ∀ q ∈ x.take k, q.2.fault = none
  broken_iff : broken = true ↔ ∃ q ∈ x, q.2.fault ≠ none
  written : writes fx = s.buffer.toList.take k
  kept : discards fx = []
  silent : returns fx = []
  left : d.buffer.toList = s.buffer.toList.drop k
  stats : d.stats =
    { s.stats with writeFailures := s.stats.writeFailures + broken.toNat }
  tracker : d.tracker = if broken then s.tracker.markDown.2 else s.tracker

theorem drains_of_nil (empty : s.buffer.toList = []) : Drains s s 0 false [] [] where
  frame := ⟨rfl, rfl, rfl, rfl, rfl⟩
  le := Nat.zero_le _
  whole _ := by rw [empty]; rfl
  asked := by rw [empty]; rfl
  done := List.forall_mem_nil _
  broken_iff := by simp
  written := rfl
  kept := rfl
  silent := rfl
  left := rfl
  stats := rfl
  tracker := rfl

section

variable {line : String} {b : Buffer} {k written : Nat} {broken : Bool} {errand : Errand}
  {x : List (Request × Reply)} {fx : List Effect}

theorem Drains.cons (pop : s.buffer.pop? = some (line, b)) (ok : r.fault = none)
    (h : Drains { s with buffer := b, holder := some (id, p), connected := r.connected } d k broken
      x fx) :
    Drains s d (k + 1) broken ((.write line, r) :: x) (.asked id p :: .accepted line :: fx) := by
  obtain ⟨lines, policy, -⟩ := Buffer.toList_of_pop? pop
  have frame := h.frame
  refine ⟨⟨frame.queue, frame.retiring, frame.closed, frame.nextId, frame.policy.trans policy⟩,
    ?_, fun whole => ?_, ?_, ?_, ?_, ?_, h.kept, h.silent, ?_, h.stats, h.tracker⟩
  · have le : k + broken.toNat ≤ b.toList.length := h.le
    rw [lines, List.length_cons]
    omega
  · rw [lines, h.whole whole]
    rfl
  · rw [lines, Nat.add_right_comm, List.take_succ_cons, List.map_cons, List.map_cons, h.asked]
  · rw [List.take_succ_cons, List.forall_mem_cons]
    exact ⟨ok, h.done⟩
  · simp only [List.exists_mem_cons_iff, h.broken_iff, ok, ne_eq, not_true_eq_false, false_or]
  · rw [lines, List.take_succ_cons]
    exact congrArg (line :: ·) h.written
  · rw [lines, h.left]
    rfl

theorem drains_of_failed (pop : s.buffer.pop? = some (line, b)) (failed : r.fault ≠ none) :
    Drains s
      (brokenOff { s with buffer := b, holder := some (id, p), connected := r.connected } line)
      0 true [(.write line, r)] [.asked id p, .requeued line] := by
  obtain ⟨lines, policy, -⟩ := Buffer.toList_of_pop? pop
  refine ⟨⟨rfl, rfl, rfl, rfl, policy⟩, ?_, nofun, ?_, ?_, ?_, rfl, rfl, rfl, ?_, rfl, rfl⟩
  · rw [lines]
    exact Nat.le_add_left ..
  · rw [lines]
    rfl
  · exact List.forall_mem_nil _
  · simpa using failed
  · change (b.back line).toList = s.buffer.toList
    rw [Buffer.toList_back, lines]

theorem room_of_pop? (bounded : s.buffer.Bounded) (pop : s.buffer.pop? = some (line, b)) :
    b.size < b.capacity := by
  obtain ⟨rest, rfl, parted⟩ := Buffer.pop?_eq_some pop
  have size := Buffer.size_of_parted parted
  exact (size ▸ bounded.le : rest.size + 1 ≤ s.buffer.capacity)

theorem pump_of_pop? (pop : s.buffer.pop? = some (line, b)) :
    s.pump id errand written =
      ({ s with buffer := b, holder := some (id, .draining errand line written) },
        [.asked id (.draining errand line written)]) := by
  rw [pump, pop]
  rfl

theorem drains_pump (bounded : s.buffer.Bounded) (id : CallId) (errand : Errand) (written : Nat)
    (rs : Stream' Reply) :
    ∃ d k broken x fx, Drains s d k broken x fx ∧ x.map Prod.snd = rs.take x.length ∧
      Leads (s.pump id errand written) (Event.replies rs x.length) x [] fx
        (d.endDrain id errand (written + k) broken) := by
  -- The lines still in the buffer shrink by one with each that is written.
  induction lines : s.buffer.toList generalizing s written rs with
  | nil =>
    rw [pump_of_nil lines]
    exact ⟨s, 0, false, [], [], drains_of_nil lines, rfl, .refl _⟩
  | cons line rest ih =>
    obtain ⟨⟨line', b⟩, pop⟩ := Option.ne_none_iff_exists'.1 fun none =>
      List.cons_ne_nil line rest (lines.symm.trans (Buffer.pop?_eq_none.1 none))
    obtain ⟨rfl, left⟩ := List.cons.inj (lines.symm.trans (Buffer.toList_of_pop? pop).1)
    rw [pump_of_pop? pop]
    let p : Phase := .draining errand line written
    let asking : Sender := { s with buffer := b, holder := some (id, p) }
    let t : Sender := { asking with connected := rs.head.connected }
    by_cases ok : rs.head.fault = none
    · obtain ⟨d, k, broken, x, fx, drains, replies, leads⟩ := ih (s := t)
        ((Buffer.Becomes.pop pop).bounded bounded) (written + 1) rs.tail left.symm
      have step := step_reply_of_ok (s := asking) rfl ok
      refine ⟨d, k + 1, broken, _, _, drains.cons pop ok, ?_, ?_⟩
      · rw [List.map_cons, replies, List.length_cons, Stream'.take_succ]
      · rw [List.length_cons, Event.replies_succ, ← Nat.add_assoc, Nat.add_right_comm]
        exact .cons step (leads.prepend [.accepted line])
    · have step := step_reply_of_failed (s := asking) rfl ok
      rw [fail_draining (s := t) (room_of_pop? bounded pop) errand written] at step
      exact ⟨_, 0, true, _, _, drains_of_failed pop ok, rfl,
        .cons step ((Leads.refl _).prepend [.requeued line])⟩

end

/-- The ways in which a call comes to drain the buffer: it comes in, or it gets the transport, or
the transport has shown itself alive to it. A call to send and a probe pass by an empty buffer,
which is a drain without lines. -/
inductive Begins (s : Sender) : Event → CallId → Errand → Sender → Prop
  | drains (free : s.holder = none) (alone : s.queue = []) (was_open : s.closed = false)
      (up : s.state = .up) (lines : s.buffer.toList ≠ []) :
      Begins s (.start .drain) s.nextId .drain { s with nextId := s.nextId + 1 }
  | drainsInTurn {id : CallId} {queue : List (CallId × Job)} (free : s.holder = none)
      (first : s.queue = (id, .run .drain) :: queue) : Begins s .grant id .drain { s with queue }
  | sends (line : String) (free : s.holder = none) (alone : s.queue = [])
      (was_open : s.closed = false) (ready : s.canSend = true) :
      Begins s (.start (.send line)) s.nextId (.send (terminated line))
        { s with nextId := s.nextId + 1, tracker := s.tracker.beginWrite }
  | sendsInTurn {id : CallId} {line : String} {queue : List (CallId × Job)}
      (free : s.holder = none) (first : s.queue = (id, .run (.send line)) :: queue)
      (was_open : s.closed = false) (up : s.state = .up) :
      Begins s .grant id (.send line) { s with queue }
  | probes {id : CallId} {p : Phase} {r : Reply} (holder : s.holder = some (id, p))
      (greeting : p = .checking ∨ p = .connecting) (ok : r.fault = none) :
      Begins s (.reply r) id .probe (revived { s with connected := r.connected })

theorem enter_send {line : String} (was_open : s.closed = false) (up : s.state = .up) :
    s.enter id (.run (.send line)) = s.pump id (.send line) 0 := by
  have isUp : s.tracker.isUp = true := beq_iff_eq.2 up
  have unbarred : ¬ (s.closed || !s.tracker.isUp) = true := by simp [was_open, isUp]
  simp only [enter, if_neg unbarred]
  split
  · rename_i empty
    rw [pump_of_nil (Buffer.isEmpty_iff.1 empty)]
    rfl
  · rfl

theorem arrive_of_free {job : Job} (free : s.holder = none) (alone : s.queue = []) :
    s.arrive id job = s.enter id job := by
  simp [arrive, free, alone]

theorem canSend_iff :
    s.canSend = true ↔ s.state = .up ∧ s.tracker.pending < s.tracker.maxPending := by
  simp [canSend, Tracker.canSend, Tracker.isUp, state]

variable {errand : Errand}

theorem Begins.step (h : Begins s e id errand s₁) : s.step e = some (s₁.pump id errand 0) := by
  cases h with
  | drains free alone was_open up lines =>
    have isUp : s.tracker.isUp = true := beq_iff_eq.2 up
    have full : s.buffer.isEmpty = false := Bool.eq_false_iff.2 (mt Buffer.isEmpty_iff.1 lines)
    simp only [Sender.step, start_eq, was_open, isUp, full, Bool.not_true, Bool.or_false,
      Bool.false_eq_true, if_false]
    exact congrArg some (arrive_of_free free alone)
  | drainsInTurn free first =>
    simp only [Sender.step, free, first]
    rfl
  | sends line free alone was_open ready =>
    have open_ : (s.closed || !s.tracker.canSend) = false := by
      rw [was_open, show s.tracker.canSend = true from ready]
      rfl
    simp only [Sender.step, start_eq, open_, Bool.false_eq_true, if_false]
    let t : Sender := { s with nextId := s.nextId + 1, tracker := s.tracker.beginWrite }
    have enters : t.arrive s.nextId (.run (.send (terminated line))) = t.enter s.nextId _ :=
      arrive_of_free free alone
    have up : t.state = .up := (canSend_iff.1 ready).1
    exact congrArg some (enters.trans (enter_send was_open up))
  | sendsInTurn free first was_open up =>
    simp only [Sender.step, free, first]
    exact congrArg some (enter_send was_open up)
  | probes holder greeting ok =>
    rw [step_reply_of_ok holder ok]
    obtain rfl | rfl := greeting
    · exact congrArg some (recover_eq_pump _ _)
    · exact congrArg some (recover_eq_pump _ _)

theorem Begins.buffer (h : Begins s e id errand s₁) : s₁.buffer = s.buffer := by
  cases h <;> rfl

section

variable {k : Nat} {broken : Bool} {x : List (Request × Reply)} {fx : List Effect}
  {q : Request × Reply}

theorem Drains.emptied (h : Drains s d k false x fx) : d.buffer.toList = [] := by
  rw [h.left, h.whole rfl, List.drop_length]

theorem Drains.asked_write (h : Drains s d k broken x fx) (mem : q ∈ x) :
    ∃ line, q.1 = .write line := by
  have asked : q.1 ∈ x.map Prod.fst := List.mem_map_of_mem mem
  rw [h.asked] at asked
  obtain ⟨line, -, eq⟩ := List.mem_map.1 asked
  exact ⟨line, eq.symm⟩

theorem Drains.failed_first (h : Drains s d k broken x fx) (mem : q ∈ x)
    (failed : q.2.fault ≠ none) : d.buffer.toList.head?.map .write = some q.1 := by
  have mem : q ∈ x.drop k := by
    rw [← List.take_append_drop k x] at mem
    exact (List.mem_append.1 mem).resolve_left fun early => failed (h.done q early)
  have rest : (x.drop k).map Prod.fst = (d.buffer.toList.take 1).map .write := by
    have broken : broken = true := h.broken_iff.2 ⟨q, List.mem_of_mem_drop mem, failed⟩
    rw [List.map_drop, h.asked, broken, ← List.map_drop, List.drop_take, h.left,
      Nat.add_sub_cancel_left]
    rfl
  have asked : q.1 ∈ (d.buffer.toList.take 1).map Request.write :=
    rest ▸ List.mem_map_of_mem mem
  cases lines : d.buffer.toList with
  | nil =>
    rw [lines] at asked
    cases asked
  | cons line _ =>
    rw [lines] at asked
    exact congrArg some (List.mem_singleton.1 asked).symm

end

theorem stats_countDrained (s : Sender) (written : Nat) (interrupted : Bool) :
    (s.countDrained written interrupted).stats =
      { s.stats with drained := s.stats.drained + written } := by
  unfold countDrained
  dsimp only
  split <;> rfl

theorem state_countDrained_of_written {written : Nat} (h : 0 < written) :
    (s.countDrained written false).state = .up := by
  rw [countDrained, if_pos (by simpa using h)]
  rfl

/-- A drain, in whatever way a call comes to it and whatever the transport replies, writes the lines
of the buffer oldest first, each once, up to the first that cannot be written. It leaves that one
and those behind it as they were, in any buffer that is in use, full or not. -/
theorem drain_writes_prefix {capacity : Nat} {policy : OverflowPolicy} {b : Buffer}
    (created : Buffer.create capacity policy = .ok b) (used : b.Becomes s.buffer)
    (begins : Begins s e id errand s₁) (results : Stream' Reply) :
    ∃ (n : Nat) (d : Sender) (report : DrainReport) (x : List (Request × Reply))
      (fx : List Effect),
      (let events := e :: Event.replies results n
        let after := d.afterDrain id report errand
        s.run events = some (after.1, fx ++ after.2) ∧ s.exchanges events = s.exchange e ++ x) ∧
      x.map Prod.snd = results.take n ∧
      x.map Prod.fst =
        (s.buffer.toList.take (report.written + report.interrupted.toNat)).map .write ∧
      (∀ q ∈ x.take report.written, q.2.fault = none) ∧
      (report.interrupted = true ↔ ∃ q ∈ x, q.2.fault ≠ none) ∧
      writes fx = s.buffer.toList.take report.written ∧
      d.buffer.toList = s.buffer.toList.drop report.written ∧
      (∀ q ∈ x, q.2.fault ≠ none → d.buffer.toList.head?.map .write = some q.1) ∧
      (report.interrupted = false → d.buffer.toList = []) ∧
      discards fx = [] ∧
      report.written + report.remaining = s.buffer.size ∧ report.remaining = d.buffer.size ∧
      d.stats = { s₁.stats with
        drained := s₁.stats.drained + report.written
        writeFailures := s₁.stats.writeFailures + report.interrupted.toNat } ∧
      (report.interrupted = true → d.state = .down) ∧
      (report.interrupted = false → 0 < report.written → d.state = .up) ∧
      (s.buffer.toList = [] → d.tracker = s₁.tracker) := by
  have bounded := used.bounded (Buffer.bounded_of_create created).1
  have same := begins.buffer
  rw [← same] at bounded ⊢
  obtain ⟨d, k, broken, x, fx, drains, replies, leads⟩ := drains_pump bounded id errand 0 results
  rw [Nat.zero_add, endDrain_eq] at leads
  have le : k ≤ s₁.buffer.toList.length := Nat.le_of_add_right_le drains.le
  have buffer := (d.countDrained_fields k broken).1
  obtain ⟨run, asked, -⟩ := leads.run_cons begins.step
  refine ⟨x.length, d.countDrained k broken, ⟨k, d.buffer.size, broken⟩, x, fx, ⟨run, asked⟩,
    replies, drains.asked, drains.done, drains.broken_iff,
    drains.written, ?_, ?_, ?_, drains.kept, ?_, ?_, ?_, ?_, ?_, ?_⟩
  · rw [buffer, drains.left]
  · rw [buffer]
    exact fun q mem failed => drains.failed_first mem failed
  · rintro rfl
    rw [buffer, drains.emptied]
  · rw [Buffer.size_eq_length, Buffer.size_eq_length, drains.left, List.length_drop]
    exact Nat.add_sub_cancel' le
  · rw [buffer]
  · rw [stats_countDrained, drains.stats]
  · rintro rfl
    rw [state_countDrained (.inr rfl), state, drains.tracker]
    rfl
  · rintro rfl
    exact state_countDrained_of_written
  · intro empty
    have none : k + broken.toNat = 0 := by
      have := drains.le
      rwa [empty, List.length_nil, Nat.le_zero] at this
    obtain ⟨rfl, unbroken⟩ := Nat.add_eq_zero_iff.1 none
    obtain rfl : broken = false := Bool.toNat_eq_zero.1 unbroken
    exact drains.tracker

theorem drain_writes_prefix_interrupted :
    let es : List Event :=
      [.markDown, .start (.send "a"), .start (.send "b"), .start (.send "c"), .markUp]
    let results : Stream' Reply := fun i => if i = 1 then ⟨some .closed, false⟩ else ⟨none, true⟩
    ∃ (s₀ s s' d : Sender) (n : Nat) (report : DrainReport) (past fx fx' : List Effect),
      startConnected ⟨5000, 3, .dropOldest, 1⟩ "e" ⟨none, true⟩ = .ok s₀ ∧
      s₀.run es = some (s, past) ∧ s.buffer.isFull = true ∧
      Begins s (.start .drain) s.nextId .drain { s with nextId := s.nextId + 1 } ∧
      s.run (.start .drain :: Event.replies results n) =
        some ((d.afterDrain s.nextId report .drain).1,
          fx ++ [.returned s.nextId (.drained report)]) ∧
      writes fx ++ d.buffer.toList = ["a\n", "b\n", "c\n"] ∧ discards fx = [] ∧
      report.written + report.remaining = 3 ∧
      s.run (.start .drain :: Event.replies results 2) = some (s', fx') ∧
      returns fx' = [(3, .drained ⟨1, 2, true⟩)] ∧ writes fx' = ["a\n"] ∧
      s'.buffer.toList = ["b\n", "c\n"] := by
  intro es results
  obtain ⟨s₀, built, seen⟩ : ∃ s₀,
      startConnected ⟨5000, 3, .dropOldest, 1⟩ "e" ⟨none, true⟩ = .ok s₀ ∧
      ((s₀.run es).bind fun r => (r.1.run (.start .drain :: Event.replies results 2)).map fun r' =>
        (r.1.isIdle && !r.1.closed && r.1.buffer.isFull, r.1.state,
          decide (returns r'.2 = [(3, .drained ⟨1, 2, true⟩)]),
          [r.1.buffer.toList, writes r'.2, r'.1.buffer.toList])) =
        some (true, .up, true, [["a\n", "b\n", "c\n"], ["a\n"], ["b\n", "c\n"]]) :=
    ⟨_, rfl, by decide +kernel⟩
  obtain ⟨⟨s, past⟩, run, seen⟩ := Option.bind_eq_some_iff.1 seen
  obtain ⟨⟨s', fx'⟩, ends, seen⟩ := Option.map_eq_some_iff.1 seen
  simp only [Prod.mk.injEq, Bool.and_eq_true, Bool.not_eq_true', decide_eq_true_eq,
    List.cons.injEq, and_true] at seen
  obtain ⟨⟨⟨idle, was_open⟩, full⟩, up, returned, lines, gained, rest⟩ := seen
  obtain ⟨free, alone, -⟩ := isIdle_iff.1 idle
  have created : Buffer.create 3 .dropOldest = .ok s₀.buffer := by
    cases built
    rfl
  have begins := Begins.drains free alone was_open up (by simp [lines])
  obtain ⟨n, d, report, x, fx, ⟨drained, -⟩, -, -, -, -, written, left, -, -, kept, total, -⟩ :=
    drain_writes_prefix created (becomes_run run) begins results
  refine ⟨s₀, s, s', d, n, report, past, fx, fx', built, run, full, begins, drained, ?_, kept, ?_,
    ends, returned, gained, rest⟩
  · rw [written, left, List.take_append_drop, lines]
  · rw [total, Buffer.size_eq_length, lines]
    rfl

end Sender

end MetricRelay
