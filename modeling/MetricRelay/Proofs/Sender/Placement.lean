import MetricRelay.Proofs.Sender.Readiness

namespace MetricRelay

theorem Buffer.capacity_push (b : Buffer) (line : String) :
    (b.push line).2.capacity = b.capacity := by
  unfold push
  dsimp only
  split
  · split
    · rfl
    · split <;> rfl
  · rfl

namespace Sender

open Effect

variable {s s' d s₀ : Sender} {es : List Event} {past fx : List Effect} {text : String}
  {first own x : List (Request × Reply)} {wire : List String} {k : Nat}

theorem outcome_keep (s : Sender) (line : String) :
    (s.keep line).1 =
      match (s.buffer.push line).1 with
      | .refused _ => .rejected
      | _ => .buffered := by
  unfold keep
  rcases s.buffer.push line with ⟨outcome, b⟩
  cases outcome <;> rfl

/-- Where a line is after the call to send that brought it. The wire has gained `wire`, and `own` is
what the transport was asked once the backlog was on the wire. -/
inductive Placed (s s' : Sender) (text : String) (own : List (Request × Reply))
    (wire : List String) : Outcome → Prop
  | written (r : Reply) (asked : own = [(.write text, r)]) (ok : r.fault = none)
      (gained : wire = s.buffer.toList ++ [text]) (emptied : s'.buffer.toList = []) :
      Placed s s' text own wire .sent
  | waits (k : Nat) (le : k ≤ s.buffer.toList.length) (failed : ∀ q ∈ own, q.2.fault ≠ none)
      (gained : wire = s.buffer.toList.take k)
      (last : s'.buffer.toList = s.buffer.toList.drop k ++ [text]) :
      Placed s s' text own wire .buffered
  | displaces (full : s.buffer.size = s.buffer.capacity) (policy : s.buffer.policy = .dropOldest)
      (failed : ∀ q ∈ own, q.2.fault ≠ none) (gained : wire = [])
      (last : s'.buffer.toList = s.buffer.toList.tail ++ [text]) :
      Placed s s' text own wire .buffered
  | refused (full : s.buffer.size = s.buffer.capacity) (policy : s.buffer.policy = .rejectNewest)
      (failed : ∀ q ∈ own, q.2.fault ≠ none) (gained : wire = [])
      (same : s'.buffer.toList = s.buffer.toList) : Placed s s' text own wire .rejected

structure Partway (s d : Sender) (k : Nat) (fx : List Effect) : Prop where
  le : k ≤ s.buffer.toList.length
  left : d.buffer.toList = s.buffer.toList.drop k
  capacity : d.buffer.capacity = s.buffer.capacity
  policy : d.buffer.policy = s.buffer.policy
  alone : d.queue = []
  retiring : d.retiring = none
  gained : writes fx = s.buffer.toList.take k
  silent : returns fx = []

theorem Partway.bounded (h : Partway s d k fx) (bounded : s.buffer.Bounded) :
    d.buffer.Bounded := by
  have within := bounded.le
  refine ⟨h.capacity ▸ bounded.pos, ?_⟩
  rw [Buffer.size_eq_length] at within
  rw [h.capacity, Buffer.size_eq_length, h.left, List.length_drop]
  exact Nat.le_trans (Nat.sub_le ..) within

theorem Partway.ask (h : Partway s d k fx) (id : CallId) (p : Phase) :
    Partway s (d.ask id p).1 k (fx ++ (d.ask id p).2) where
  le := h.le
  left := h.left
  capacity := h.capacity
  policy := h.policy
  alone := h.alone
  retiring := h.retiring
  gained := by
    rw [writes_append, h.gained]
    exact List.append_nil _
  silent := by
    rw [returns_append, h.silent]
    rfl

theorem Partway.eq_zero_of_full (h : Partway s d k fx) (bounded : s.buffer.Bounded)
    (full : d.buffer.size = d.buffer.capacity) : k = 0 ∧ s.buffer.size = s.buffer.capacity := by
  have pos := bounded.pos
  have within := bounded.le
  have le := h.le
  rw [Buffer.size_eq_length, h.left, List.length_drop, h.capacity] at full
  rw [Buffer.size_eq_length] at within ⊢
  omega

theorem Partway.placed (h : Partway s d k fx) (bounded : s.buffer.Bounded)
    (failed : ∀ q ∈ own, q.2.fault ≠ none) (buffer : s'.buffer = (d.keep text).2.1.buffer) :
    Placed s s' text own (writes fx) (d.keep text).1 := by
  have lines : s'.buffer.toList = (d.buffer.push text).2.toList := by rw [buffer, buffer_keep]
  have acting := (h.bounded bounded).acting_push text
  rw [outcome_keep]
  generalize pushed : d.buffer.act (.push text) = r at acting
  cases acting with
  | queues room =>
    obtain ⟨outcome, after⟩ := Prod.mk.inj pushed
    rw [Buffer.Gain.pushed.inj outcome]
    rw [after, Buffer.toList_add, h.left] at lines
    exact .waits k h.le failed h.gained lines
  | @displaces _ oldest rest full policy parted =>
    obtain ⟨outcome, after⟩ := Prod.mk.inj pushed
    obtain ⟨rfl, full⟩ := h.eq_zero_of_full bounded full
    have backlog : s.buffer.toList = oldest :: rest.toList := by
      rw [policy, h.left, List.drop_zero] at parted
      exact parted
    rw [Buffer.Gain.pushed.inj outcome]
    rw [after, Buffer.toList_add] at lines
    refine .displaces full (h.policy ▸ policy) failed h.gained ?_
    rw [lines, backlog]
    rfl
  | refuses full policy =>
    obtain ⟨outcome, after⟩ := Prod.mk.inj pushed
    obtain ⟨rfl, full⟩ := h.eq_zero_of_full bounded full
    rw [Buffer.Gain.pushed.inj outcome]
    rw [after] at lines
    exact .refused full (h.policy ▸ policy) failed h.gained (lines.trans h.left)

/-- How a call to send ends that comes in when no other is under way. -/
structure Sends (s s' : Sender) (text : String) (x : List (Request × Reply)) (fx : List Effect)
    (o : Outcome) : Prop where
  returned : returns fx = [(s.nextId, .outcome o)]
  idle : s'.isIdle = true
  asked : x.map Prod.fst = ((s.buffer.toList ++ [text]).take x.length).map .write
  placed : Placed s s' text (x.drop s.buffer.toList.length) (writes fx) o

theorem sends_of_unready (bounded : s.buffer.Bounded) (idle : s.isIdle = true)
    (unready : ¬ (s.canSend = true ∧ s.closed = false)) (line : String) :
    ∃ o, Sends s (s.start (.send line)).1 (terminated line) [] (s.start (.send line)).2 o := by
  let t : Sender := { s with nextId := s.nextId + 1 }
  obtain ⟨free, alone, retiring⟩ := isIdle_iff.1 idle
  have partway : Partway s t 0 [] := ⟨Nat.zero_le _, rfl, rfl, rfl, alone, retiring, rfl, rfl⟩
  have same := t.undisturbed_keep (terminated line)
  rw [start_send_eq_of_unready unready]
  refine ⟨(t.keep (terminated line)).1, ?_, ?_, rfl, ?_⟩
  · rw [returns_append, returns_keep]
    rfl
  · exact isIdle_iff.2
      ⟨same.holder.trans free, same.queue.trans alone, same.retiring.trans retiring⟩
  · rw [List.drop_nil, writes_append, writes_keep]
    exact partway.placed bounded (List.forall_mem_nil _) rfl

theorem Partway.sends (h : Partway s d k fx) (bounded : s.buffer.Bounded)
    (asked : x.map Prod.fst = ((s.buffer.toList ++ [text]).take x.length).map .write)
    (failed : ∀ q ∈ x.drop s.buffer.toList.length, q.2.fault ≠ none) :
    let r := d.keepAndFinish s.nextId text
    Sends s r.1 text x (fx ++ r.2) (d.keep text).1 := by
  intro r
  have same := d.undisturbed_keep text
  refine ⟨?_, ?_, asked, ?_⟩
  · change returns (fx ++ ((d.keep text).2.2 ++ [.returned s.nextId _])) = _
    rw [returns_append, h.silent, returns_append, returns_keep]
    rfl
  · exact isIdle_iff.2 ⟨rfl, same.queue.trans h.alone, same.retiring.trans h.retiring⟩
  · rw [writes_append, writes_keepAndFinish, List.append_nil]
    exact h.placed bounded failed rfl

section

variable {s₁ : Sender} {broken : Bool}

theorem Drains.length_eq (h : Drains s d k broken x fx) : x.length = k + broken.toNat := by
  rw [← List.length_map Prod.fst, h.asked, List.length_map, List.length_take,
    Nat.min_eq_left h.le]

theorem Drains.asked_prefix (h : Drains s d k broken x fx) (text : String) :
    x.map Prod.fst = ((s.buffer.toList ++ [text]).take x.length).map .write := by
  have le : x.length ≤ s.buffer.toList.length := h.length_eq ▸ h.le
  rw [List.take_append_of_le_length le, h.asked, h.length_eq]

theorem capacity_afterDrain (s : Sender) (id : CallId) (report : DrainReport) (errand : Errand) :
    (s.afterDrain id report errand).1.buffer.capacity = s.buffer.capacity := by
  cases errand with
  | send line =>
    unfold afterDrain
    dsimp only
    split
    · change (s.keep line).2.1.buffer.capacity = _
      rw [buffer_keep, Buffer.capacity_push]
    · rfl
  | drain => rfl
  | probe => rfl

theorem Drains.partway (h : Drains s₁ d k broken x fx) (buffer : s₁.buffer = s.buffer)
    (alone : s₁.queue = []) (retiring : s₁.retiring = none)
    (capacity : d.buffer.capacity = s.buffer.capacity) :
    Partway s (d.countDrained k broken) k fx := by
  have frame := h.frame.trans (d.frame_countDrained k broken)
  have same := (d.countDrained_fields k broken).1
  refine ⟨?_, ?_, ?_, ?_, frame.queue.trans alone, frame.retiring.trans retiring, ?_, h.silent⟩
  · exact buffer ▸ Nat.le_of_add_right_le h.le
  · rw [same, h.left, buffer]
  · rw [same, capacity]
  · rw [frame.policy, buffer]
  · rw [h.written, buffer]

end

theorem Partway.sends_of_asked {r : Reply} (h : Partway s d s.buffer.toList.length fx)
    (bounded : s.buffer.Bounded) (holder : d.holder = some (s.nextId, .writing text))
    (asked : x.map Prod.fst = s.buffer.toList.map .write) :
    ∃ s' fx' o, d.step (.reply r) = some (s', fx') ∧
      Sends s s' text (x ++ [(.write text, r)]) (fx ++ fx') o := by
  have whole : x.length = s.buffer.toList.length := by
    rw [← List.length_map Prod.fst, asked, List.length_map]
  have asked : (x ++ [(Request.write text, r)]).map Prod.fst =
      ((s.buffer.toList ++ [text]).take (x ++ [(Request.write text, r)]).length).map .write := by
    rw [List.take_of_length_le (by simp [whole]), List.map_append, asked, List.map_append]
    rfl
  have own : (x ++ [(Request.write text, r)]).drop s.buffer.toList.length =
      [(.write text, r)] := by rw [← whole, List.drop_left]
  by_cases ok : r.fault = none
  · refine ⟨_, _, .sent, step_reply_of_ok holder ok, ?_, ?_, asked, ?_⟩
    · rw [returns_append, h.silent]
      rfl
    · exact isIdle_iff.2 ⟨rfl, h.alone, h.retiring⟩
    · rw [own]
      refine .written r rfl ok ?_ (h.left.trans (List.drop_length ..))
      rw [writes_append, h.gained, List.take_length]
      rfl
  · let t : Sender := (countWriteFailure { d with connected := r.connected }).markDown
    have still : Partway s t s.buffer.toList.length fx :=
      ⟨h.le, h.left, h.capacity, h.policy, h.alone, h.retiring, h.gained, h.silent⟩
    refine ⟨_, _, _, step_reply_of_failed holder ok, still.sends bounded asked ?_⟩
    rw [own, List.forall_mem_singleton]
    exact ok

theorem sends_of_ready (bounded : s.buffer.Bounded) (idle : s.isIdle = true)
    (ready : s.canSend = true ∧ s.closed = false) (line : String) (rs : Stream' Reply) :
    ∃ x s' fx o, Sends s s' (terminated line) x fx o ∧ x.map Prod.snd = rs.take x.length ∧
      s.run (.start (.send line) :: Event.replies rs x.length) = some (s', fx) ∧
      s.exchanges (.start (.send line) :: Event.replies rs x.length) = x := by
  obtain ⟨free, alone, retiring⟩ := isIdle_iff.1 idle
  have begins := Begins.sends line free alone ready.2 ready.1
  obtain ⟨d, k, broken, x, fx, drains, replies, leads⟩ :=
    drains_pump (s := { s with nextId := s.nextId + 1, tracker := s.tracker.beginWrite }) bounded
      s.nextId (.send (terminated line)) 0 rs
  rw [Nat.zero_add, endDrain_eq] at leads
  have asked := drains.asked_prefix (terminated line)
  obtain ⟨run, exchanged, -⟩ := leads.run_cons begins.step
  have capacity : d.buffer.capacity = s.buffer.capacity := by
    have same := (becomes_run run).capacity bounded
    rwa [capacity_afterDrain, (d.countDrained_fields k broken).1] at same
  have partway : Partway s (d.countDrained k broken) k fx :=
    drains.partway rfl alone retiring capacity
  -- Only if the drain comes through is the call's own line written.
  cases broken with
  | true =>
    have le : x.length ≤ s.buffer.toList.length := drains.length_eq ▸ drains.le
    refine ⟨x, _, _, _, partway.sends bounded asked ?_, replies, run, exchanged⟩
    rw [List.drop_of_length_le le]
    exact List.forall_mem_nil _
  | false =>
    obtain rfl : k = s.buffer.toList.length := drains.whole rfl
    let asking := (d.countDrained s.buffer.toList.length false).ask s.nextId
      (.writing (terminated line))
    have holder : asking.1.holder = some (s.nextId, .writing (terminated line)) := rfl
    have partway := partway.ask s.nextId (.writing (terminated line))
    have whole : x.map Prod.fst = s.buffer.toList.map .write := by
      rw [drains.asked]
      exact congrArg (List.map _) List.take_length
    let r := (rs.drop x.length).head
    obtain ⟨s', fx', o, step, sends⟩ := partway.sends_of_asked (r := r) bounded holder whole
    have own : asking.1.exchange (.reply r) ++ [] = [(.write (terminated line), r)] :=
      (List.append_nil _).trans (exchange_reply holder)
    obtain ⟨run, exchanged, -⟩ :=
      (leads.trans (.cons step (.refl (s', fx')))).run_cons begins.step
    have events : Event.replies rs (x ++ [(Request.write (terminated line), r)]).length =
        Event.replies rs x.length ++ [.reply r] := by
      rw [List.length_append, Event.replies_add]
      rfl
    refine ⟨_, s', _, o, sends, ?_, ?_, ?_⟩
    · rw [List.map_append, replies, List.length_append, Stream'.take_add]
      rfl
    · rw [events, run, ← List.append_assoc, List.append_nil]
      rfl
    · rw [events, exchanged]
      exact congrArg (x ++ ·) own

section

variable {o : Outcome}

theorem Placed.sent_iff (h : Placed s s' text own wire o) :
    o = .sent ↔ ∃ q ∈ own, q.1 = .write text ∧ q.2.fault = none := by
  have unsent (o : Outcome) (other : o ≠ .sent) (failed : ∀ q ∈ own, q.2.fault ≠ none) :
      o = .sent ↔ ∃ q ∈ own, q.1 = .write text ∧ q.2.fault = none :=
    ⟨fun sent => absurd sent other, fun ⟨q, mem, _, ok⟩ => absurd ok (failed q mem)⟩
  cases h with
  | written r asked ok gained emptied =>
    exact ⟨fun _ => ⟨_, asked ▸ List.mem_singleton_self _, rfl, ok⟩, fun _ => rfl⟩
  | waits k le failed gained last => exact unsent .buffered nofun failed
  | displaces full policy failed gained last => exact unsent .buffered nofun failed
  | refused full policy failed gained same => exact unsent .rejected nofun failed

theorem Placed.gained_iff (h : Placed s s' text own wire o) :
    o = .sent ↔ wire = s.buffer.toList ++ [text] := by
  have unsent (o : Outcome) (other : o ≠ .sent) (short : wire.length ≤ s.buffer.toList.length) :
      o = .sent ↔ wire = s.buffer.toList ++ [text] := by
    refine ⟨fun sent => absurd sent other, fun gained => ?_⟩
    rw [gained, List.length_append] at short
    exact absurd short (Nat.not_succ_le_self _)
  cases h with
  | written r asked ok gained emptied => exact ⟨fun _ => gained, fun _ => rfl⟩
  | waits k le failed gained last => exact unsent .buffered nofun (gained ▸ List.length_take_le' ..)
  | displaces full policy failed gained last =>
    exact unsent .buffered nofun (gained ▸ Nat.zero_le _)
  | refused full policy failed gained same =>
    exact unsent .rejected nofun (gained ▸ Nat.zero_le _)

def Waits (s s' : Sender) (text : String) (wire : List String) : Prop :=
  ∃ k ≤ s.buffer.toList.length, wire = s.buffer.toList.take k ∧
    (s'.buffer.toList = s.buffer.toList.drop k ++ [text] ∨
      k = 0 ∧ s.buffer.size = s.buffer.capacity ∧ s.buffer.policy = .dropOldest ∧
        s'.buffer.toList = s.buffer.toList.tail ++ [text])

theorem Placed.waits_iff (h : Placed s s' text own wire o) (bounded : s.buffer.Bounded) :
    o = .buffered ↔ Waits s s' text wire := by
  cases h with
  | written r asked ok gained emptied =>
    refine ⟨nofun, fun ⟨k, le, short, _⟩ => ?_⟩
    have := congrArg List.length (gained.symm.trans short)
    rw [List.length_append, List.length_take, Nat.min_eq_left le] at this
    exact absurd (this ▸ le) (Nat.not_succ_le_self _)
  | waits k le failed gained last => exact ⟨fun _ => ⟨k, le, gained, .inl last⟩, fun _ => rfl⟩
  | displaces full policy failed gained last =>
    exact ⟨fun _ => ⟨0, Nat.zero_le _, gained, .inr ⟨rfl, full, policy, last⟩⟩, fun _ => rfl⟩
  | refused full policy failed gained same =>
    refine ⟨nofun, fun ⟨k, le, short, place⟩ => ?_⟩
    obtain last | ⟨-, -, drops, -⟩ := place
    · -- nothing has gone out of a full buffer, so there was no room behind what is in it
      have pos : 0 < s.buffer.toList.length := by
        rw [← Buffer.size_eq_length, full]
        exact bounded.pos
      have gone := congrArg List.length (gained.symm.trans short)
      have grown := congrArg List.length (same.symm.trans last)
      rw [List.length_nil, List.length_take] at gone
      rw [List.length_append, List.length_drop, List.length_singleton] at grown
      omega
    · cases policy.symm.trans drops

theorem Placed.of_notMem (h : Placed s s' text own wire o) (new : text ∉ s.buffer.toList) :
    (o = .sent ↔ text ∈ wire) ∧ (o = .buffered ↔ text ∈ s'.buffer.toList) := by
  cases h with
  | written r asked ok gained emptied => simp [gained, emptied]
  | waits k le failed gained last =>
    have unwritten : text ∉ wire := gained ▸ fun mem => new (List.mem_of_mem_take mem)
    simp [unwritten, last]
  | displaces full policy failed gained last => simp [gained, last]
  | refused full policy failed gained same => simp [gained, same, new]

theorem Placed.of_rejected (h : Placed s s' text own wire .rejected) :
    s.buffer.policy = .rejectNewest ∧ s.buffer.size = s.buffer.capacity ∧ wire = [] ∧
      s'.buffer.toList = s.buffer.toList := by
  cases h with
  | refused full policy failed gained same => exact ⟨policy, full, gained, same⟩

theorem Placed.of_sent (h : Placed s s' text own wire .sent) : s'.buffer.toList = [] := by
  cases h with
  | written r asked ok gained emptied => exact emptied

end

theorem sends (bounded : s.buffer.Bounded) (idle : s.isIdle = true) (line : String)
    (rs : Stream' Reply) :
    ∃ x s' fx o, Sends s s' (terminated line) x fx o ∧ x.map Prod.snd = rs.take x.length ∧
      s.run (.start (.send line) :: Event.replies rs x.length) = some (s', fx) ∧
      s.exchanges (.start (.send line) :: Event.replies rs x.length) = x ∧
      (¬ (s.canSend = true ∧ s.closed = false) → x = [] ∧ requests fx = []) := by
  by_cases ready : s.canSend = true ∧ s.closed = false
  · obtain ⟨x, s', fx, o, ends, replies, run, asked⟩ := sends_of_ready bounded idle ready line rs
    exact ⟨x, s', fx, o, ends, replies, run, asked, fun unready => absurd ready unready⟩
  · obtain ⟨o, ends⟩ := sends_of_unready bounded idle ready line
    obtain ⟨silent, -⟩ := start_send_of_unready ready line
    refine ⟨[], _, _, o, ends, rfl, ?_, ?_, fun _ => ⟨rfl, silent⟩⟩
    · exact run_cons.2 ⟨_, _, [], rfl, rfl, (List.append_nil _).symm⟩
    · exact along_cons (e := .start (.send line)) rfl

/-- A call to send comes to a sender at rest, and the transport replies whatever it likes. The line
is written, behind the whole backlog, exactly if the call returns that it was sent. It is buffered,
behind what could not be written of the backlog, exactly if the call returns that; and it is rejected
only by a full buffer, of which nothing could be written and which stays as it is. If the link is
down, or there is no room for a pending write, or the sender is closed, the transport is left alone. -/
theorem outcome_places (begun : Begun s₀ first) (run : s₀.run es = some (s, past))
    (idle : s.isIdle = true) (line : String) (results : Stream' Reply) :
    ∃ (n : Nat) (s' : Sender) (fx : List Effect) (o : Outcome),
      let events := .start (.send line) :: Event.replies results n
      let x := s.exchanges events
      let text := terminated line
      let backlog := s.buffer.toList
      (s.run events = some (s', fx) ∧ returns fx = [(s.nextId, .outcome o)] ∧
          s'.isIdle = true) ∧
        (x.map Prod.snd = results.take n ∧
          x.map Prod.fst = ((backlog ++ [text]).take n).map .write) ∧
        (o = .sent ↔ ∃ q ∈ x.drop backlog.length, q.1 = .write text ∧ q.2.fault = none) ∧
        (o = .sent ↔ writes fx = backlog ++ [text]) ∧ (o = .sent → s'.buffer.toList = []) ∧
        (o = .buffered ↔ Waits s s' text (writes fx)) ∧
        (o = .rejected → s.buffer.policy = .rejectNewest ∧ s.buffer.size = s.buffer.capacity ∧
          writes fx = [] ∧ s'.buffer.toList = backlog) ∧
        (text ∉ backlog →
          (o = .sent ↔ text ∈ writes fx) ∧ (o = .buffered ↔ text ∈ s'.buffer.toList)) ∧
        (s.state = .down ∨ s.tracker.maxPending ≤ s.tracker.pending ∨ s.closed = true →
          x = [] ∧ requests fx = []) := by
  have bounded := begun.bounded_run run
  obtain ⟨x, s', fx, o, ends, replies, run, asked, silent⟩ := sends bounded idle line results
  refine ⟨x.length, s', fx, o, ?_⟩
  intro events x' text backlog
  have asked : x' = x := asked
  rw [asked]
  refine ⟨⟨run, ends.returned, ends.idle⟩, ⟨replies, ends.asked⟩, ends.placed.sent_iff,
    ends.placed.gained_iff, ?_, ends.placed.waits_iff bounded, ?_, ends.placed.of_notMem, ?_⟩
  · rintro rfl
    exact ends.placed.of_sent
  · rintro rfl
    exact ends.placed.of_rejected
  · intro barred
    refine silent fun ready => ?_
    obtain ⟨up, room⟩ := canSend_iff.1 ready.1
    obtain down | full | closed := barred
    · cases up.symm.trans down
    · exact Nat.not_lt_of_le full room
    · cases ready.2.symm.trans closed

theorem outcome_places_interrupted :
    let es : List Event := [.hold, .start (.send "a"), .start (.send "b"), .release]
    let results : Stream' Reply := fun i => if i = 1 then ⟨some .closed, false⟩ else ⟨none, true⟩
    ∃ (s₀ s s' : Sender) (past fx : List Effect) (n : Nat),
      Begun s₀ [(.connect, ⟨none, true⟩)] ∧ s₀.run es = some (s, past) ∧ s.isIdle = true ∧
      s.state = .up ∧ s.buffer.toList = ["a\n", "b\n"] ∧
      s.run (.start (.send "c") :: Event.replies results n) = some (s', fx) ∧ n = 2 ∧
      returns fx = [(s.nextId, .outcome .buffered)] ∧ writes fx = ["a\n"] ∧
      s'.buffer.toList = ["b\n", "c\n"] := by
  intro es results
  let events (n : Nat) : List Event := .start (.send "c") :: Event.replies results n
  let ends (s : Sender) (n : Nat) : Option (Bool × List String) :=
    (s.run (events n)).map fun r => (r.1.isIdle, writes r.2)
  obtain ⟨s₀, built, seen⟩ : ∃ s₀,
      startConnected ⟨5000, 2, .dropOldest, 1⟩ "e" ⟨none, true⟩ = .ok s₀ ∧
      (s₀.run es).map (fun r => (r.1.isIdle, r.1.state, r.1.buffer.toList,
        decide (ends r.1 0 = some (false, []) ∧ ends r.1 1 = some (false, ["a\n"]) ∧
          ends r.1 2 = some (true, ["a\n"]) ∧ ends r.1 3 = none))) =
        some (true, .up, ["a\n", "b\n"], true) := ⟨_, rfl, by decide +kernel⟩
  obtain ⟨⟨s, past⟩, run, seen⟩ := Option.map_eq_some_iff.1 seen
  simp only [Prod.mk.injEq, decide_eq_true_eq] at seen
  obtain ⟨idle, up, backlog, zero, one, two, three⟩ := seen
  have begun : Begun s₀ [(.connect, ⟨none, true⟩)] := .connected built
  obtain ⟨n, s', fx, o, ⟨end_, returned, rest⟩, ⟨replies, asked⟩, -, sent, -, waits, rejected, -⟩ :=
    outcome_places begun run idle "c" results
  have seen : ends s n = some (true, writes fx) := by
    rw [← rest]
    exact Option.map_eq_some_iff.2 ⟨_, end_, rfl⟩
  -- The call asks for no more than three writes, so there are few ends that it can come to.
  have few : n ≤ 3 := by
    have asked := congrArg List.length asked
    have replied := congrArg List.length replies
    rw [List.length_map, List.length_map, List.length_take, backlog] at asked
    rw [List.length_map, Stream'.length_take, asked] at replied
    exact replied ▸ Nat.min_le_right ..
  have second : n = 2 ∧ writes fx = ["a\n"] := by
    match n, few, seen with
    | 0, _, seen => cases zero.symm.trans seen
    | 1, _, seen => cases one.symm.trans seen
    | 2, _, seen =>
      have same := Option.some.inj (two.symm.trans seen)
      exact ⟨rfl, (congrArg Prod.snd same).symm⟩
    | 3, _, seen => cases three.symm.trans seen
  obtain ⟨rfl, gained⟩ := second
  have buffered : o = .buffered := by
    cases o with
    | sent =>
      have whole := gained.symm.trans (sent.1 rfl)
      rw [backlog] at whole
      cases whole
    | buffered => rfl
    | rejected => cases gained.symm.trans (rejected rfl).2.2.1
  obtain ⟨k, le, written, place⟩ := waits.1 buffered
  rw [backlog] at le written place
  obtain rfl : k = 1 := by
    have one := congrArg List.length (gained.symm.trans written)
    rw [List.length_take, Nat.min_eq_left le] at one
    exact one.symm
  obtain last | ⟨none, -⟩ := place
  · exact ⟨s₀, s, s', past, fx, 2, begun, run, idle, up, backlog, end_, rfl, buffered ▸ returned,
      gained, last.trans (by decide +kernel)⟩
  · cases none

end Sender

end MetricRelay
