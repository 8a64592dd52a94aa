import MetricRelay.Proofs.Sender.Conservation

/-!
The counters of a sender beside those of its buffer. They agree, but for one path: when a line that
could not be written goes back into a buffer that was filled meanwhile, the buffer counts what it
lets go of, and the sender does not.
-/
namespace MetricRelay

namespace Buffer

theorem pushed_of_create {capacity : Nat} {policy : OverflowPolicy} {b : Buffer}
    (h : create capacity policy = .ok b) : b.pushed = 0 := by
  unfold create at h
  split at h
  · cases h
  · cases h
    rfl

theorem pushed_push (b : Buffer) (line : String) :
    (b.push line).2.pushed =
      match (b.push line).1 with
      | .refused _ => b.pushed
      | _ => b.pushed + 1 := by
  unfold push
  dsimp only
  split
  · split
    · rfl
    · split <;> rfl
  · rfl

theorem pushed_of_pop? {b b' : Buffer} {line : String} (h : b.pop? = some (line, b')) :
    b'.pushed = b.pushed := by
  obtain ⟨r, -, h⟩ := Option.map_eq_some_iff.1 h
  cases h
  rfl

theorem pushed_evict (n : Nat) (b : Buffer) : (b.evict n).2.pushed = b.pushed := by
  induction n generalizing b with
  | zero => rfl
  | succ n ih =>
    unfold evict
    split
    · rfl
    · exact ih _

theorem pushed_requeue (b : Buffer) (line : String) :
    (b.requeue line).2.pushed = b.pushed := pushed_evict ..

theorem requeue_ne_nil_iff (b : Buffer) (line : String) :
    (b.requeue line).1 ≠ [] ↔ b.isFull = true := by
  let back : Buffer :=
    { b with lines := b.lines.pushFront line, bytes := b.bytes + line.utf8ByteSize }
  have lines : back.toList = line :: b.toList := Deque.toList_pushFront ..
  have size : back.size = b.size + 1 := by
    rw [size_eq_length, lines, List.length_cons, ← size_eq_length]
  have victim : back.victim? ≠ none := by
    unfold victim?
    split
    · rw [Ne, Deque.popFront?_eq_none, toList_eq, lines]
      simp
    · rw [Ne, Deque.popBack?_eq_none, toList_eq, lines]
      simp
  change (back.evict (back.size - back.capacity)).1 ≠ [] ↔ _
  rw [size, isFull, decide_eq_true_eq]
  change (back.evict (b.size + 1 - b.capacity)).1 ≠ [] ↔ _
  cases excess : b.size + 1 - b.capacity with
  | zero =>
    have room : ¬ b.capacity ≤ b.size := by omega
    exact iff_of_false (fun h => h rfl) room
  | succ n =>
    have full : b.capacity ≤ b.size := by omega
    refine iff_of_true ?_ full
    unfold evict
    split
    · rename_i none
      exact absurd none victim
    · exact List.cons_ne_nil _ _

end Buffer

namespace Sender

open Effect

structure Counted (n : Nat) (s : Sender) : Prop where
  buffered : s.stats.buffered = s.buffer.pushed
  rejected : s.stats.rejected = s.buffer.rejected
  dropped : s.stats.dropped + n = s.buffer.dropped

variable {n : Nat} {s s' : Sender} {id : CallId}

theorem Started.counted (h : Started s) : Counted 0 s := by
  have built {config : SenderConfig} {state : LinkState} {connected : Bool} {s : Sender}
      (h : build config state connected = .ok s) : Counted 0 s := by
    unfold build at h
    split at h
    · cases h
    · rename_i buffer created
      cases h
      obtain ⟨-, dropped, rejected, -⟩ := Buffer.create_ok created
      exact ⟨(Buffer.pushed_of_create created).symm, rejected.symm, dropped.symm⟩
  obtain ⟨config, endpoint, reply, h⟩ | ⟨config, hasRuntime, h⟩ := h
  · obtain ⟨-, -, s₁, h₁, rfl⟩ := startConnected_ok h
    exact ⟨(built h₁).buffered, (built h₁).rejected, (built h₁).dropped⟩
  · exact built (startDisconnected_ok h).2.2

theorem pushed_keep (s : Sender) (line : String) :
    (s.keep line).2.1.buffer.pushed =
      if (s.keep line).1 = .rejected then s.buffer.pushed else s.buffer.pushed + 1 := by
  have pushed := s.buffer.pushed_push line
  unfold keep
  rcases h : s.buffer.push line with ⟨outcome, b⟩
  rw [h] at pushed
  cases outcome <;> exact pushed

theorem counted_keep (h : Counted n s) (line : String) : Counted n (s.keep line).2.1 := by
  have pushed := s.pushed_keep line
  obtain ⟨b, k, -, -, dropped, rejected⟩ |
    ⟨b, oldest, rest, k, -, -, -, -, dropped, rejected⟩ |
    ⟨b, k, -, -, dropped, rejected⟩ := s.keep_cases line
  · rw [k] at pushed ⊢
    exact ⟨(congrArg (· + 1) h.buffered).trans pushed.symm, h.rejected.trans rejected.symm,
      h.dropped.trans dropped.symm⟩
  · rw [k] at pushed ⊢
    refine ⟨(congrArg (· + 1) h.buffered).trans pushed.symm, h.rejected.trans rejected.symm, ?_⟩
    change s.stats.dropped + 1 + n = b.dropped
    rw [dropped, ← h.dropped, Nat.add_right_comm]
  · rw [k] at pushed ⊢
    exact ⟨h.buffered.trans pushed.symm, (congrArg (· + 1) h.rejected).trans rejected.symm,
      h.dropped.trans dropped.symm⟩

theorem counted_ask (h : Counted n s) (p : Phase) : Counted n (s.ask id p).1 :=
  ⟨h.buffered, h.rejected, h.dropped⟩

theorem counted_finish (h : Counted n s) (a : Answer) : Counted n (s.finish id a).1 :=
  ⟨h.buffered, h.rejected, h.dropped⟩

theorem counted_keepAndFinish (h : Counted n s) (line : String) :
    Counted n (s.keepAndFinish id line).1 :=
  have kept := counted_keep h line
  ⟨kept.buffered, kept.rejected, kept.dropped⟩

theorem counted_countDrained (h : Counted n s) (written : Nat) (interrupted : Bool) :
    Counted n (s.countDrained written interrupted) := by
  unfold countDrained
  dsimp only
  split <;> exact ⟨h.buffered, h.rejected, h.dropped⟩

theorem counted_endDrain (h : Counted n s) (errand : Errand) (written : Nat)
    (interrupted : Bool) : Counted n (s.endDrain id errand written interrupted).1 := by
  have counted := counted_countDrained h written interrupted
  cases errand with
  | send line =>
    cases interrupted with
    | true => exact counted_keepAndFinish counted line
    | false => exact counted_ask counted _
  | drain => exact counted_finish counted _
  | probe => exact counted_finish counted _

theorem counted_pump (h : Counted n s) (errand : Errand) (written : Nat) :
    Counted n (s.pump id errand written).1 := by
  unfold pump
  split
  · rename_i line b hb
    obtain ⟨-, -, dropped, rejected⟩ := Buffer.toList_of_pop? hb
    exact ⟨h.buffered.trans (Buffer.pushed_of_pop? hb).symm, h.rejected.trans rejected.symm,
      h.dropped.trans dropped.symm⟩
  · exact counted_endDrain h errand written false

theorem counted_enter (h : Counted n s) (job : Job) : Counted n (s.enter id job).1 := by
  unfold enter
  split
  · split
    · exact counted_keepAndFinish h _
    · split
      · exact counted_ask h _
      · exact counted_pump h _ 0
  · exact counted_pump h _ 0
  · split
    · exact counted_finish h _
    · exact ⟨h.buffered, h.rejected, h.dropped⟩
  · exact counted_ask h _

theorem counted_recover (h : Counted n s) : Counted n (s.recover id).1 := by
  have recovered (tracker : Tracker) (reconnects : Nat) :
      Counted n { s with tracker, stats := { s.stats with reconnects } } :=
    ⟨h.buffered, h.rejected, h.dropped⟩
  unfold recover
  dsimp only
  split
  · exact counted_finish (recovered ..) _
  · exact counted_pump (recovered ..) _ 0

theorem counted_arrive (h : Counted n s) (job : Job) : Counted n (s.arrive id job).1 := by
  obtain ⟨-, -, e⟩ | e := s.arrive_cases id job
  · rw [e]
    exact counted_enter h job
  · rw [e]
    exact ⟨h.buffered, h.rejected, h.dropped⟩

theorem counted_succeed (h : Counted n s) (p : Phase) : Counted n (s.succeed id p).1 := by
  cases p with
  | draining errand line written => exact counted_pump h errand (written + 1)
  | checking => exact counted_recover h
  | connecting => exact counted_recover h
  | _ => exact ⟨h.buffered, h.rejected, h.dropped⟩

/-- The lines that the buffer lets go of if the request of the phase fails. -/
def overflow (s : Sender) : Phase → List String
  | .draining _ line _ => (s.buffer.requeue line).1
  | _ => []

theorem counted_fail (h : Counted n s) (p : Phase) :
    Counted (n + (s.overflow p).length) (s.fail id p).1 := by
  cases p with
  | draining errand line written =>
    obtain ⟨-, -, dropped, rejected⟩ := s.buffer.requeue_spec line
    have back : Counted (n + (s.buffer.requeue line).1.length)
        (countWriteFailure { s with buffer := (s.buffer.requeue line).2 }).markDown := by
      refine ⟨h.buffered.trans (Buffer.pushed_requeue ..).symm, h.rejected.trans rejected.symm, ?_⟩
      change s.stats.dropped + _ = (s.buffer.requeue line).2.dropped
      rw [dropped, ← Nat.add_assoc, h.dropped]
    exact counted_endDrain back errand written true
  | writing line =>
    have failed : Counted n s.countWriteFailure.markDown := ⟨h.buffered, h.rejected, h.dropped⟩
    exact counted_keepAndFinish failed line
  | _ => exact ⟨h.buffered, h.rejected, h.dropped⟩

theorem counted_start (h : Counted n s) (op : Op) : Counted n (s.start op).1 := by
  have begun (tracker : Tracker) (background : Option CallId) :
      Counted n { s with nextId := s.nextId + 1, tracker, background } :=
    ⟨h.buffered, h.rejected, h.dropped⟩
  cases s.opening_start op with
  | keeps line op_eq s₁ counted r_eq =>
    rw [r_eq, counted]
    exact counted_keep (begun s.tracker s.background) _
  | answers job a awake incoming fits unkept r_eq =>
    rw [r_eq]
    exact begun s.tracker s.background
  | arrives job s₁ awake incoming tracker counted r_eq =>
    rw [r_eq, counted]
    exact counted_arrive (begun tracker s.background) job
  | sleeps elapsed op_eq incoming r_eq =>
    rw [r_eq]
    exact begun s.tracker s.background
  | wakes elapsed op_eq incoming was_open s₁ counted r_eq =>
    rw [r_eq, counted]
    exact counted_arrive (begun s.tracker (some s.nextId)) _
  | closes op_eq was_open r_eq =>
    rw [r_eq]
    exact ⟨h.buffered, h.rejected, h.dropped⟩

def spilled (s : Sender) : Event → List String
  | .reply r => if r.fault.isNone then [] else s.holder.toList.flatMap fun h => s.overflow h.2
  | _ => []

def spills (s : Sender) (es : List Event) : List String := s.along spilled es

theorem counted_step {e : Event} {fx : List Effect} (h : Counted n s)
    (step : s.step e = some (s', fx)) : Counted (n + (s.spilled e).length) s' := by
  cases e with
  | start op =>
    have := counted_start h op
    rwa [step_start step] at this
  | reply r =>
    obtain ⟨id, p, holder, step⟩ := step_reply step
    have answered : Counted n { s with connected := r.connected } :=
      ⟨h.buffered, h.rejected, h.dropped⟩
    obtain ⟨fault, step⟩ | ⟨fault, step⟩ := step
    · have : Counted n (succeed { s with connected := r.connected } id p).1 :=
        counted_succeed answered p
      rw [step] at this
      simpa [spilled, fault] using this
    · have : Counted (n + (overflow { s with connected := r.connected } p).length)
          (fail { s with connected := r.connected } id p).1 := counted_fail answered p
      rw [step] at this
      have spilled : s.spilled (.reply r) = s.overflow p := by
        simp [spilled, fault, holder]
      rw [spilled]
      cases p <;> exact this
  | grant =>
    obtain ⟨id, job, queue, -, -, step⟩ := step_grant step
    have granted : Counted n { s with queue } := ⟨h.buffered, h.rejected, h.dropped⟩
    have : Counted n (enter { s with queue } id job).1 := counted_enter granted job
    rwa [step] at this
  | retire =>
    obtain ⟨id, -, -, step⟩ := step_retire step
    have retired : Counted n { s with retiring := none } := ⟨h.buffered, h.rejected, h.dropped⟩
    have : Counted n (arrive { s with retiring := none } id .close).1 :=
      counted_arrive retired .close
    rwa [step] at this
  | release =>
    obtain ⟨-, step⟩ := step_release step
    cases step
    exact ⟨h.buffered, h.rejected, h.dropped⟩
  | _ =>
    cases step
    exact ⟨h.buffered, h.rejected, h.dropped⟩

theorem counted_run {es : List Event} {fx : List Effect} (h : Counted n s)
    (run : s.run es = some (s', fx)) : Counted (n + (s.spills es).length) s' := by
  induction es generalizing n s fx with
  | nil =>
    cases run
    exact h
  | cons e es ih =>
    obtain ⟨s₁, fx₁, fx₂, step, run, -⟩ := run_cons.1 run
    have := ih (counted_step h step) run
    rwa [Nat.add_assoc, ← List.length_append, spills, ← along_cons step] at this

/-- A line from the buffer cannot be written, and the buffer was filled meanwhile. -/
def Overfull (s : Sender) (e : Event) : Prop :=
  ∃ r id errand line written, e = .reply r ∧ r.fault ≠ none ∧
    s.holder = some (id, .draining errand line written) ∧ s.buffer.isFull = true

theorem spilled_ne_nil_iff (s : Sender) (e : Event) : s.spilled e ≠ [] ↔ s.Overfull e := by
  constructor
  · intro h
    cases e with
    | reply r =>
      cases fault : r.fault with
      | none => simp [spilled, fault] at h
      | some f =>
        rcases holder : s.holder with _ | ⟨id, p⟩
        · simp [spilled, holder] at h
        · have out : s.overflow p ≠ [] := by simpa [spilled, fault, holder] using h
          cases p with
          | draining errand line written =>
            exact ⟨r, id, errand, line, written, rfl, by simp [fault], holder,
              (s.buffer.requeue_ne_nil_iff line).1 out⟩
          | _ => exact absurd rfl out
    | _ => exact absurd rfl h
  · rintro ⟨r, id, errand, line, written, rfl, fault, holder, full⟩
    have := (s.buffer.requeue_ne_nil_iff line).2 full
    simpa [spilled, fault, holder, overflow] using this

theorem spills_ne_nil_iff {events : List Event} {effects : List Effect}
    (run : s.run events = some (s', effects)) :
    s.spills events ≠ [] ↔ ∃ es e rest s₁ fx, events = es ++ e :: rest ∧
      s.run es = some (s₁, fx) ∧ s₁.Overfull e := by
  induction events generalizing s effects with
  | nil => simp [spills, along]
  | cons e events ih =>
    obtain ⟨s₁, fx₁, fx₂, step, run, -⟩ := run_cons.1 run
    have ih := ih run
    have split : s.spills (e :: events) ≠ [] ↔ s.spilled e ≠ [] ∨ s₁.spills events ≠ [] := by
      rw [spills, along_cons step, Ne, List.append_eq_nil_iff, Decidable.not_and_iff_not_or_not]
      rfl
    rw [split, ih, spilled_ne_nil_iff]
    constructor
    · rintro (full | ⟨es, e', rest, s₂, fx, rfl, run', full⟩)
      · exact ⟨[], e, events, s, [], rfl, rfl, full⟩
      · exact ⟨e :: es, e', rest, s₂, _, rfl, run_cons.2 ⟨s₁, fx₁, fx, step, run', rfl⟩, full⟩
    · rintro ⟨es, e', rest, s₂, fx, eq, run', full⟩
      cases es with
      | nil =>
        cases run'
        cases eq
        exact .inl full
      | cons e₁ es =>
        obtain ⟨rfl, rfl⟩ := List.cons.inj eq
        obtain ⟨s₃, fx₃, fx₄, step', run', -⟩ := run_cons.1 run'
        cases step.symm.trans step'
        exact .inr ⟨es, e', rest, s₂, fx₄, rfl, run', full⟩

/-- When no call is under way, the counters tell what the transport took, what the buffer took and
what it turned away. Of the lines it dropped they leave out those that went when another line came
back, so they tell them all exactly if no line came back to a full buffer. -/
theorem counters_of_isIdle {events : List Event} {effects : List Effect} (h : Started s)
    (run : s.run events = some (s', effects)) (idle : s'.isIdle = true) :
    s'.stats.sent + s'.stats.drained = (writes effects).length ∧
      s'.stats.buffered = s'.buffer.metrics.pushed ∧
      s'.stats.rejected = s'.buffer.metrics.rejected ∧
      (discards effects).length = s'.buffer.metrics.dropped ∧
      s'.stats.dropped + (s.spills events).length = s'.buffer.metrics.dropped ∧
      (s'.stats.dropped = s'.buffer.metrics.dropped ↔
        ¬ ∃ es e rest s₁ fx, events = es ++ e :: rest ∧ s.run es = some (s₁, fx) ∧
          s₁.Overfull e) := by
  have booked := (h.blank.sound_run run).booked
  have counted := counted_run h.counted run
  rw [Nat.zero_add] at counted
  refine ⟨?_, counted.buffered, counted.rejected, booked.discarded, counted.dropped, ?_⟩
  · have := booked.delivered_eq
    rw [delivered, uncounted_of_isIdle idle] at this
    exact this.symm
  · rw [← spills_ne_nil_iff run, not_not, ← List.length_eq_zero_iff]
    have := counted.dropped
    change s'.stats.dropped = s'.buffer.dropped ↔ _
    omega

theorem counters_of_isIdle_overfull :
    let events : List Event := [.start (.send "p"), .start (.send "q"), .reply ⟨none, true⟩,
      .start (.send "r"), .start (.send "s"), .reply ⟨some .closed, false⟩]
    ∃ s s' effects, Started s ∧ s.run events = some (s', effects) ∧ s'.isIdle = true ∧
      s.spills events = ["q\n"] ∧ s'.stats.dropped = 1 ∧ s'.buffer.metrics.dropped = 2 ∧
      s'.stats.sent + s'.stats.drained = (writes effects).length ∧
      s'.stats.dropped + (s.spills events).length = s'.buffer.metrics.dropped := by
  intro events
  obtain ⟨s, built, seen⟩ : ∃ s,
      startConnected ⟨5000, 1, .dropOldest, 1⟩ "scripted:8081" ⟨none, true⟩ = .ok s ∧
      (s.run events).map (fun r =>
        (r.1.isIdle, s.spills events, r.1.stats.dropped, r.1.buffer.metrics.dropped)) =
        some (true, ["q\n"], 1, 2) := ⟨_, rfl, by decide +kernel⟩
  obtain ⟨⟨s', effects⟩, run, seen⟩ := Option.map_eq_some_iff.1 seen
  simp only [Prod.mk.injEq] at seen
  obtain ⟨idle, spills, stats, metrics⟩ := seen
  have started : Started s := .inl ⟨_, _, _, built⟩
  obtain ⟨sent, -, -, -, dropped, -⟩ := counters_of_isIdle started run idle
  exact ⟨s, s', effects, started, run, idle, spills, stats, metrics, sent, dropped⟩

theorem not_dropped_eq_of_isIdle :
    ¬ ∀ (events : List Event) (s s' : Sender) (effects : List Effect), Started s →
      s.run events = some (s', effects) → s'.isIdle = true →
      s'.stats.dropped = s'.buffer.metrics.dropped := by
  intro claim
  let events : List Event := [.start (.send "p"), .start (.send "q"), .reply ⟨none, true⟩,
    .start (.send "r"), .start (.send "s"), .reply ⟨some .closed, false⟩]
  obtain ⟨s, built, seen⟩ : ∃ s,
      startConnected ⟨5000, 1, .dropOldest, 1⟩ "scripted:8081" ⟨none, true⟩ = .ok s ∧
      (s.run events).map (fun r =>
        (r.1.isIdle, decide (r.1.stats.dropped = r.1.buffer.metrics.dropped))) =
        some (true, false) := ⟨_, rfl, by decide +kernel⟩
  obtain ⟨⟨s', effects⟩, run, seen⟩ := Option.map_eq_some_iff.1 seen
  obtain ⟨idle, differ⟩ := Prod.mk.inj seen
  exact of_decide_eq_false differ (claim events s s' effects (.inl ⟨_, _, _, built⟩) run idle)

end Sender

end MetricRelay
