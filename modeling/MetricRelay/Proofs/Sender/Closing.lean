import MetricRelay.Proofs.Sender.Returns
import MetricRelay.Sender.Crowd

/-!
Closing a sender. Calls get the transport in the order in which they came; a call that comes after
the first call to close is told so at once, so whoever has passed the checks before that and has
taken its place in the queue is done with the transport when closing begins.
-/
namespace MetricRelay

namespace Sender

open Effect

variable {s s' : Sender} {e : Event} {fx : List Effect} {id : CallId}

theorem job_eq_close {p : Phase} : p.job = .close ↔ p = .closing := by
  cases p <;> simp [Phase.job]

theorem eq_close_of_fits {job : Job} (h : Answer.closed.Fits job) : job = .close := by
  cases job with
  | run errand => cases h
  | close => rfl

/-- The calls in the order in which they have the transport. -/
def inTurn (s : Sender) : List (CallId × Job) :=
  s.holder.toList.map (fun h => (h.1, h.2.job)) ++ s.queue

theorem inTurn_of_holder {p : Phase} (h : s.holder = some (id, p)) :
    s.inTurn = (id, p.job) :: s.queue := by
  rw [inTurn, h]
  rfl

theorem inTurn_of_free (h : s.holder = none) : s.inTurn = s.queue := by
  rw [inTurn, h]
  rfl

theorem Turn.inTurn_sublist {job : Job} {r : Sender × List Effect} (h : Turn s id job r) :
    r.1.inTurn.Sublist ((id, job) :: s.queue) := by
  cases h.fate with
  | asks p holder job_eq _ _ _ =>
    rw [inTurn_of_holder holder, job_eq, h.frame.queue]
  | ends a holder _ _ _ _ =>
    rw [inTurn_of_free holder, h.frame.queue]
    exact List.sublist_cons_self ..

theorem inTurn_arrive (s : Sender) (id : CallId) (job : Job) :
    (s.arrive id job).1.inTurn.Sublist (s.inTurn ++ [(id, job)]) := by
  obtain ⟨holder, queue, e⟩ | e := s.arrive_cases id job
  · rw [e, inTurn_of_free holder, queue]
    have sub := (turn_enter s id job).inTurn_sublist
    rwa [queue] at sub
  · rw [e, inTurn, inTurn, List.append_assoc]

def Late (s : Sender) (new : List (CallId × Job)) : Prop :=
  ∀ c ∈ new, c.2 = .close ↔ s.closed = true

theorem late_nil (s : Sender) : s.Late [] := List.forall_mem_nil _

theorem late_singleton {job : Job} : s.Late [(id, job)] ↔ (job = .close ↔ s.closed = true) :=
  List.forall_mem_singleton

structure Admission (s : Sender) (r : Option (CallId × Job) × Sender × List Effect) : Prop where
  holder : r.2.1.holder = s.holder
  queue : r.2.1.queue = s.queue
  steady : Steady s r.2.1 1
  late : s.Late r.1.toList
  quiet : r.1 ≠ none → r.2.2 = []
  unasked : ∀ id p, .asked id p ∉ r.2.2
  answers : ∀ x ∈ returns r.2.2, x.2 ≠ .outcome .sent ∧ x.2 ≠ .closed

theorem admission (s : Sender) (op : Op) : Admission s (s.screen op) := by
  have counted (tracker : Tracker) (background : Option CallId) :
      Steady s { s with nextId := s.nextId + 1, tracker, background } 1 :=
    ⟨rfl, rfl, fun h => h, fun h => h⟩
  have passes {job : Job} (tracker : Tracker) (background : Option CallId)
      (late : job = .close ↔ s.closed = true) : Admission s (some (s.nextId, job),
        { s with nextId := s.nextId + 1, tracker, background }, []) :=
    ⟨rfl, rfl, counted tracker background, late_singleton.2 late, fun _ => rfl,
      fun _ _ => List.not_mem_nil, List.forall_mem_nil _⟩
  have answers {a : Answer} (sent : a ≠ .outcome .sent) (closed : a ≠ .closed) :
      Admission s (none, { s with nextId := s.nextId + 1 }, [.returned s.nextId a]) :=
    ⟨rfl, rfl, counted s.tracker s.background, s.late_nil, fun h => absurd rfl h, by simp,
      List.forall_mem_singleton.2 ⟨sent, closed⟩⟩
  cases op with
  | send line =>
    simp only [screen]
    split
    · have kept := undisturbed_keep { s with nextId := s.nextId + 1 } (terminated line)
      refine ⟨kept.holder, kept.queue, (counted s.tracker s.background).trans kept.steady,
        s.late_nil, fun h => absurd rfl h, ?_, ?_⟩
      · simpa using asked_notMem_keep { s with nextId := s.nextId + 1 } (terminated line)
      · rw [returns_append, returns_keep]
        have unsent := keep_ne_sent { s with nextId := s.nextId + 1 } (terminated line)
        simpa using unsent
    · rename_i going
      exact passes s.tracker.beginWrite s.background (by simp_all)
  | drain =>
    simp only [screen]
    split
    · exact answers (by simp) (by simp)
    · rename_i going
      exact passes s.tracker s.background (by simp_all)
  | probe =>
    simp only [screen]
    split
    · exact answers (by simp) (by simp)
    · rename_i going
      exact passes s.tracker s.background (by simp_all)
  | tick elapsed =>
    simp only [screen]
    split
    · exact ⟨rfl, rfl, counted s.tracker s.background, s.late_nil, fun _ => rfl,
        fun _ _ => List.not_mem_nil, List.forall_mem_nil _⟩
    · rename_i going
      exact passes s.tracker (some s.nextId) (by simp_all)
  | close =>
    simp only [screen]
    split
    · rename_i closed
      exact passes s.tracker s.background (by simp [closed])
    · exact ⟨rfl, rfl, ⟨rfl, rfl, fun _ => rfl, fun _ h => nomatch h⟩, s.late_nil, fun _ => rfl,
        fun _ _ => List.not_mem_nil, List.forall_mem_nil _⟩

theorem Admission.inTurn {r : Option (CallId × Job) × Sender × List Effect} (h : Admission s r) :
    r.2.1.inTurn = s.inTurn := by
  rw [Sender.inTurn, h.holder, h.queue]
  rfl

theorem stir_cases {r : Option (CallId × Job) × Sender × List Effect} (h : s.stir e = some r) :
    (∃ op, e = .start op ∧ s.screen op = r) ∨
    (∃ id, e = .retire ∧ s.retiring = some id ∧
      r = (some (id, .close), { s with retiring := none }, [])) ∨
    ((∀ op, e ≠ .start op) ∧ e ≠ .retire ∧ ∃ s' fx, r = (none, s', fx) ∧
      s.step e = some (s', fx)) := by
  have own (unstarted : ∀ op, e ≠ .start op) (staying : e ≠ .retire)
      (h : (s.step e).map (fun r => (none, r.1, r.2)) = some r) :
      (∀ op, e ≠ .start op) ∧ e ≠ .retire ∧ ∃ s' fx, r = (none, s', fx) ∧
        s.step e = some (s', fx) := by
    obtain ⟨⟨s', fx⟩, step, rfl⟩ := Option.map_eq_some_iff.1 h
    exact ⟨unstarted, staying, s', fx, rfl, step⟩
  cases e with
  | start op =>
    refine .inl ⟨op, rfl, ?_⟩
    cases op with
    | tick elapsed =>
      simp only [stir] at h
      split at h
      · cases h
      · exact Option.some.inj h
    | _ => exact Option.some.inj h
  | retire =>
    simp only [stir] at h
    split at h
    · rename_i id retiring _
      exact .inr (.inl ⟨id, rfl, retiring, (Option.some.inj h).symm⟩)
    · cases h
  | _ => exact .inr (.inr (own nofun nofun h))

theorem step_stir (h : s.step e = some (s', fx)) :
    s.stir e = some (none, s', fx) ∨ ∃ id job t, s.stir e = some (some (id, job), t, []) ∧
      t.arrive id job = (s', fx) := by
  have started {op : Op} (h : s.start op = (s', fx)) :
      some (s.screen op) = some (none, s', fx) ∨
        ∃ id job t, some (s.screen op) = some (some (id, job), t, []) ∧
          t.arrive id job = (s', fx) := by
    have quiet := (s.admission op).quiet
    rw [start] at h
    rcases hr : s.screen op with ⟨_ | ⟨id, job⟩, t, fx₀⟩
    · rw [hr] at h
      exact .inl (by rw [← h])
    · rw [hr] at h quiet
      obtain rfl : fx₀ = [] := quiet (by simp)
      exact .inr ⟨id, job, t, rfl, h⟩
  cases e with
  | start op =>
    have h' := started (step_start h)
    cases op with
    | tick elapsed =>
      simp only [step] at h
      split at h
      · cases h
      · rename_i free
        rwa [stir, if_neg free]
    | _ => exact h'
  | retire =>
    obtain ⟨id, retiring, background, h⟩ := step_retire h
    exact .inr ⟨id, .close, { s with retiring := none }, by rw [stir, retiring, background], h⟩
  | _ =>
    refine .inl ?_
    rw [stir, h]
    · rfl
    all_goals simp

theorem inTurn_stir {newcomer : Option (CallId × Job)}
    (open_ : s.closed = false → s.retiring = none) (h : s.stir e = some (newcomer, s', fx)) :
    s'.inTurn.Sublist s.inTurn ∧ s.Late newcomer.toList := by
  obtain ⟨op, rfl, admitted⟩ | ⟨id, rfl, retiring, r_eq⟩ | ⟨unstarted, staying, _, _, r_eq, h⟩ :=
    stir_cases h
  · have admission := s.admission op
    rw [admitted] at admission
    exact ⟨admission.inTurn ▸ .refl _, admission.late⟩
  · cases r_eq
    have closed : s.closed = true := by
      by_contra was_open
      rw [open_ (by simpa using was_open)] at retiring
      cases retiring
    exact ⟨.refl _, late_singleton.2 (by simp [closed])⟩
  cases r_eq
  refine ⟨?_, s.late_nil⟩
  cases e with
  | start op => exact absurd rfl (unstarted op)
  | retire => exact absurd rfl staying
  | reply r =>
    obtain ⟨id, p, holder, ⟨line, rfl, frame, free, -⟩ | turn⟩ := reply_cases h
    · rw [inTurn_of_holder holder, inTurn_of_free free, frame.queue]
      exact List.sublist_cons_self ..
    · rw [inTurn_of_holder holder]
      exact turn.inTurn_sublist
  | grant =>
    obtain ⟨id, job, queue, holder, hq, h⟩ := step_grant h
    have sub := (turn_enter { s with queue } id job).inTurn_sublist
    rw [h] at sub
    rwa [inTurn_of_free holder, hq]
  | release =>
    obtain ⟨-, h⟩ := step_release h
    cases h
    exact .refl _
  | _ =>
    cases h
    exact .refl _

theorem inTurn_step (open_ : s.closed = false → s.retiring = none)
    (h : s.step e = some (s', fx)) :
    ∃ new, s'.inTurn.Sublist (s.inTurn ++ new) ∧ s.Late new := by
  obtain stirred | ⟨id, job, t, stirred, arrived⟩ := step_stir h
  · obtain ⟨sub, late⟩ := inTurn_stir open_ stirred
    exact ⟨[], by rwa [List.append_nil], late⟩
  · obtain ⟨sub, late⟩ := inTurn_stir open_ stirred
    have joined := t.inTurn_arrive id job
    rw [arrived] at joined
    exact ⟨[(id, job)], joined.trans (sub.append_right _), late⟩

structure ClosesLast (s : Sender) : Prop where
  retiring : s.closed = false → s.retiring = none
  open_ : s.closed = false → ∀ c ∈ s.inTurn, c.2 ≠ .close
  last : s.inTurn.Pairwise fun c d => c.2 = .close → d.2 = .close

theorem Blank.closesLast (h : Blank s) : ClosesLast s := by
  have empty : s.inTurn = [] := by rw [inTurn_of_free h.holder, h.queue]
  refine ⟨fun _ => h.retiring, fun _ => ?_, ?_⟩
  · rw [empty]
    exact List.forall_mem_nil _
  · rw [empty]
    exact .nil

theorem ClosesLast.step (h : ClosesLast s) (step : s.step e = some (s', fx)) : ClosesLast s' := by
  obtain ⟨new, sub, late⟩ := inTurn_step h.retiring step
  have steady := steady_step step
  refine ⟨steady.open_ h.retiring, fun still_open c mem => ?_, ?_⟩
  · have was_open : s.closed = false := by
      by_contra closed
      rw [steady.closed (by simpa using closed)] at still_open
      cases still_open
    obtain old | arrived := List.mem_append.1 (sub.subset mem)
    · exact h.open_ was_open c old
    · intro close
      rw [(late c arrived).1 close] at was_open
      cases was_open
  · have closed {c : CallId × Job} (mem : c ∈ s.inTurn) (close : c.2 = .close) :
        s.closed = true := by
      by_contra was_open
      exact h.open_ (by simpa using was_open) c mem close
    refine List.Pairwise.sublist sub (List.pairwise_append.2 ⟨h.last, ?_, ?_⟩)
    · exact List.pairwise_of_forall_mem_list fun c hc d hd close =>
        (late d hd).2 ((late c hc).1 close)
    · exact fun c hc d hd close => (late d hd).2 (closed hc close)

theorem closesLast_run {es : List Event} (started : Started s) (run : s.run es = some (s', fx)) :
    ClosesLast s' :=
  run_induction_nil (P := fun _ _ => ClosesLast) (fun h step => h.step step)
    started.blank.closesLast run

/-- The sender has been closed, and whoever is still under way is there to close it. -/
structure Shut (s : Sender) : Prop where
  closed : s.closed = true
  closing : ∀ c ∈ s.inTurn, c.2 = .close

theorem closed_notMem_enter (s : Sender) (id id' : CallId) (job : Job) :
    (id', .closed) ∉ returns (s.enter id job).2 := by
  cases (turn_enter s id job).fate with
  | asks p _ _ returns_eq _ _ =>
    rw [returns_eq]
    exact List.not_mem_nil
  | ends a holder fits returns_eq _ _ =>
    rw [returns_eq, List.mem_singleton]
    rintro ⟨rfl, rfl⟩
    obtain rfl := eq_close_of_fits fits
    cases holder

theorem closed_notMem_arrive (s : Sender) (id id' : CallId) (job : Job) :
    (id', .closed) ∉ returns (s.arrive id job).2 := by
  obtain ⟨-, -, e⟩ | e := s.arrive_cases id job
  · rw [e]
    exact s.closed_notMem_enter id id' job
  · rw [e]
    exact List.not_mem_nil

theorem reply_closed {r : Reply} (h : s.step (.reply r) = some (s', fx))
    (returned : (id, .closed) ∈ returns fx) :
    s.holder = some (id, .closing) ∧
      s' = (finish (markDown { s with connected := r.connected }) id .closed).1 := by
  obtain ⟨id', p, holder, done | turn⟩ := reply_cases h
  · obtain ⟨line, -, -, -, -, rfl⟩ := done
    simp [returns] at returned
  · cases turn.fate with
    | asks p _ _ returns_eq _ _ =>
      rw [returns_eq] at returned
      cases returned
    | ends a _ fits returns_eq _ _ =>
      rw [returns_eq, List.mem_singleton] at returned
      obtain ⟨rfl, rfl⟩ := returned
      obtain rfl := job_eq_close.1 (eq_close_of_fits fits)
      refine ⟨holder, ?_⟩
      obtain ⟨_, _, holder', ⟨-, h⟩ | ⟨-, h⟩⟩ := step_reply h
      all_goals
        cases holder.symm.trans holder'
        cases h
        rfl

theorem stir_closed {newcomer : Option (CallId × Job)} (h : s.stir e = some (newcomer, s', fx))
    (returned : (id, .closed) ∈ returns fx) :
    ∃ r, e = .reply r ∧ s.holder = some (id, .closing) ∧
      s' = (finish (markDown { s with connected := r.connected }) id .closed).1 := by
  obtain ⟨op, rfl, admitted⟩ | ⟨_, rfl, -, r_eq⟩ | ⟨unstarted, staying, _, _, r_eq, h⟩ :=
    stir_cases h
  · have answers := (s.admission op).answers
    rw [admitted] at answers
    exact absurd rfl (answers _ returned).2
  · cases r_eq
    cases returned
  cases r_eq
  cases e with
  | start op => exact absurd rfl (unstarted op)
  | retire => exact absurd rfl staying
  | reply r => exact ⟨r, rfl, reply_closed h returned⟩
  | grant =>
    obtain ⟨id', job, queue, -, -, h⟩ := step_grant h
    have := closed_notMem_enter { s with queue } id' id job
    rw [h] at this
    exact absurd returned this
  | take | markUp | markDown | hold =>
    cases h
    cases returned
  | release =>
    obtain ⟨-, h⟩ := step_release h
    cases h
    cases returned

theorem step_closed (h : s.step e = some (s', fx)) (returned : (id, .closed) ∈ returns fx) :
    ∃ r, e = .reply r ∧ s.holder = some (id, .closing) ∧
      s' = (finish (markDown { s with connected := r.connected }) id .closed).1 := by
  obtain stirred | ⟨id', job, t, -, arrived⟩ := step_stir h
  · exact stir_closed stirred returned
  · have unclosed := t.closed_notMem_arrive id' id job
    rw [arrived] at unclosed
    exact absurd returned unclosed

theorem ClosesLast.shut (h : ClosesLast s) (step : s.step e = some (s', fx))
    (returned : (id, .closed) ∈ returns fx) : Shut s' := by
  obtain ⟨r, rfl, holder, rfl⟩ := step_closed step returned
  have turn := inTurn_of_holder holder
  have last := h.last
  rw [turn] at last
  refine ⟨?_, fun c mem => (List.pairwise_cons.1 last).1 c mem rfl⟩
  by_contra was_open
  exact h.open_ (by simpa [finish, markDown] using was_open) _ (turn ▸ List.mem_cons_self) rfl

theorem Shut.step (h : Shut s) (step : s.step e = some (s', fx)) : Shut s' := by
  have was_closed : s.closed = false → s.retiring = none := fun was_open => by
    rw [h.closed] at was_open
    cases was_open
  obtain ⟨new, sub, late⟩ := inTurn_step was_closed step
  refine ⟨(steady_step step).closed h.closed, fun c mem => ?_⟩
  obtain old | arrived := List.mem_append.1 (sub.subset mem)
  · exact h.closing c old
  · exact (late c arrived).2 h.closed

end Sender

end MetricRelay
