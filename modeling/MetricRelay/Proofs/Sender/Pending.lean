import MetricRelay.Proofs.Sender.Flow
import MetricRelay.Proofs.Sender.Readiness

namespace MetricRelay

namespace Sender

open Effect

variable {s s' s₀ : Sender} {e : Event} {es : List Event} {past fx : List Effect}
  {calls : List (CallId × Job)} {id : CallId} {job : Job} {limit held : Nat}

/-- The writes counted as pending are those held outside and those of the calls to send, and there
is room for the calls. -/
structure Laden (limit held : Nat) (calls : List (CallId × Job)) (s : Sender) : Prop where
  room : s.tracker.maxPending = limit
  guards : s.guards = held
  pending : s.tracker.pending = held + (sending calls).length
  few : (sending calls).length ≤ limit

theorem Laden.of_sending_eq {calls' : List (CallId × Job)} (h : Laden limit held calls s)
    (same : (sending calls').length = (sending calls).length) : Laden limit held calls' s :=
  ⟨h.room, h.guards, same ▸ h.pending, same ▸ h.few⟩

def Lands (limit held : Nat) (r : Sender × List Effect) : Prop := Laden limit held r.1.underway r.1

theorem Laden.ask {p : Phase} (h : Laden limit held ((id, p.job) :: s.waiting) s) :
    Lands limit held (s.ask id p) := ⟨h.room, h.guards, h.pending, h.few⟩

theorem Laden.finish (h : Laden limit held ((id, job) :: s.waiting) s)
    (other : sending [(id, job)] = []) (a : Answer) : Lands limit held (s.finish id a) := by
  have rest : Laden limit held s.waiting s := h.of_sending_eq (by rw [sending_cons, other]; rfl)
  exact ⟨rest.room, rest.guards, rest.pending, rest.few⟩

theorem Laden.finishSend {line : String}
    (h : Laden limit held ((id, .run (.send line)) :: s.waiting) s) (o : Outcome) :
    Lands limit held (s.finishSend id o) :=
  ⟨h.room, h.guards, congrArg (· - 1) h.pending, Nat.le_of_succ_le h.few⟩

theorem Laden.keep (h : Laden limit held calls s) (line : String) :
    Laden limit held calls (s.keep line).2.1 := by
  obtain ⟨b, k, -⟩ | ⟨b, oldest, rest, k, -⟩ | ⟨b, k, -⟩ := s.keep_cases line
  all_goals
    rw [k]
    exact ⟨h.room, h.guards, h.pending, h.few⟩

theorem Laden.keepAndFinish {line : String}
    (h : Laden limit held ((id, .run (.send line)) :: s.waiting) s) :
    Lands limit held (s.keepAndFinish id line) := by
  have same : (s.keep line).2.1.waiting = s.waiting := by
    rw [waiting, (s.undisturbed_keep line).queue, (s.undisturbed_keep line).retiring]
    rfl
  have kept := h.keep line
  rw [← same] at kept
  exact kept.finishSend (s.keep line).1

theorem Laden.endDrain {errand : Errand}
    (h : Laden limit held ((id, .run errand) :: s.waiting) s) (written : Nat)
    (interrupted : Bool) : Lands limit held (s.endDrain id errand written interrupted) := by
  have counted : Laden limit held
      ((id, .run errand) :: (s.countDrained written interrupted).waiting)
      (s.countDrained written interrupted) := by
    unfold countDrained
    dsimp only
    split
    all_goals exact ⟨h.room, h.guards, h.pending, h.few⟩
  cases errand with
  | send line =>
    cases interrupted with
    | true => exact counted.keepAndFinish
    | false => exact counted.ask (p := .writing line)
  | drain => exact counted.finish rfl _
  | probe => exact counted.finish rfl _

theorem Laden.pump {errand : Errand} (h : Laden limit held ((id, .run errand) :: s.waiting) s)
    (written : Nat) : Lands limit held (s.pump id errand written) := by
  unfold Sender.pump
  split
  · rename_i line b _
    exact Laden.ask (s := { s with buffer := b }) (p := .draining errand line written)
      ⟨h.room, h.guards, h.pending, h.few⟩
  · exact h.endDrain written false

theorem Laden.enter (h : Laden limit held ((id, job) :: s.waiting) s) :
    Lands limit held (s.enter id job) := by
  unfold Sender.enter
  split
  · rename_i line
    split
    · exact h.keepAndFinish
    · split
      · exact h.ask (p := .writing line)
      · exact h.pump 0
  · exact h.pump 0
  · split
    · exact h.finish rfl _
    · dsimp only
      split
      · exact Laden.ask (p := .checking) ⟨h.room, h.guards, h.pending, h.few⟩
      · exact Laden.ask (p := .connecting) ⟨h.room, h.guards, h.pending, h.few⟩
  · exact h.ask (p := .closing)

theorem Laden.arrive (h : Laden limit held ((id, job) :: s.underway) s) :
    Lands limit held (s.arrive id job) := by
  obtain ⟨holder, queue, e⟩ | e := s.arrive_cases id job
  · rw [e]
    rw [underway, holder] at h
    exact h.enter
  · rw [e]
    have perm : (underway { s with queue := s.queue ++ [(id, job)] }).Perm
        ((id, job) :: s.underway) := by
      simp only [underway, waiting, ← List.append_cons]
      exact (List.perm_middle.append_left _).trans List.perm_middle
    have queued := h.of_sending_eq (sending_perm perm).length_eq
    exact ⟨queued.room, queued.guards, queued.pending, queued.few⟩

theorem Laden.recover (h : Laden limit held ((id, .run .probe) :: s.waiting) s) :
    Lands limit held (s.recover id) := by
  have revived : Laden limit held ((id, .run .probe) :: s.revived.waiting) s.revived :=
    ⟨h.room, h.guards, h.pending, h.few⟩
  rw [recover_eq_pump]
  exact revived.pump 0

theorem Laden.succeed {p : Phase} (h : Laden limit held ((id, p.job) :: s.waiting) s) :
    Lands limit held (s.succeed id p) := by
  cases p with
  | draining errand line written => exact h.pump (written + 1)
  | writing line =>
    have counted : Laden limit held ((id, .run (.send line)) :: s.waiting)
        (s.markUp.countSent line) := ⟨h.room, h.guards, h.pending, h.few⟩
    exact counted.finishSend .sent
  | checking => exact h.recover
  | connecting => exact h.recover
  | closing =>
    have marked : Laden limit held ((id, .close) :: s.waiting) s.markDown :=
      ⟨h.room, h.guards, h.pending, h.few⟩
    exact marked.finish rfl _

theorem Laden.fail {p : Phase} (h : Laden limit held ((id, p.job) :: s.waiting) s) :
    Lands limit held (s.fail id p) := by
  have marked : Laden limit held ((id, p.job) :: s.waiting) s.markDown :=
    ⟨h.room, h.guards, h.pending, h.few⟩
  cases p with
  | draining errand line written =>
    let t : Sender := { s with buffer := (s.buffer.requeue line).2 }
    have back : Laden limit held ((id, .run errand) :: t.waiting) t.countWriteFailure.markDown :=
      ⟨h.room, h.guards, h.pending, h.few⟩
    exact back.endDrain written true
  | writing line =>
    have counted : Laden limit held ((id, .run (.send line)) :: s.waiting)
        s.countWriteFailure.markDown := ⟨h.room, h.guards, h.pending, h.few⟩
    exact counted.keepAndFinish
  | checking => exact marked.ask (p := .connecting)
  | connecting => exact marked.finish rfl _
  | closing => exact marked.finish rfl _

theorem start_send_eq_of_ready (ready : s.canSend = true ∧ s.closed = false) (line : String) :
    s.start (.send line) =
      arrive { s with nextId := s.nextId + 1, tracker := s.tracker.beginWrite } s.nextId
        (.run (.send (terminated line))) := by
  have unbarred : ¬ (s.closed || !s.tracker.canSend) = true := by
    rw [ready.2, show s.tracker.canSend = true from ready.1]
    exact Bool.false_ne_true
  rw [start_eq]
  exact if_neg unbarred

theorem sending_underway (s : Sender) : sending s.underway = sending s.inTurn := by
  have none : sending (s.retiring.toList.map fun id => (id, Job.close)) = [] := by
    cases s.retiring <;> rfl
  rw [underway, waiting, ← List.append_assoc, sending_append, none, List.append_nil]
  rfl

theorem Laden.retiring (h : Laden limit held s.underway s) (closed : Bool) (retiring : Option Nat) :
    let t : Sender := { s with closed, retiring }
    Laden limit held t.underway t := by
  intro t
  have same : sending t.underway = sending s.underway := by
    rw [sending_underway, sending_underway]
    rfl
  have waits := h.of_sending_eq (congrArg List.length same)
  exact ⟨waits.room, waits.guards, waits.pending, waits.few⟩

theorem Laden.uncounted (h : Laden limit held s.underway s) (other : sending [(id, job)] = []) :
    Lands limit held (s.arrive id job) :=
  (h.of_sending_eq (by rw [sending_cons, other]; rfl)).arrive

theorem Laden.start (h : Laden limit held s.underway s) (op : Op) :
    Lands limit held (s.start op) := by
  let t : Sender := { s with nextId := s.nextId + 1 }
  have counted : Laden limit held t.underway t := ⟨h.room, h.guards, h.pending, h.few⟩
  cases op with
  | send line =>
    by_cases ready : s.canSend = true ∧ s.closed = false
    · -- there is room for one more
      have room : held + (sending s.underway).length < limit := by
        rw [← h.pending, ← h.room]
        exact (canSend_iff.1 ready.1).2
      rw [start_send_eq_of_ready ready]
      exact Laden.arrive ⟨h.room, h.guards, congrArg (· + 1) h.pending,
        Nat.le_trans (Nat.succ_le_succ (Nat.le_add_left _ held)) room⟩
    · rw [start_send_eq_of_unready ready, Lands, (t.undisturbed_keep _).underway_eq]
      exact counted.keep (terminated line)
  | drain =>
    simp only [Sender.start_eq]
    split
    · exact counted
    · exact counted.uncounted rfl
  | probe =>
    simp only [Sender.start_eq]
    split
    · exact counted
    · exact counted.uncounted rfl
  | tick elapsed =>
    simp only [Sender.start_eq]
    split
    · exact counted
    · exact Laden.uncounted (s := { t with background := some s.nextId })
        ⟨h.room, h.guards, h.pending, h.few⟩ rfl
  | close =>
    simp only [Sender.start_eq]
    split
    · exact counted.uncounted rfl
    · exact counted.retiring true (some s.nextId)

theorem Laden.reply {r : Reply} (h : Laden limit held s.underway s)
    (step : s.step (.reply r) = some (s', fx)) : Laden limit held s'.underway s' := by
  obtain ⟨id, p, holder, result⟩ := step_reply step
  let t : Sender := { s with connected := r.connected }
  have turn : Laden limit held ((id, p.job) :: t.waiting) t := by
    rw [underway, holder] at h
    exact ⟨h.room, h.guards, h.pending, h.few⟩
  obtain ⟨-, done⟩ | ⟨-, done⟩ := result
  · have landed := turn.succeed
    rwa [done] at landed
  · have landed := turn.fail
    rwa [done] at landed

theorem Laden.grant (h : Laden limit held s.underway s) (step : s.step .grant = some (s', fx)) :
    Laden limit held s'.underway s' := by
  obtain ⟨id, job, queue, holder, first, done⟩ := step_grant step
  have turn : Laden limit held ((id, job) :: waiting { s with queue }) { s with queue } := by
    rw [underway, waiting, holder, first] at h
    exact ⟨h.room, h.guards, h.pending, h.few⟩
  have landed := turn.enter
  rwa [done] at landed

theorem Laden.retire (h : Laden limit held s.underway s) (step : s.step .retire = some (s', fx)) :
    Laden limit held s'.underway s' := by
  obtain ⟨id, -, -, done⟩ := step_retire step
  have landed : Lands limit held (Sender.arrive { s with retiring := none } id .close) :=
    (h.retiring s.closed none).uncounted rfl
  rwa [done] at landed

theorem Laden.step (h : Laden limit held s.underway s) (step : s.step e = some (s', fx)) :
    s'.guards + [e].count .release = held + [e].count .hold ∧
      Laden limit s'.guards s'.underway s' := by
  have stays (h' : Laden limit held s'.underway s') (other : e ≠ .hold ∧ e ≠ .release) :
      s'.guards + [e].count .release = held + [e].count .hold ∧
        Laden limit s'.guards s'.underway s' := by
    rw [List.count_singleton, List.count_singleton, if_neg (by simpa using other.2),
      if_neg (by simpa using other.1), h'.guards]
    exact ⟨rfl, h'⟩
  cases e with
  | start op =>
    have landed := h.start op
    rw [step_start step] at landed
    exact stays landed (by simp)
  | reply r => exact stays (h.reply step) (by simp)
  | grant => exact stays (h.grant step) (by simp)
  | retire => exact stays (h.retire step) (by simp)
  | take =>
    cases step
    exact stays ⟨h.room, h.guards, h.pending, h.few⟩ (by simp)
  | markUp =>
    cases step
    exact stays ⟨h.room, h.guards, h.pending, h.few⟩ (by simp)
  | markDown =>
    cases step
    exact stays ⟨h.room, h.guards, h.pending, h.few⟩ (by simp)
  | hold =>
    cases step
    refine ⟨congrArg (· + 1) h.guards, h.room, rfl, ?_, h.few⟩
    have pending := h.pending
    change s.tracker.pending + 1 = s.guards + 1 + (sending s.underway).length
    rw [pending, h.guards, Nat.add_right_comm]
  | release =>
    obtain ⟨pos, done⟩ := step_release step
    cases done
    have guards := h.guards
    have pending := h.pending
    refine ⟨?_, h.room, rfl, ?_, h.few⟩
    · change s.guards - 1 + 1 = held
      omega
    · change s.tracker.pending - 1 = s.guards - 1 + (sending s.underway).length
      omega

theorem Laden.run (h : Laden limit held s.underway s) (run : s.run es = some (s', fx)) :
    s'.guards + es.count .release = held + es.count .hold ∧
      Laden limit s'.guards s'.underway s' := by
  induction es generalizing s held fx with
  | nil =>
    cases run
    exact ⟨congrArg (· + 0) h.guards, h.guards ▸ h⟩
  | cons e es ih =>
    obtain ⟨s₁, fx₁, fx₂, step, run, -⟩ := run_cons.1 run
    obtain ⟨guards, next⟩ := h.step step
    obtain ⟨rest, last⟩ := ih next run
    refine ⟨?_, last⟩
    rw [← List.singleton_append, List.count_append, List.count_append]
    omega

theorem laden_build {config : SenderConfig} {state : LinkState} {connected : Bool}
    (h : build config state connected = .ok s) : Laden config.maxPending 0 s.underway s := by
  have blank := blank_build h
  unfold build at h
  split at h
  · cases h
  · cases h
    exact ⟨rfl, rfl, rfl, Nat.zero_le _⟩

theorem Started.laden (h : Started s) : Laden s.tracker.maxPending 0 s.underway s := by
  obtain ⟨config, endpoint, reply, h⟩ | ⟨config, hasRuntime, h⟩ := h
  · obtain ⟨-, -, s₁, built, rfl⟩ := startConnected_ok h
    have laden := laden_build built
    exact ⟨rfl, laden.guards, laden.pending, laden.room ▸ laden.few⟩
  · have laden := laden_build (startDisconnected_ok h).2.2
    exact laden.room ▸ laden

def inFlight (es : List Event) (past : List Effect) : List CallId :=
  ((Event.sends 0 es).map Prod.fst).filter fun id => id ∉ (returns past).map Prod.fst

theorem rejected_sublist (effects : List Effect) :
    (rejected effects).Sublist ((returns effects).map Prod.fst) := by
  rw [rejected_eq]
  exact List.filter_sublist.map _

theorem Blank.inFlight_perm (h : Blank s₀) (run : s₀.run es = some (s, past)) :
    (inFlight es past).Perm ((sending s.underway).map Prod.fst) := by
  have orderly : Orderly past s :=
    run_induction_nil (P := fun _ past s => Orderly past s) orderly_step h.orderly run
  have apart := List.disjoint_of_nodup_append orderly.nodup
  let open_ (id : CallId) : Bool := id ∉ (returns past).map Prod.fst
  have waiting : ((sending s.underway).map Prod.fst).filter open_ =
      (sending s.underway).map Prod.fst := by
    refine List.filter_eq_self.2 fun id mem => decide_eq_true ?_
    obtain ⟨⟨_, line⟩, under, rfl⟩ := List.mem_map.1 mem
    exact apart (List.mem_map_of_mem (mem_sending.1 under))
  have returned : (kept past ++ rejected past).filter open_ = [] := by
    refine List.filter_eq_nil_iff.2 fun id mem still => of_decide_eq_true still ?_
    exact (List.mem_append.1 mem).elim ((kept_sublist past).subset ·)
      ((rejected_sublist past).subset ·)
  have perm := (h.sends_perm run).symm.filter open_
  rwa [List.filter_append, waiting, returned, List.append_nil] at perm

theorem tracker_keep (s : Sender) (line : String) : (s.keep line).2.1.tracker = s.tracker := by
  obtain ⟨b, k, -⟩ | ⟨b, oldest, rest, k, -⟩ | ⟨b, k, -⟩ := s.keep_cases line
  all_goals rw [k]

theorem turned_away (full : s.tracker.maxPending ≤ s.tracker.pending) (line : String) :
    ∃ s' fx o, s.step (.start (.send line)) = some (s', fx) ∧
      returns fx = [(s.nextId, .outcome o)] ∧ (o = .buffered ∨ o = .rejected) ∧
      requests fx = [] ∧ s'.holder = s.holder ∧ s'.queue = s.queue ∧ s'.tracker = s.tracker := by
  have unready : ¬ (s.canSend = true ∧ s.closed = false) := fun ready =>
    Nat.not_lt_of_le full (canSend_iff.1 ready.1).2
  obtain ⟨silent, o, returned, unsent⟩ := start_send_of_unready unready line
  refine ⟨(s.start (.send line)).1, (s.start (.send line)).2, o, rfl, returned, ?_, silent, ?_⟩
  · cases o with
    | sent => exact absurd rfl unsent
    | buffered => exact .inl rfl
    | rejected => exact .inr rfl
  · rw [start_send_eq_of_unready unready]
    let t : Sender := { s with nextId := s.nextId + 1 }
    have same := t.undisturbed_keep (terminated line)
    exact ⟨same.holder, same.queue, t.tracker_keep (terminated line)⟩

/-- Whatever calls come in, whenever each of them waits or goes on, and whatever the transport
replies, the writes counted as pending are those that callers outside have begun and not released
and those of the calls to send in flight; so none but the former are left at rest. The count is never
lowered below zero. There are at most as many calls in flight as there is room for, and while there
are that many, each call that comes in is buffered or rejected at once. -/
theorem pending_of_run (started : Started s₀) (run : s₀.run es = some (s, past)) :
    let limit := s₀.tracker.maxPending
    let calls := inFlight es past
    (s.tracker.pending = s.guards + calls.length ∧
        s.guards + es.count .release = es.count .hold) ∧
      (s.isIdle = true → calls = [] ∧ s.tracker.pending = s.guards) ∧
      (∀ e s' fx, s.step e = some (s', fx) →
        [e].count .release + calls.countP (· ∈ (returns fx).map Prod.fst) ≤ s.tracker.pending) ∧
      calls.length ≤ limit ∧
      (limit ≤ s.guards + calls.length → ∀ line, ∃ s' fx o,
        s.step (.start (.send line)) = some (s', fx) ∧ returns fx = [(s.nextId, .outcome o)] ∧
        (o = .buffered ∨ o = .rejected) ∧ requests fx = [] ∧ s'.holder = s.holder ∧
        s'.queue = s.queue ∧ s'.tracker = s.tracker) := by
  intro limit calls
  obtain ⟨guards, laden⟩ := started.laden.run run
  rw [Nat.zero_add] at guards
  have perm := started.blank.inFlight_perm run
  have count : calls.length = (sending s.underway).length := by
    rw [perm.length_eq, List.length_map]
  have pending : s.tracker.pending = s.guards + calls.length := count ▸ laden.pending
  refine ⟨⟨pending, guards⟩, fun idle => ?_, fun e s' fx step => ?_, count ▸ laden.few, ?_⟩
  · have none : calls = [] := by
      rw [underway_of_isIdle idle] at perm
      exact perm.eq_nil
    exact ⟨none, by rw [pending, none, List.length_nil, Nat.add_zero]⟩
  · rw [pending]
    refine Nat.add_le_add ?_ List.countP_le_length
    by_cases release : e = .release
    · obtain ⟨pos, -⟩ := step_release (release ▸ step)
      rw [release]
      exact pos
    · rw [List.count_singleton, if_neg (by simpa using release)]
      exact Nat.zero_le _
  · intro full
    refine turned_away ?_
    rw [pending, laden.room]
    exact full

theorem pending_of_run_full :
    let es : List Event := [.hold, .start (.send "a"), .release, .start (.send "b")]
    let es' := es ++ [.start (.send "c"), .reply ⟨some .closed, false⟩, .grant]
    ∃ (s₀ s s' : Sender) (past past' : List Effect), Started s₀ ∧ s₀.tracker.maxPending = 2 ∧
      s₀.run es = some (s, past) ∧ inFlight es past = [0, 1] ∧ s.guards = 0 ∧
      s.tracker.pending = 2 ∧
      (∃ t fx o, s.step (.start (.send "c")) = some (t, fx) ∧
        returns fx = [(s.nextId, .outcome o)] ∧ (o = .buffered ∨ o = .rejected)) ∧
      s₀.run es' = some (s', past') ∧ s'.isIdle = true ∧ s'.tracker.pending = 0 ∧
      returns past' = [(2, .outcome .buffered), (0, .outcome .buffered), (1, .outcome .buffered)] := by
  intro es es'
  obtain ⟨s₀, built, seen⟩ : ∃ s₀,
      startConnected ⟨5000, 4, .dropOldest, 2⟩ "e" ⟨none, true⟩ = .ok s₀ ∧
      ((s₀.run es).bind fun r => (s₀.run es').map fun r' =>
        (s₀.tracker.maxPending, inFlight es r.2, r.1.guards, r'.1.isIdle, r'.1.guards,
          decide (returns r'.2 =
            [(2, .outcome .buffered), (0, .outcome .buffered), (1, .outcome .buffered)]))) =
        some (2, [0, 1], 0, true, 0, true) := ⟨_, rfl, by decide +kernel⟩
  obtain ⟨⟨s, past⟩, run, seen⟩ := Option.bind_eq_some_iff.1 seen
  obtain ⟨⟨s', past'⟩, run', seen⟩ := Option.map_eq_some_iff.1 seen
  simp only [Prod.mk.injEq, decide_eq_true_eq] at seen
  obtain ⟨room, calls, guards, idle, released, returned⟩ := seen
  have started : Started s₀ := .inl ⟨_, _, _, built⟩
  obtain ⟨⟨pending, -⟩, -, -, -, away⟩ := pending_of_run started run
  obtain ⟨-, rest, -⟩ := pending_of_run started run'
  rw [calls, guards] at pending away
  obtain ⟨t, fx, o, step, returned', outcome, -⟩ := away (Nat.le_of_eq room) "c"
  exact ⟨s₀, s, s', past, past', started, room, run, calls, guards, pending,
    ⟨t, fx, o, step, returned', outcome⟩, run', idle, (rest idle).2.trans released, returned⟩

end Sender

end MetricRelay
