import MetricRelay.Proofs.Sender.Advance
import MetricRelay.Proofs.Sender.Closing

namespace MetricRelay

namespace Sender

open Effect

variable {lines : List String} {past : List Effect} {calls : List (CallId × Job)} {s : Sender}
  {id : CallId} {job : Job}

structure Flow (lines : List String) (past : List Effect) (calls : List (CallId × Job))
    (s : Sender) : Prop where
  up : s.tracker.isUp = true
  room : 0 < s.tracker.maxPending
  pending : s.tracker.pending = (sending calls).length
  open_ : s.closed = false
  retiring : s.retiring = none
  connected : s.connected = true
  empty : s.buffer.toList = []
  staying : ∀ c ∈ calls, c.2 ≠ .close
  written : writes past ++ (sending calls).map Prod.snd = lines
  sent : ∀ x ∈ returns past, ∀ o, x.2 = .outcome o → o = .sent

structure Flowing (lines : List String) (past : List Effect) (s : Sender) : Prop
    extends Flow lines past s.inTurn s where
  direct : ∀ id p, s.holder = some (id, p) → p = .checking ∨ ∃ line, p = .writing line

theorem underway_of_open (h : s.retiring = none) : s.underway = s.inTurn := by
  rw [underway, waiting, h, inTurn]
  simp

theorem sending_cons (c : CallId × Job) (calls : List (CallId × Job)) :
    sending (c :: calls) = sending [c] ++ sending calls :=
  sending_append [c] calls

theorem Flow.congr (h : Flow lines past calls s) (s' : Sender) (tracker : s'.tracker = s.tracker)
    (closed : s'.closed = s.closed) (retiring : s'.retiring = s.retiring)
    (connected : s'.connected = s.connected) (buffer : s'.buffer = s.buffer) :
    Flow lines past calls s' where
  up := tracker ▸ h.up
  room := tracker ▸ h.room
  pending := tracker ▸ h.pending
  open_ := closed.trans h.open_
  retiring := retiring.trans h.retiring
  connected := connected.trans h.connected
  empty := buffer ▸ h.empty
  staying := h.staying
  written := h.written
  sent := h.sent

theorem Flow.quiet {fx : List Effect} (h : Flow lines past calls s) (unwritten : writes fx = [])
    (other : ∀ x ∈ returns fx, ∀ o, x.2 ≠ .outcome o) : Flow lines (past ++ fx) calls s :=
  { h with
    written := by rw [writes_append, unwritten, List.append_nil, h.written]
    sent := fun x hx o e => by
      rw [returns_append] at hx
      obtain hx | hx := List.mem_append.1 hx
      · exact h.sent x hx o e
      · exact absurd e (other x hx o) }

theorem Flow.of_cons (h : Flow lines past ((id, job) :: calls) s)
    (quiet : sending [(id, job)] = []) : Flow lines past calls s := by
  have same : sending ((id, job) :: calls) = sending calls := by
    rw [sending_cons, quiet, List.nil_append]
  have pending := h.pending
  have written := h.written
  rw [same] at pending written
  exact { h with pending, written, staying := fun c hc => h.staying c (List.mem_cons_of_mem _ hc) }

theorem Flow.append (h : Flow lines past calls s) (quiet : sending [(id, job)] = [])
    (stays : job ≠ .close) : Flow lines past (calls ++ [(id, job)]) s := by
  have same : sending (calls ++ [(id, job)]) = sending calls := by
    rw [sending_append, quiet, List.append_nil]
  exact
    { h with
      pending := by rw [same, h.pending]
      written := by rw [same, h.written]
      staying := List.forall_mem_append.2 ⟨h.staying, List.forall_mem_singleton.2 stays⟩ }

theorem Flow.finish {a : Answer} (h : Flow lines past s.queue s) (other : ∀ o, a ≠ .outcome o) :
    Flowing lines (past ++ (s.finish id a).2) (s.finish id a).1 := by
  refine ⟨.quiet (h.congr _ rfl rfl rfl rfl rfl) rfl ?_, fun _ _ holder => nomatch holder⟩
  simpa [Sender.finish, returns] using other

theorem Flow.ask {p : Phase} (h : Flow lines past ((id, p.job) :: s.queue) s)
    (direct : p = .checking ∨ ∃ line, p = .writing line) :
    Flowing lines (past ++ (s.ask id p).2) (s.ask id p).1 := by
  refine ⟨.quiet (h.congr _ rfl rfl rfl rfl rfl) rfl (List.forall_mem_nil _),
    fun id' p' holder => ?_⟩
  cases holder
  exact direct

theorem Flow.enter (h : Flow lines past ((id, job) :: s.queue) s) :
    Flowing lines (past ++ (s.enter id job).2) (s.enter id job).1 := by
  have empty := Buffer.isEmpty_iff.2 h.empty
  cases job with
  | close => exact absurd rfl (h.staying _ (List.mem_cons_self ..))
  | run errand =>
    cases errand with
    | send line =>
      have direct : s.enter id (.run (.send line)) = s.ask id (.writing line) := by
        simp [Sender.enter, h.open_, h.up, empty]
      rw [direct]
      exact h.ask (.inr ⟨line, rfl⟩)
    | drain =>
      have direct : s.enter id (.run .drain) =
          s.finish id (.drained ⟨0, s.buffer.size, false⟩) := by
        rw [Sender.enter, pump, Buffer.pop?_eq_none.2 h.empty]
        rfl
      rw [direct]
      exact (h.of_cons rfl).finish (by simp)
    | probe =>
      let s₁ := { s with stats := { s.stats with probes := s.stats.probes + 1 } }
      have direct : s.enter id (.run .probe) = s₁.ask id .checking := by
        simp [Sender.enter, h.open_, h.connected, s₁]
      rw [direct]
      exact (h.congr s₁ rfl rfl rfl rfl rfl).ask (.inl rfl)

theorem Flow.arrive (h : Flow lines past (s.inTurn ++ [(id, job)]) s)
    (direct : ∀ id p, s.holder = some (id, p) → p = .checking ∨ ∃ line, p = .writing line) :
    Flowing lines (past ++ (s.arrive id job).2) (s.arrive id job).1 := by
  obtain ⟨holder, queue, e⟩ | e := s.arrive_cases id job
  · rw [inTurn_of_free holder, queue] at h
    rw [e]
    refine Flow.enter ?_
    rwa [queue]
  · have turn : Sender.inTurn { s with queue := s.queue ++ [(id, job)] } =
        s.inTurn ++ [(id, job)] := by
      rw [inTurn, inTurn, List.append_assoc]
    rw [e]
    refine ⟨?_, direct⟩
    rw [turn]
    exact .quiet (h.congr _ rfl rfl rfl rfl rfl) rfl (List.forall_mem_nil _)

theorem Flowing.congr (h : Flowing lines past s) (s' : Sender) (tracker : s'.tracker = s.tracker)
    (closed : s'.closed = s.closed) (retiring : s'.retiring = s.retiring)
    (connected : s'.connected = s.connected) (buffer : s'.buffer = s.buffer)
    (holder : s'.holder = s.holder) (queue : s'.queue = s.queue) : Flowing lines past s' := by
  refine ⟨?_, holder ▸ h.direct⟩
  rw [inTurn, holder, queue]
  exact h.toFlow.congr s' tracker closed retiring connected buffer

theorem Flowing.send (h : Flowing lines past s) (alone : sending s.inTurn = []) (line : String) :
    Flowing (lines ++ [terminated line]) (past ++ (s.start (.send line)).2)
      (s.start (.send line)).1 := by
  have pending : s.tracker.pending = 0 := by rw [h.pending, alone, List.length_nil]
  have canSend : s.tracker.canSend = true := by simp [Tracker.canSend, h.up, pending, h.room]
  have calls : sending (s.inTurn ++ [(s.nextId, .run (.send (terminated line)))]) =
      [(s.nextId, terminated line)] := by
    rw [sending_append, alone]
    rfl
  have written := h.written
  rw [alone, List.map_nil, List.append_nil] at written
  let s₁ := { s with nextId := s.nextId + 1, tracker := s.tracker.beginWrite }
  have comes : s.start (.send line) = s₁.arrive s.nextId (.run (.send (terminated line))) :=
    (s.start_eq _).trans (if_neg (by simp [h.open_, canSend]))
  rw [comes]
  refine Flow.arrive (s := s₁) ⟨h.up, h.room, ?_, h.open_, h.retiring, h.connected, h.empty, ?_, ?_,
    h.sent⟩ h.direct
  · exact (congrArg (· + 1) pending).trans (congrArg List.length calls).symm
  · exact List.forall_mem_append.2 ⟨h.staying, List.forall_mem_singleton.2 (by simp)⟩
  · exact (congrArg (fun calls => writes past ++ calls.map Prod.snd) calls).trans
      (congrArg (· ++ _) written)

theorem Flowing.drain (h : Flowing lines past s) :
    Flowing lines (past ++ (s.start .drain).2) (s.start .drain).1 := by
  have returns_ : s.start .drain = ({ s with nextId := s.nextId + 1 },
      [.returned s.nextId (.drained ⟨0, s.buffer.size, false⟩)]) :=
    (s.start_eq _).trans (if_pos (by simp [Buffer.isEmpty_iff.2 h.empty]))
  rw [returns_]
  have h := h.congr { s with nextId := s.nextId + 1 } rfl rfl rfl rfl rfl rfl rfl
  exact ⟨h.toFlow.quiet rfl (by simp), h.direct⟩

theorem Flowing.tick (h : Flowing lines past s) (elapsed : Nat) :
    Flowing lines (past ++ (s.start (.tick elapsed)).2) (s.start (.tick elapsed)).1 := by
  let s₁ := { s with nextId := s.nextId + 1, background := some s.nextId }
  have quiet_ : s.start (.tick elapsed) = ({ s with nextId := s.nextId + 1 }, []) ∨
      s.start (.tick elapsed) = s₁.arrive s.nextId (.run .probe) := by
    simp only [start_eq]
    split
    · exact .inl rfl
    · exact .inr rfl
  obtain e | e := quiet_
  · rw [e, List.append_nil]
    exact h.congr _ rfl rfl rfl rfl rfl rfl rfl
  · have flow : Flow lines past (s.inTurn ++ [(s.nextId, .run .probe)]) s :=
      h.toFlow.append rfl (by simp)
    rw [e]
    exact Flow.arrive (flow.congr s₁ rfl rfl rfl rfl rfl) h.direct

theorem Flowing.succeed {p : Phase} (h : Flowing lines past s) (holder : s.holder = some (id, p)) :
    Flowing lines (past ++ (s.succeed id p).2) (s.succeed id p).1 := by
  have flow := h.toFlow
  rw [inTurn_of_holder holder] at flow
  obtain rfl | ⟨line, rfl⟩ := h.direct id p holder
  · let reconnects := if s.tracker.markUp.1 then s.stats.reconnects + 1 else s.stats.reconnects
    let s₁ := { s.markUp with stats := { s.stats with reconnects } }
    have direct : s.succeed id .checking = s₁.finish id (.probed s₁.state) :=
      if_pos (Buffer.isEmpty_iff.2 h.empty)
    rw [direct]
    refine Flow.finish (s := s₁) ?_ (by simp)
    exact { flow.of_cons rfl with up := rfl }
  · have written := flow.written
    rw [sending_cons, List.map_append, ← List.append_assoc] at written
    have pending : s.tracker.pending = (sending s.queue).length + 1 := flow.pending
    refine ⟨⟨rfl, flow.room, ?_, flow.open_, flow.retiring, flow.connected, flow.empty, ?_, ?_, ?_⟩,
      fun _ _ holder => nomatch holder⟩
    · exact congrArg (· - 1) pending
    · exact fun c hc => flow.staying c (List.mem_cons_of_mem _ hc)
    · rw [writes_append]
      exact written
    · intro x hx o e
      rw [returns_append] at hx
      obtain hx | hx := List.mem_append.1 hx
      · exact flow.sent x hx o e
      · obtain rfl := List.mem_singleton.1 hx
        exact (Answer.outcome.inj e).symm

theorem Flowing.grant {queue : List (CallId × Job)} (h : Flowing lines past s)
    (holder : s.holder = none) (hq : s.queue = (id, job) :: queue) :
    Flowing lines (past ++ (enter { s with queue } id job).2)
      (enter { s with queue } id job).1 := by
  have flow := h.toFlow
  rw [inTurn_of_free holder, hq] at flow
  exact Flow.enter (flow.congr { s with queue } rfl rfl rfl rfl rfl)

theorem Flowing.step {e : Event} {s' : Sender} {fx : List Effect} (h : Flowing lines past s)
    (step : s.step e = some (s', fx)) (inner : e.isInner = true)
    (met : ∀ r, e = .reply r → r.fault = none ∧ r.connected = true) :
    Flowing lines (past ++ fx) s' := by
  cases e with
  | start op =>
    cases op with
    | tick elapsed =>
      have := h.tick elapsed
      rwa [step_start step] at this
    | _ => cases inner
  | reply r =>
    obtain ⟨ok, connected⟩ := met r rfl
    obtain ⟨id, p, holder, ⟨-, step⟩ | ⟨failed, -⟩⟩ := step_reply step
    · have h := h.congr { s with connected := r.connected } rfl rfl rfl
        (connected.trans h.connected.symm) rfl rfl rfl
      have := h.succeed holder
      rwa [step] at this
    · exact absurd ok failed
  | grant =>
    obtain ⟨id, job, queue, holder, hq, step⟩ := step_grant step
    have := h.grant holder hq
    rwa [step] at this
  | retire =>
    obtain ⟨id, retiring, -⟩ := step_retire step
    cases h.retiring.symm.trans retiring
  | _ => cases inner

theorem flowing_startConnected {config : SenderConfig} {endpoint : String} {reply : Reply}
    (h : startConnected config endpoint reply = .ok s) (connected : reply.connected = true) :
    Flowing [] [] s := by
  have blank : Blank s := Started.blank (.inl ⟨_, _, _, h⟩)
  obtain ⟨valid, -, s₁, built, rfl⟩ := startConnected_ok h
  have room : config.maxPending ≠ 0 := by
    intro none_
    rw [SenderConfig.validate, if_pos none_] at valid
    split at valid <;> cases valid
  unfold build at built
  split at built
  · cases built
  · cases built
    exact ⟨⟨rfl, Nat.pos_of_ne_zero room, rfl, rfl, rfl, connected, blank.buffer.1,
      List.forall_mem_nil _, rfl, List.forall_mem_nil _⟩, fun _ _ holder => nomatch holder⟩

end Sender

end MetricRelay
