import MetricRelay.Proofs.Sender.Progress

namespace MetricRelay

namespace Sender

open Effect

def returned (fx : List Effect) : List CallId := (returns fx).map Prod.fst

variable {past : List Effect} {s s' : Sender} {e : Event} {fx : List Effect}

def Relieved (s s' : Sender) (fx : List Effect) : Prop :=
  s'.background.toList = s.background.toList.filter (· ∉ returned fx)

theorem relieved_of_silent (h : s'.background = s.background) (silent : returns fx = []) :
    Relieved s s' fx := by
  simp [Relieved, returned, silent, h]

theorem relieved_of_return {id : CallId} {a : Answer} (returns_eq : returns fx = [(id, a)])
    (h : s'.background = if s.background = some id then none else s.background) :
    Relieved s s' fx := by
  rw [Relieved, returned, returns_eq, h]
  cases s.background with
  | none => simp
  | some b => by_cases hb : b = id <;> simp [hb]

theorem Turn.relieved {s₀ : Sender} {id : CallId} {job : Job} {r : Sender × List Effect}
    (h : Turn s₀ id job r) (background : s₀.background = s.background) : Relieved s r.1 r.2 := by
  cases h.fate with
  | asks p _ _ returns_eq b _ => exact relieved_of_silent (b.trans background) returns_eq
  | ends a _ _ returns_eq b _ => exact relieved_of_return returns_eq (background ▸ b)

theorem relieved_arrive {s₀ : Sender} {id : CallId} {job : Job} (h : s₀.arrive id job = (s', fx))
    (background : s₀.background = s.background) : Relieved s s' fx := by
  obtain ⟨-, -, e⟩ | e := s₀.arrive_cases id job
  · have := (turn_enter s₀ id job).relieved background
    rwa [← e, h] at this
  · cases e.symm.trans h
    exact relieved_of_silent background rfl

theorem relieved_start {op : Op} (h : s.start op = (s', fx)) (hop : ∀ elapsed, op ≠ .tick elapsed)
    (hb : ∀ b, s.background = some b → b < s.nextId) : Relieved s s' fx := by
  have other : s.background = if s.background = some s.nextId then none else s.background := by
    split
    · rename_i h
      exact absurd (hb _ h) (Nat.lt_irrefl _)
    · rfl
  cases s.opening_start op with
  | keeps line op_eq s₁ counted r_eq =>
    cases r_eq.symm.trans h
    have returns_eq : returns ((s₁.keep (terminated line)).2.2 ++
        [.returned s.nextId (.outcome (s₁.keep (terminated line)).1)]) =
        [(s.nextId, .outcome (s₁.keep (terminated line)).1)] := by
      rw [returns_append, returns_keep]
      rfl
    refine relieved_of_return returns_eq ?_
    rw [(s₁.undisturbed_keep _).background, counted]
    exact other
  | answers job a awake incoming fits unkept r_eq =>
    cases r_eq.symm.trans h
    exact relieved_of_return rfl other
  | arrives job s₁ awake incoming tracker counted r_eq =>
    exact relieved_arrive (r_eq.symm.trans h) (by rw [counted])
  | sleeps elapsed op_eq => exact absurd op_eq (hop elapsed)
  | wakes elapsed op_eq => exact absurd op_eq (hop elapsed)
  | closes op_eq was_open r_eq =>
    cases r_eq.symm.trans h
    exact relieved_of_silent rfl rfl

theorem relieved_step (h : s.step e = some (s', fx)) (he : ∀ elapsed, e ≠ .start (.tick elapsed))
    (hb : ∀ b, s.background = some b → b < s.nextId) : Relieved s s' fx := by
  cases e with
  | start op =>
    exact relieved_start (step_start h) (fun elapsed eq => he elapsed (congrArg _ eq)) hb
  | reply r =>
    obtain ⟨id, p, -, ⟨line, -, -, -, background, rfl⟩ | turn⟩ := reply_cases h
    · exact relieved_of_return rfl background
    · exact turn.relieved rfl
  | grant =>
    obtain ⟨id, job, queue, -, -, h⟩ := step_grant h
    have := (turn_enter { s with queue } id job).relieved (s := s) rfl
    rwa [h] at this
  | retire =>
    obtain ⟨id, -, -, h⟩ := step_retire h
    exact relieved_arrive h rfl
  | take => cases h; exact relieved_of_silent rfl rfl
  | markUp => cases h; exact relieved_of_silent rfl rfl
  | markDown => cases h; exact relieved_of_silent rfl rfl
  | hold => cases h; exact relieved_of_silent rfl rfl
  | release =>
    obtain ⟨-, h⟩ := step_release h
    cases h
    exact relieved_of_silent rfl rfl

theorem frame_arrive (s : Sender) (id : CallId) (job : Job) :
    (s.arrive id job).1.closed = s.closed ∧ (s.arrive id job).1.retiring = s.retiring := by
  obtain ⟨-, -, e⟩ | e := s.arrive_cases id job
  · have frame := (turn_enter s id job).frame
    rw [e]
    exact ⟨frame.closed, frame.retiring⟩
  · rw [e]
    exact ⟨rfl, rfl⟩

theorem arrive_probe (s : Sender) (id : CallId) (h : s.closed = false) :
    (s.arrive id (.run .probe)).1.background = s.background ∧
      returns (s.arrive id (.run .probe)).2 = [] := by
  obtain ⟨-, -, e⟩ | e := s.arrive_cases id (.run .probe)
  · rw [e, enter, if_neg (by simp [h])]
    exact ⟨rfl, rfl⟩
  · rw [e]
    exact ⟨rfl, rfl⟩

theorem step_tick {elapsed : Nat} (h : s.step (.start (.tick elapsed)) = some (s', fx)) :
    (s' = { s with nextId := s.nextId + 1 } ∧ fx = [] ∧ s.incoming (.start (.tick elapsed)) = []) ∨
    (s.incoming (.start (.tick elapsed)) = [(s.nextId, .run .probe)] ∧ s.background = none ∧
      s'.background = some s.nextId ∧ s'.closed = false ∧ returns fx = []) := by
  have free : s.background = none := by
    simp only [step] at h
    split at h
    · cases h
    · rename_i hb
      simpa using hb
  have h := step_start h
  cases s.opening_start (.tick elapsed) with
  | wakes elapsed op_eq incoming was_open s₁ counted r_eq =>
    have arrived : s₁.arrive s.nextId (.run .probe) = (s', fx) := r_eq.symm.trans h
    have was_open : s₁.closed = false := counted ▸ was_open
    have closed := (s₁.frame_arrive s.nextId (.run .probe)).1
    obtain ⟨background, silent⟩ := s₁.arrive_probe s.nextId was_open
    rw [arrived] at closed background silent
    refine .inr ⟨incoming, free, ?_, closed.trans was_open, silent⟩
    rw [background, counted]
  | sleeps elapsed op_eq incoming r_eq =>
    cases r_eq.symm.trans h
    exact .inl ⟨rfl, rfl, incoming⟩
  | answers job a awake => exact absurd rfl (awake elapsed)
  | arrives job s₁ awake => exact absurd rfl (awake elapsed)
  | keeps line op_eq => cases op_eq
  | closes op_eq => cases op_eq

structure Attended (past : List Effect) (s : Sender) (own : List (CallId × Job)) : Prop where
  orderly : Orderly past s
  calls : s.underway.Perm ((s.background.toList.map fun id => (id, .run .probe)) ++ own)
  /-- A closed sender has no background probe, or has still to wait for it to end. -/
  sealed : s.closed = true →
    (∃ id, (id, .close) ∈ own ∧ s.retiring = some id) ∨ s.background = none

def unreturned (calls : List (CallId × Job)) (fx : List Effect) : List (CallId × Job) :=
  calls.filter (·.1 ∉ returned fx)

theorem unreturned_append (calls calls' : List (CallId × Job)) (fx : List Effect) :
    unreturned (calls ++ calls') fx = unreturned calls fx ++ unreturned calls' fx :=
  List.filter_append ..

theorem unreturned_of_silent (calls : List (CallId × Job)) (h : returned fx = []) :
    unreturned calls fx = calls := by
  simp [unreturned, h]

theorem Attended.lt {own : List (CallId × Job)} (h : Attended past s own) {b : CallId}
    (hb : s.background = some b) : b < s.nextId := by
  have hm : (b, .run .probe) ∈ s.underway := h.calls.mem_iff.2 (by simp [hb])
  exact h.orderly.lt b (List.mem_append_left _ (List.mem_map_of_mem hm))

theorem Orderly.notMem_returned (o : Orderly past s) (h : s.step e = some (s', fx)) {id : CallId}
    (hid : id ∈ s'.underway.map Prod.fst) : id ∉ returned fx := by
  have nodup := (orderly_step o h).nodup
  rw [returns_append, List.map_append] at nodup
  exact fun hid' => List.disjoint_of_nodup_append nodup hid (List.mem_append_right _ hid')

theorem Orderly.underway_step (o : Orderly past s) (h : s.step e = some (s', fx)) :
    s'.underway.Perm (unreturned (s.incoming e ++ s.underway) fx) := by
  have same : unreturned s'.underway fx = s'.underway := by
    refine List.filter_eq_self.2 fun c hc => ?_
    simpa using o.notMem_returned h (List.mem_map_of_mem hc)
  cases turnover_step h o.open_ with
  | stays perm returns_eq =>
    rw [unreturned_of_silent _ (by rw [returned, returns_eq]; rfl)]
    exact perm
  | ends id job a perm returns_eq fits =>
    have gone : unreturned [(id, job)] fx = [] := by simp [unreturned, returned, returns_eq]
    have := perm.filter (·.1 ∉ returned fx)
    rw [← List.singleton_append, List.filter_append] at this
    change (unreturned [(id, job)] fx ++ unreturned s'.underway fx).Perm _ at this
    rwa [gone, same, List.nil_append] at this

theorem Attended.calls_step {own : List (CallId × Job)} (h : Attended past s own)
    (step : s.step e = some (s', fx)) (he : ∀ elapsed, e ≠ .start (.tick elapsed)) :
    s'.underway.Perm ((s'.background.toList.map fun id => (id, .run .probe)) ++
      unreturned (own ++ s.incoming e) fx) := by
  have relieved : s'.background.toList.map (fun id => (id, Job.run .probe)) =
      unreturned (s.background.toList.map fun id => (id, .run .probe)) fx := by
    rw [relieved_step step he fun _ => h.lt, unreturned, List.filter_map]
    rfl
  rw [relieved, ← unreturned_append, ← List.append_assoc]
  refine (h.orderly.underway_step step).trans (List.Perm.filter _ ?_)
  exact List.perm_append_comm.trans (h.calls.append_right _)

def Closing (s s' : Sender) (e : Event) : Prop :=
  (s'.closed = s.closed ∧ (s'.retiring = s.retiring ∨ s.background = none)) ∨
    (e = .start .close ∧ s'.retiring = some s.nextId)

theorem Frame.closing (frame : Frame s s') : Closing s s' e :=
  .inl ⟨frame.closed, .inl frame.retiring⟩

theorem closing_arrive {s₁ : Sender} {id : CallId} {job : Job} (h : s₁.arrive id job = (s', fx))
    (closed : s₁.closed = s.closed) (retiring : s₁.retiring = s.retiring ∨ s.background = none) :
    Closing s s' e := by
  have frame := s₁.frame_arrive id job
  rw [h] at frame
  refine .inl ⟨frame.1.trans closed, ?_⟩
  rw [frame.2]
  exact retiring

theorem closing_start {op : Op} (h : s.start op = (s', fx)) : Closing s s' (.start op) := by
  cases s.opening_start op with
  | keeps line op_eq s₁ counted r_eq =>
    cases r_eq.symm.trans h
    have frame := (s₁.undisturbed_keep (terminated line)).toFrame
    rw [Closing, frame.closed, frame.retiring, counted]
    exact .inl ⟨rfl, .inl rfl⟩
  | answers job a awake incoming fits unkept r_eq =>
    cases r_eq.symm.trans h
    exact .inl ⟨rfl, .inl rfl⟩
  | arrives job s₁ awake incoming tracker counted r_eq =>
    exact closing_arrive (r_eq.symm.trans h) (by rw [counted]) (.inl (by rw [counted]))
  | sleeps elapsed op_eq incoming r_eq =>
    cases r_eq.symm.trans h
    exact .inl ⟨rfl, .inl rfl⟩
  | wakes elapsed op_eq incoming was_open s₁ counted r_eq =>
    exact closing_arrive (r_eq.symm.trans h) (by rw [counted]) (.inl (by rw [counted]))
  | closes op_eq was_open r_eq =>
    cases r_eq.symm.trans h
    exact .inr ⟨congrArg _ op_eq, rfl⟩

theorem closing_step (h : s.step e = some (s', fx)) : Closing s s' e := by
  cases e with
  | start op => exact closing_start (step_start h)
  | reply r =>
    obtain ⟨id, p, -, ⟨line, -, frame, -⟩ | turn⟩ := reply_cases h
    · exact frame.closing
    · exact turn.frame.closing
  | grant =>
    obtain ⟨id, job, queue, -, -, h⟩ := step_grant h
    have frame := (turn_enter { s with queue } id job).frame
    rw [h] at frame
    exact .inl ⟨frame.closed, .inl frame.retiring⟩
  | retire =>
    obtain ⟨id, -, background, h⟩ := step_retire h
    exact closing_arrive h rfl (.inr background)
  | take => cases h; exact .inl ⟨rfl, .inl rfl⟩
  | markUp => cases h; exact .inl ⟨rfl, .inl rfl⟩
  | markDown => cases h; exact .inl ⟨rfl, .inl rfl⟩
  | hold => cases h; exact .inl ⟨rfl, .inl rfl⟩
  | release =>
    obtain ⟨-, h⟩ := step_release h
    cases h
    exact .inl ⟨rfl, .inl rfl⟩

theorem Attended.step {own : List (CallId × Job)} (h : Attended past s own)
    (step : s.step e = some (s', fx)) (he : ∀ elapsed, e ≠ .start (.tick elapsed)) :
    Attended (past ++ fx) s' (unreturned (own ++ s.incoming e) fx) := by
  have relieved := relieved_step step he fun _ => h.lt
  refine ⟨orderly_step h.orderly step, h.calls_step step he, fun closed => ?_⟩
  have stays {id : CallId} (retiring : s'.retiring = some id)
      (hid : (id, .close) ∈ own ++ s.incoming e) :
      ∃ id, (id, .close) ∈ unreturned (own ++ s.incoming e) fx ∧ s'.retiring = some id := by
    have here : id ∈ s'.underway.map Prod.fst := by simp [underway, waiting, retiring]
    have fresh := h.orderly.notMem_returned step here
    exact ⟨id, List.mem_filter.2 ⟨hid, by simpa using fresh⟩, retiring⟩
  have ended (none_ : s.background = none) : s'.background = none := by
    rw [Relieved, none_] at relieved
    simpa using relieved
  obtain ⟨closed', retiring | none_⟩ | ⟨rfl, retiring⟩ := closing_step step
  · obtain ⟨id, hid, r⟩ | none_ := h.sealed (closed'.symm.trans closed)
    · exact .inl (stays (retiring.trans r) (List.mem_append_left _ hid))
    · exact .inr (ended none_)
  · exact .inr (ended none_)
  · exact .inl (stays retiring (List.mem_append_right _ (List.mem_singleton_self _)))

theorem Attended.tick {own : List (CallId × Job)} {elapsed : Nat} (h : Attended past s own)
    (step : s.step (.start (.tick elapsed)) = some (s', fx)) : Attended (past ++ fx) s' own := by
  have orderly := orderly_step h.orderly step
  obtain ⟨rfl, rfl, -⟩ | ⟨incoming, free, background, is_open, silent⟩ := step_tick step
  · exact ⟨orderly, h.calls, h.sealed⟩
  · have calls := h.orderly.underway_step step
    rw [unreturned_of_silent _ (by rw [returned, silent]; rfl), incoming] at calls
    have before := h.calls
    rw [free] at before
    refine ⟨orderly, ?_, fun closed => by simp [is_open] at closed⟩
    rw [background]
    exact calls.trans (before.cons _)

theorem Attended.isIdle_of_closed (h : Attended past s []) (closed : s.closed = true) :
    s.isIdle = true := by
  have none_ : s.background = none := by
    obtain ⟨id, hid, -⟩ | none_ := h.sealed closed
    · cases hid
    · exact none_
  have empty := h.calls
  rw [none_] at empty
  have empty := empty.eq_nil
  simp only [underway, waiting, List.append_eq_nil_iff, List.map_eq_nil_iff,
    Option.toList_eq_nil_iff] at empty
  simp [Sender.isIdle, empty]

theorem Attended.sending_eq (h : Attended past s []) : sending s.underway = [] := by
  have := sending_perm h.calls
  cases hb : s.background <;> rw [hb] at this <;> exact this.eq_nil

end Sender

end MetricRelay
