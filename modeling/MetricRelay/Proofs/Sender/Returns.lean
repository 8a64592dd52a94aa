import MetricRelay.Proofs.Sender.Calls

namespace MetricRelay

namespace Event

/-- The call to send that comes in with an event, with its line, if it gets the number `next`. -/
def send (next : CallId) : Event → List (CallId × String)
  | .start (.send line) => [(next, terminated line)]
  | _ => []

def sends : CallId → List Event → List (CallId × String)
  | _, [] => []
  | next, e :: es => e.send next ++ sends (next + e.calls) es

def lines : Event → List String
  | .start (.send line) => [terminated line]
  | _ => []

theorem map_snd_sends (next : CallId) (es : List Event) :
    (sends next es).map Prod.snd = es.flatMap lines := by
  induction es generalizing next with
  | nil => rfl
  | cons e es ih =>
    rw [sends, List.map_append, ih, List.flatMap_cons]
    congr 1
    cases e with
    | start op => cases op <;> rfl
    | _ => rfl

theorem send_cases (next : CallId) (e : Event) :
    e.send next = [] ∨ ∃ line, e.send next = [(next, line)] ∧ e.calls = 1 := by
  cases e with
  | start op =>
    cases op with
    | send line => exact .inr ⟨_, rfl, rfl⟩
    | _ => exact .inl rfl
  | _ => exact .inl rfl

theorem le_of_mem_sends {next : CallId} {es : List Event} {x : CallId × String}
    (h : x ∈ sends next es) : next ≤ x.1 := by
  induction es generalizing next with
  | nil => cases h
  | cons e es ih =>
    rcases List.mem_append.1 h with h | h
    · obtain e' | ⟨line, e', -⟩ := e.send_cases next
      · rw [e'] at h
        cases h
      · rw [e', List.mem_singleton] at h
        subst h
        exact Nat.le_refl _
    · exact Nat.le_trans (Nat.le_add_right ..) (ih h)

theorem nodup_sends (next : CallId) (es : List Event) : ((sends next es).map Prod.fst).Nodup := by
  induction es generalizing next with
  | nil => exact List.nodup_nil
  | cons e es ih =>
    rw [sends, List.map_append]
    obtain e' | ⟨line, e', calls⟩ := e.send_cases next
    · rw [e']
      exact ih _
    · rw [e', calls]
      refine List.nodup_cons.2 ⟨fun h => ?_, ih _⟩
      obtain ⟨x, hx, rfl⟩ := List.mem_map.1 h
      exact absurd (le_of_mem_sends hx) (Nat.not_succ_le_self _)

theorem lookup_sends {next : CallId} {es : List Event} {id : CallId} {line : String}
    (h : (id, line) ∈ sends next es) : (sends next es).lookup id = some line := by
  obtain ⟨l₁, l₂, eq⟩ := List.append_of_mem h
  have nodup := nodup_sends next es
  rw [eq, List.map_append] at nodup
  refine List.lookup_eq_some_iff.2 ⟨l₁, l₂, eq, fun x hx => ?_⟩
  have := List.disjoint_of_nodup_append nodup (List.mem_map_of_mem hx)
  simpa using fun e => this (by simp [e])

def lineOf (es : List Event) (id : CallId) : String := ((sends 0 es).lookup id).getD ""

theorem lineOf_eq {es : List Event} {x : CallId × String} (h : x ∈ sends 0 es) :
    lineOf es x.1 = x.2 := by
  rw [lineOf, lookup_sends h, Option.getD_some]

end Event

def Answer.keeps : Answer → Bool
  | .outcome .sent => true
  | .outcome .buffered => true
  | _ => false

def Answer.rejects : Answer → Bool
  | .outcome .rejected => true
  | _ => false

namespace Effect

/-- The calls to send whose lines were written or put into the buffer. -/
def kept (effects : List Effect) : List CallId :=
  ((returns effects).filter (·.2.keeps)).map Prod.fst

@[simp] def rejection : Effect → List CallId
  | returned id (.outcome .rejected) => [id]
  | _ => []

def rejected (effects : List Effect) : List CallId := effects.flatMap rejection

@[simp] theorem kept_append (l l' : List Effect) : kept (l ++ l') = kept l ++ kept l' := by
  simp [kept]

@[simp] theorem rejected_nil : rejected [] = [] := rfl

@[simp] theorem rejected_cons (e : Effect) (l : List Effect) :
    rejected (e :: l) = e.rejection ++ rejected l := rfl

@[simp] theorem rejected_append (l l' : List Effect) :
    rejected (l ++ l') = rejected l ++ rejected l' := List.flatMap_append

theorem rejected_eq (effects : List Effect) :
    rejected effects = ((returns effects).filter (·.2.rejects)).map Prod.fst := by
  induction effects with
  | nil => rfl
  | cons e l ih =>
    cases e with
    | returned id a =>
      rw [rejected_cons, ih, returns_returned]
      cases a with
      | outcome o => cases o <;> rfl
      | _ => rfl
    | _ => exact ih

theorem kept_sublist (effects : List Effect) :
    (kept effects).Sublist ((returns effects).map Prod.fst) := List.filter_sublist.map _

end Effect

namespace Sender

open Effect

theorem run_cons {s s' : Sender} {e : Event} {es : List Event} {fx : List Effect} :
    s.run (e :: es) = some (s', fx) ↔
      ∃ s₁ fx₁ fx₂, s.step e = some (s₁, fx₁) ∧ s₁.run es = some (s', fx₂) ∧
        fx = fx₁ ++ fx₂ := by
  simp only [run, Option.bind_eq_bind, Option.bind_eq_some_iff, Option.pure_def,
    Option.some.injEq, Prod.exists, Prod.mk.injEq]
  constructor
  · rintro ⟨s₁, fx₁, h₁, s₂, fx₂, h₂, rfl, rfl⟩
    exact ⟨s₁, fx₁, fx₂, h₁, h₂, rfl⟩
  · rintro ⟨s₁, fx₁, fx₂, h₁, h₂, rfl⟩
    exact ⟨s₁, fx₁, h₁, s', fx₂, h₂, rfl, rfl⟩

theorem run_append {s s' : Sender} {es es' : List Event} {fx : List Effect} :
    s.run (es ++ es') = some (s', fx) ↔
      ∃ s₁ fx₁ fx₂, s.run es = some (s₁, fx₁) ∧ s₁.run es' = some (s', fx₂) ∧
        fx = fx₁ ++ fx₂ := by
  induction es generalizing s fx with
  | nil => simp [run]
  | cons e es ih =>
    simp only [List.cons_append, run_cons, ih]
    constructor
    · rintro ⟨s₁, fx₁, _, h₁, ⟨s₂, fx₂, fx₃, h₂, h₃, rfl⟩, rfl⟩
      exact ⟨s₂, fx₁ ++ fx₂, fx₃, ⟨s₁, fx₁, fx₂, h₁, h₂, rfl⟩, h₃, by simp⟩
    · rintro ⟨s₂, _, fx₃, ⟨s₁, fx₁, fx₂, h₁, h₂, rfl⟩, h₃, rfl⟩
      exact ⟨s₁, fx₁, fx₂ ++ fx₃, h₁, ⟨s₂, fx₂, fx₃, h₂, h₃, rfl⟩, by simp⟩

theorem run_induction {P : List Event → List Effect → Sender → Prop}
    (step : ∀ {e es past s s' fx}, P (e :: es) past s → s.step e = some (s', fx) →
      P es (past ++ fx) s')
    {es : List Event} {past fx : List Effect} {s s' : Sender} (start : P es past s)
    (h : s.run es = some (s', fx)) : P [] (past ++ fx) s' := by
  induction es generalizing s past fx with
  | nil =>
    cases h
    rwa [List.append_nil]
  | cons e es ih =>
    obtain ⟨s₁, fx₁, fx₂, h₁, h₂, rfl⟩ := run_cons.1 h
    rw [← List.append_assoc]
    exact ih (step start h₁) h₂

theorem run_induction_nil {P : List Event → List Effect → Sender → Prop}
    (step : ∀ {e es past s s' fx}, P (e :: es) past s → s.step e = some (s', fx) →
      P es (past ++ fx) s')
    {es : List Event} {fx : List Effect} {s s' : Sender} (start : P es [] s)
    (h : s.run es = some (s', fx)) : P [] fx s' :=
  run_induction step start h

def along {α : Type} (f : Sender → Event → List α) (s : Sender) : List Event → List α
  | [] => []
  | e :: es => f s e ++ (s.step e).toList.flatMap fun r => along f r.1 es

theorem along_cons {α : Type} {f : Sender → Event → List α} {s s' : Sender} {e : Event}
    {es : List Event} {fx : List Effect} (h : s.step e = some (s', fx)) :
    s.along f (e :: es) = f s e ++ s'.along f es := by
  simp [along, h]

theorem along_append {α : Type} {f : Sender → Event → List α} {s s' : Sender}
    {es es' : List Event} {fx : List Effect} (h : s.run es = some (s', fx)) :
    s.along f (es ++ es') = s.along f es ++ s'.along f es' := by
  induction es generalizing s fx with
  | nil =>
    cases h
    rfl
  | cons e es ih =>
    obtain ⟨s₁, fx₁, fx₂, step, run, -⟩ := run_cons.1 h
    rw [List.cons_append, along_cons step, along_cons step, ih run, List.append_assoc]

structure Orderly (past : List Effect) (s : Sender) : Prop where
  open_ : s.closed = false → s.retiring = none
  nodup : (s.underway.map Prod.fst ++ (returns past).map Prod.fst).Nodup
  lt : ∀ id ∈ s.underway.map Prod.fst ++ (returns past).map Prod.fst, id < s.nextId

theorem Turnover.numbers {calls calls' : List (CallId × Job)} {fx : List Effect}
    (h : Turnover calls calls' fx) :
    (calls'.map Prod.fst ++ (returns fx).map Prod.fst).Perm (calls.map Prod.fst) := by
  cases h with
  | stays perm returns_eq =>
    rw [returns_eq, List.map_nil, List.append_nil]
    exact perm.map _
  | ends id job a perm returns_eq fits =>
    rw [returns_eq]
    exact (List.perm_append_singleton ..).trans (perm.map Prod.fst)

theorem incoming_cases (s : Sender) (e : Event) :
    s.incoming e = [] ∨ ∃ job, s.incoming e = [(s.nextId, job)] ∧ e.calls = 1 := by
  cases e with
  | start op =>
    cases op with
    | tick elapsed =>
      simp only [incoming]
      split
      · exact .inl rfl
      · exact .inr ⟨_, rfl, rfl⟩
    | _ => exact .inr ⟨_, rfl, rfl⟩
  | _ => exact .inl rfl

theorem orderly_step {past fx : List Effect} {s s' : Sender} {e : Event}
    (o : Orderly past s) (h : s.step e = some (s', fx)) : Orderly (past ++ fx) s' := by
  have steady := steady_step h
  have perm : (s'.underway.map Prod.fst ++ (returns (past ++ fx)).map Prod.fst).Perm
      ((s.incoming e).map Prod.fst ++
        (s.underway.map Prod.fst ++ (returns past).map Prod.fst)) := by
    have := (turnover_step h o.open_).numbers.append_right ((returns past).map Prod.fst)
    rw [List.map_append, List.append_assoc, List.append_assoc] at this
    rw [returns_append, List.map_append]
    exact (List.perm_append_comm.append_left _).trans this
  refine ⟨steady.open_ o.open_, perm.nodup_iff.2 ?_, fun id hid => ?_⟩
  · obtain hi | ⟨job, hi, -⟩ := s.incoming_cases e
    · rw [hi]
      exact o.nodup
    · rw [hi]
      exact List.nodup_cons.2 ⟨fun hm => Nat.lt_irrefl _ (o.lt _ hm), o.nodup⟩
  · rw [steady.nextId]
    rcases List.mem_append.1 (perm.mem_iff.1 hid) with hid | hid
    · obtain hi | ⟨job, hi, calls⟩ := s.incoming_cases e
      · rw [hi] at hid
        cases hid
      · rw [hi] at hid
        cases List.mem_singleton.1 hid
        rw [calls]
        exact Nat.lt_succ_self _
    · exact Nat.lt_of_lt_of_le (o.lt id hid) (Nat.le_add_right ..)

theorem Orderly.notMem_kept {past fx : List Effect} {s s' : Sender} {e : Event} {id : CallId}
    (o : Orderly past s) (h : s.step e = some (s', fx)) (hid : id ∈ kept past) : id ∉ kept fx := by
  have nodup := (orderly_step o h).nodup.of_append_right
  rw [returns_append, List.map_append] at nodup
  exact fun hid' => List.disjoint_of_nodup_append nodup
    ((kept_sublist past).subset hid) ((kept_sublist fx).subset hid')

def sending (calls : List (CallId × Job)) : List (CallId × String) :=
  calls.filterMap fun
    | (id, .run (.send line)) => some (id, line)
    | _ => none

theorem mem_sending {calls : List (CallId × Job)} {id : CallId} {line : String} :
    (id, line) ∈ sending calls ↔ (id, .run (.send line)) ∈ calls := by
  rw [sending, List.mem_filterMap]
  constructor
  · rintro ⟨⟨id', job⟩, hm, h⟩
    split at h
    · cases h
      rename_i eq
      rwa [eq] at hm
    · cases h
  · exact fun h => ⟨_, h, rfl⟩

theorem sending_incoming (s : Sender) (e : Event) :
    sending (s.incoming e) = e.send s.nextId := by
  cases e with
  | start op =>
    cases op with
    | tick elapsed =>
      simp only [incoming]
      split <;> rfl
    | _ => rfl
  | _ => rfl

@[simp] theorem sending_nil : sending [] = [] := rfl

@[simp] theorem sending_append (calls calls' : List (CallId × Job)) :
    sending (calls ++ calls') = sending calls ++ sending calls' := List.filterMap_append

theorem sending_perm {calls calls' : List (CallId × Job)} (h : calls.Perm calls') :
    (sending calls).Perm (sending calls') := h.filterMap _

theorem Turnover.sending_perm {calls calls' : List (CallId × Job)} {fx : List Effect}
    (h : Turnover calls calls' fx) :
    ((sending calls').map Prod.fst ++ (kept fx ++ rejected fx)).Perm
      ((sending calls).map Prod.fst) := by
  cases h with
  | stays perm returns_eq =>
    rw [kept, rejected_eq, returns_eq]
    simpa using (Sender.sending_perm perm).map Prod.fst
  | ends id job a perm returns_eq fits =>
    rw [kept, rejected_eq, returns_eq]
    refine List.Perm.trans ?_ ((Sender.sending_perm perm).map Prod.fst)
    cases a with
    | outcome o =>
      cases job with
      | run errand =>
        cases errand with
        | send line => cases o <;> exact List.perm_append_singleton ..
        | _ => cases fits
      | close => cases fits
    | _ =>
      cases job with
      | run errand =>
        cases errand with
        | send line => cases fits
        | _ => simp [sending, Answer.keeps, Answer.rejects]
      | close => simp [sending, Answer.keeps, Answer.rejects]

theorem sending_step {past fx : List Effect} {s s' : Sender} {e : Event}
    (o : Orderly past s) (h : s.step e = some (s', fx)) :
    ((sending s'.underway).map Prod.fst ++ (kept fx ++ rejected fx)).Perm
      ((e.send s.nextId).map Prod.fst ++ (sending s.underway).map Prod.fst) := by
  have := (turnover_step h o.open_).sending_perm
  rwa [sending_append, List.map_append, sending_incoming] at this

theorem sending_run {past fx : List Effect} {s s' : Sender} {es : List Event}
    (o : Orderly past s) (h : s.run es = some (s', fx)) :
    ((sending s'.underway).map Prod.fst ++ (kept fx ++ rejected fx)).Perm
      ((Event.sends s.nextId es).map Prod.fst ++ (sending s.underway).map Prod.fst) := by
  induction es generalizing s past fx with
  | nil =>
    cases h
    simp [kept, Event.sends]
  | cons e es ih =>
    obtain ⟨s₁, fx₁, fx₂, h₁, h₂, rfl⟩ := run_cons.1 h
    have step := sending_step o h₁
    have rest := ih (orderly_step o h₁) h₂
    rw [(steady_step h₁).nextId] at rest
    rw [Event.sends, List.map_append, kept_append, rejected_append]
    refine List.perm_iff_count.2 fun id => ?_
    have step := step.count_eq id
    have rest := rest.count_eq id
    simp only [List.count_append] at *
    omega

def Named (text : CallId → String) (es : List Event) (s : Sender) : Prop :=
  ∀ x ∈ sending s.underway ++ Event.sends s.nextId es, text x.1 = x.2

theorem named_step {past fx : List Effect} {s s' : Sender} {e : Event} {es : List Event}
    {text : CallId → String} (o : Orderly past s) (named : Named text (e :: es) s)
    (h : s.step e = some (s', fx)) : Named text es s' := by
  intro x hx
  refine named x ?_
  rw [Event.sends]
  rw [(steady_step h).nextId] at hx
  rcases List.mem_append.1 hx with hx | hx
  · have : x ∈ sending (s.incoming e ++ s.underway) := by
      cases turnover_step h o.open_ with
      | stays perm _ => exact (sending_perm perm).subset hx
      | ends id job a perm _ _ =>
        refine (sending_perm perm).subset ?_
        rw [← List.singleton_append, sending_append]
        exact List.mem_append_right _ hx
    rw [sending_append, sending_incoming] at this
    grind
  · grind

def Started (s : Sender) : Prop :=
  (∃ config endpoint reply, startConnected config endpoint reply = .ok s) ∨
    ∃ config hasRuntime, startDisconnected config hasRuntime = .ok s

structure Blank (s : Sender) : Prop where
  holder : s.holder = none
  queue : s.queue = []
  retiring : s.retiring = none
  background : s.background = none
  closed : s.closed = false
  nextId : s.nextId = 0
  stats : s.stats = .zero
  buffer : s.buffer.toList = [] ∧ s.buffer.dropped = 0 ∧ s.buffer.rejected = 0

theorem blank_build {config : SenderConfig} {state : LinkState} {connected : Bool} {s : Sender}
    (h : build config state connected = .ok s) : Blank s := by
  unfold build at h
  split at h
  · cases h
  · rename_i buffer created
    cases h
    obtain ⟨lines, dropped, rejected, -⟩ := Buffer.create_ok created
    exact ⟨rfl, rfl, rfl, rfl, rfl, rfl, rfl, lines, dropped, rejected⟩

theorem startConnected_ok {config : SenderConfig} {endpoint : String} {reply : Reply} {s : Sender}
    (h : startConnected config endpoint reply = .ok s) :
    config.validate = .ok () ∧ reply.fault = none ∧
      ∃ s₁, build config .up reply.connected = .ok s₁ ∧
      s = { s₁ with tracker := s₁.tracker.markUp.2 } := by
  unfold startConnected at h
  cases hv : config.validate with
  | error e => simp [hv, bind, Except.bind] at h
  | ok u =>
    cases hf : reply.fault with
    | some fault => simp [hv, hf, bind, Except.bind, throw, throwThe, MonadExceptOf.throw] at h
    | none =>
      cases hb : build config .up reply.connected with
      | error e => simp [hv, hf, hb, bind, Except.bind] at h
      | ok s₁ =>
        simp [hv, hf, hb, bind, Except.bind, pure, Except.pure] at h
        exact ⟨rfl, rfl, s₁, rfl, h.symm⟩

theorem startDisconnected_ok {config : SenderConfig} {hasRuntime : Bool} {s : Sender}
    (h : startDisconnected config hasRuntime = .ok s) :
    config.validate = .ok () ∧ hasRuntime = true ∧ build config .down false = .ok s := by
  unfold startDisconnected at h
  cases hv : config.validate with
  | error e => simp [hv, bind, Except.bind] at h
  | ok u =>
    cases hasRuntime with
    | false => simp [hv, bind, Except.bind, throw, throwThe, MonadExceptOf.throw] at h
    | true => simpa [hv, bind, Except.bind] using h

theorem Started.blank {s : Sender} (h : Started s) : Blank s := by
  obtain ⟨config, endpoint, reply, h⟩ | ⟨config, hasRuntime, h⟩ := h
  · obtain ⟨-, -, s₁, built, rfl⟩ := startConnected_ok h
    have b := blank_build built
    exact ⟨b.holder, b.queue, b.retiring, b.background, b.closed, b.nextId, b.stats, b.buffer⟩
  · exact blank_build (startDisconnected_ok h).2.2

theorem Blank.underway {s : Sender} (h : Blank s) : s.underway = [] := by
  rw [Sender.underway, waiting, h.holder, h.queue, h.retiring]
  rfl

theorem Blank.orderly {s : Sender} (h : Blank s) : Orderly [] s := by
  refine ⟨fun _ => h.retiring, ?_, ?_⟩
  · rw [h.underway]
    exact List.nodup_nil
  · rw [h.underway]
    intro id hid
    cases hid

theorem Blank.named {s : Sender} (h : Blank s) (es : List Event) :
    Named (Event.lineOf es) es s := by
  rw [Named, h.underway, h.nextId]
  exact fun x hx => Event.lineOf_eq hx

theorem Blank.sends_perm {s s' : Sender} {events : List Event} {effects : List Effect}
    (h : Blank s) (run : s.run events = some (s', effects)) :
    ((sending s'.underway).map Prod.fst ++ (kept effects ++ rejected effects)).Perm
      ((Event.sends 0 events).map Prod.fst) := by
  have := sending_run h.orderly run
  rwa [h.underway, h.nextId, sending_nil, List.map_nil, List.append_nil] at this

end Sender

end MetricRelay
