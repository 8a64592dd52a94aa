import MetricRelay.Proofs.Sender.Order
import MetricRelay.Proofs.Sender.Storage
import MetricRelay.Transport.Scripted
import MetricRelay.Transport.Tcp

/-!
A sender that is closed while calls are held up between their checks and the queue. Those that look
again when they get the transport leave it alone; a drain does not look again, and writes what it
finds in the buffer.
-/
namespace MetricRelay

/-- What has been shut down is not connected. -/
class Transport.Ends (τ : Type) [Transport τ] : Prop where
  connected_shutdown : ∀ link : τ, (Transport.serve .shutdown link).1.connected = false

instance {ν : Type} [Network ν] : Transport.Ends (Tcp ν) := ⟨fun _ => rfl⟩

instance : Transport.Ends Wire := ⟨fun _ => rfl⟩

namespace Sender

open Effect

variable {s s' : Sender} {e : Event} {fx : List Effect} {id : CallId} {p : Phase}

theorem Turn.job_of_holder {id' : CallId} {job : Job} {r : Sender × List Effect}
    (h : Turn s id' job r) (holder : r.1.holder = some (id, p)) : p.job = job := by
  cases h.fate with
  | asks p' held job_eq _ _ _ =>
    cases held.symm.trans holder
    exact job_eq
  | ends a free _ _ _ _ => cases free.symm.trans holder

theorem holder_enter_of_closed {id' : CallId} {job : Job} (closed : s.closed = true)
    (h : (s.enter id' job).1.holder = some (id, p)) : p.job = .close ∨ p.job = .run .drain := by
  rw [(turn_enter s id' job).job_of_holder h]
  cases job with
  | close => exact .inl rfl
  | run errand =>
    cases errand with
    | drain => exact .inr rfl
    | send line =>
      rw [enter, if_pos (by simp [closed])] at h
      cases h
    | probe =>
      rw [enter, if_pos closed] at h
      cases h

theorem free_enter_of_closed {job : Job} (closed : s.closed = true) (unclosing : job ≠ .close)
    (undraining : job ≠ .run .drain) : (s.enter id job).1.holder = none := by
  by_contra held
  obtain ⟨⟨id', p⟩, held⟩ := Option.ne_none_iff_exists'.1 held
  have job_eq := (turn_enter s id job).job_of_holder held
  obtain close | drain := holder_enter_of_closed closed held
  · exact unclosing (job_eq.symm.trans close)
  · exact undraining (job_eq.symm.trans drain)

theorem laden_enter_of_closed {errand : Errand} (closed : s.closed = true)
    (bounded : s.buffer.Bounded) (laden : s.buffer.toList ≠ [])
    (undraining : Job.run errand ≠ .run .drain) :
    (s.enter id (.run errand)).1.buffer.toList ≠ [] := by
  cases errand with
  | drain => exact absurd rfl undraining
  | send line =>
    have kept : (s.enter id (.run (.send line))).1.buffer = (s.buffer.push line).2 := by
      rw [enter, if_pos (by simp [closed])]
      exact s.buffer_keep line
    rw [kept]
    exact bounded.push_ne_nil line
  | probe =>
    rw [enter, if_pos closed]
    exact laden

theorem asked_arrive (s : Sender) (id' : CallId) (job : Job) (id : CallId) (p : Phase)
    (asked : .asked id p ∈ (s.arrive id' job).2) :
    (s.arrive id' job).1.holder = some (id, p) := by
  obtain ⟨-, -, e⟩ | e := s.arrive_cases id' job
  · rw [e] at asked ⊢
    exact (turn_enter s id' job).asked id p asked
  · rw [e] at asked
    cases asked

theorem holder_of_asked (h : s.step e = some (s', fx)) (asked : .asked id p ∈ fx) :
    s'.holder = some (id, p) := by
  cases course_step h with
  | writes r id' line event holder effects holder' =>
    subst effects
    simp at asked
  | turns s₀ id' job turn => exact turn.asked id p asked
  | aside holder unsent unasked => exact absurd asked (unasked id p)

theorem holder_step_of_closed (closed : s.closed = true)
    (held : ∀ id p, s.holder = some (id, p) → p.job = .close ∨ p.job = .run .drain)
    (h : s.step e = some (s', fx)) (own : (∀ op, e ≠ .start op) ∧ e ≠ .retire) :
    ∀ id p, s'.holder = some (id, p) → p.job = .close ∨ p.job = .run .drain := by
  cases e with
  | start op => exact absurd rfl (own.1 op)
  | retire => exact absurd rfl own.2
  | reply r =>
    obtain ⟨id', p', holder, ⟨line, -, -, free, -⟩ | turn⟩ := reply_cases h
    · exact fun id p holder' => by cases free.symm.trans holder'
    · intro id p holder'
      rw [turn.job_of_holder holder']
      exact held id' p' holder
  | grant =>
    obtain ⟨id', job, queue, -, -, h⟩ := step_grant h
    intro id p holder'
    have entered : (enter { s with queue } id' job).1.holder = some (id, p) := by rwa [h]
    exact holder_enter_of_closed (s := { s with queue }) closed entered
  | release =>
    obtain ⟨-, h⟩ := step_release h
    cases h
    exact held
  | _ =>
    cases h
    exact held

end Sender

namespace Crowd

open Effect Sender

variable {c c' c'' : Crowd} {a : Act} {as as' : List Act} {fx fx' : List Effect} {id : CallId}

theorem step_event {e : Event} (h : c.step (.event e) = some (c', fx)) :
    ∃ newcomer s', c.sender.stir e = some (newcomer, s', fx) ∧
      c' = ⟨s', c.admitted ++ newcomer.toList⟩ := by
  obtain ⟨⟨newcomer, s', fx'⟩, stirred, eq⟩ := Option.bind_eq_some_iff.1 h
  cases eq
  exact ⟨newcomer, s', stirred, rfl⟩

theorem step_arrive {job : Job} (h : c.step (.arrive id job) = some (c', fx)) :
    (id, job) ∈ c.admitted ∧
      c' = ⟨(c.sender.arrive id job).1, c.admitted.erase (id, job)⟩ ∧
      fx = (c.sender.arrive id job).2 := by
  simp only [step] at h
  split at h
  · rename_i mem
    cases h
    exact ⟨mem, rfl, rfl⟩
  · cases h

/-- All that an act can come to. -/
inductive Move (c : Crowd) : Act → Crowd → List Effect → Prop
  | screens (op : Op) : Move c (.event (.start op))
      ⟨(c.sender.screen op).2.1, c.admitted ++ (c.sender.screen op).1.toList⟩
      (c.sender.screen op).2.2
  | retires (id : CallId) : Move c (.event .retire)
      ⟨{ c.sender with retiring := none }, c.admitted ++ [(id, .close)]⟩ []
  | steps (e : Event) (s' : Sender) (fx : List Effect)
      (own : (∀ op, e ≠ .start op) ∧ e ≠ .retire) (step : c.sender.step e = some (s', fx)) :
      Move c (.event e) ⟨s', c.admitted⟩ fx
  | arrives (id : CallId) (job : Job) : Move c (.arrive id job)
      ⟨(c.sender.arrive id job).1, c.admitted.erase (id, job)⟩ (c.sender.arrive id job).2

theorem move_step (h : c.step a = some (c', fx)) : c.Move a c' fx := by
  cases a with
  | event e =>
    obtain ⟨newcomer, s', stirred, rfl⟩ := step_event h
    obtain ⟨op, rfl, admitted⟩ | ⟨id, rfl, -, r_eq⟩ | ⟨unstarted, staying, _, _, r_eq, step⟩ :=
      stir_cases stirred
    · have screened := Move.screens (c := c) op
      rwa [admitted] at screened
    · cases r_eq
      exact .retires id
    · cases r_eq
      rw [Option.toList_none, List.append_nil]
      exact .steps e s' fx ⟨unstarted, staying⟩ step
  | arrive id job =>
    obtain ⟨-, rfl, rfl⟩ := step_arrive h
    exact .arrives id job

theorem run_cons (h : c.run (a :: as) = some (c', fx)) :
    ∃ c₁ fx₁ fx₂, c.step a = some (c₁, fx₁) ∧ c₁.run as = some (c', fx₂) ∧ fx = fx₁ ++ fx₂ := by
  obtain ⟨⟨c₁, fx₁⟩, step, h⟩ := Option.bind_eq_some_iff.1 h
  obtain ⟨⟨c₂, fx₂⟩, run, eq⟩ := Option.bind_eq_some_iff.1 h
  cases eq
  exact ⟨c₁, fx₁, fx₂, step, run, rfl⟩

theorem run_of_step (step : c.step a = some (c', fx)) (run : c'.run as = some (c'', fx')) :
    c.run (a :: as) = some (c'', fx ++ fx') := by
  simp only [Crowd.run, step, run, Option.bind_eq_bind, Option.bind_some, Option.pure_def]

theorem run_of_sender {s s' : Sender} {es : List Event} (h : s.run es = some (s', fx)) :
    ∃ as, run ⟨s, []⟩ as = some (⟨s', []⟩, fx) := by
  induction es generalizing s fx with
  | nil =>
    cases h
    exact ⟨[], rfl⟩
  | cons e es ih =>
    obtain ⟨s₁, fx₁, fx₂, step, run, rfl⟩ := Sender.run_cons.1 h
    obtain ⟨as, run⟩ := ih run
    obtain stirred | ⟨id, job, t, stirred, arrived⟩ := step_stir step
    · have step : Crowd.step ⟨s, []⟩ (.event e) = some (⟨s₁, []⟩, fx₁) := by
        rw [Crowd.step, stirred]
        rfl
      exact ⟨_, run_of_step step run⟩
    · have admits : Crowd.step ⟨s, []⟩ (.event e) = some (⟨t, [(id, job)]⟩, []) := by
        rw [Crowd.step, stirred]
        rfl
      have arrives : Crowd.step ⟨t, [(id, job)]⟩ (.arrive id job) = some (⟨s₁, []⟩, fx₁) := by
        rw [Crowd.step, if_pos List.mem_cons_self, arrived, List.erase_cons_head]
      have run' := run_of_step admits (run_of_step arrives run)
      exact ⟨_, run'⟩

/-- The calls that have passed their checks, in their turns with the transport or on their way to
it. -/
def calls (c : Crowd) : List (CallId × Job) := c.sender.inTurn ++ c.admitted

theorem steady_step (h : c.step a = some (c', fx)) : ∃ n, Steady c.sender c'.sender n := by
  cases move_step h with
  | screens op => exact ⟨1, (c.sender.admission op).steady⟩
  | retires id => exact ⟨0, rfl, rfl, fun h => h, fun _ _ => rfl⟩
  | steps e s' fx own step => exact ⟨e.calls, Sender.steady_step step⟩
  | arrives id job => exact ⟨0, c.sender.steady_arrive id job⟩

theorem becomes_step (h : c.step a = some (c', fx)) : c.sender.buffer.Becomes c'.sender.buffer := by
  cases move_step h with
  | screens op => exact c.sender.becomes_screen op
  | retires id => exact .refl _
  | steps e s' fx own step => exact Sender.becomes_step step
  | arrives id job => exact c.sender.becomes_arrive id job

theorem becomes_run (h : c.run as = some (c', fx)) :
    c.sender.buffer.Becomes c'.sender.buffer := by
  induction as generalizing c fx with
  | nil =>
    cases h
    exact .refl _
  | cons a as ih =>
    obtain ⟨c₁, fx₁, fx₂, step, run, -⟩ := run_cons h
    exact (becomes_step step).trans (ih run)

theorem calls_step (open_ : c.sender.closed = false → c.sender.retiring = none)
    (h : c.step a = some (c', fx)) :
    ∀ x ∈ c'.calls, x ∈ c.calls ∨ (x.2 = .close ↔ c.sender.closed = true) := by
  intro x mem
  cases a with
  | event e =>
    obtain ⟨newcomer, s', stirred, rfl⟩ := step_event h
    obtain ⟨sub, late⟩ := inTurn_stir open_ stirred
    obtain mem | mem := List.mem_append.1 mem
    · exact .inl (List.mem_append_left _ (sub.subset mem))
    · obtain mem | new := List.mem_append.1 mem
      · exact .inl (List.mem_append_right _ mem)
      · exact .inr (late x new)
  | arrive id job =>
    obtain ⟨admitted, rfl, -⟩ := step_arrive h
    refine .inl ?_
    obtain mem | mem := List.mem_append.1 mem
    · obtain mem | mem := List.mem_append.1 ((c.sender.inTurn_arrive id job).subset mem)
      · exact List.mem_append_left _ mem
      · rw [List.mem_singleton.1 mem]
        exact List.mem_append_right _ admitted
    · exact List.mem_append_right _ (List.mem_of_mem_erase mem)

structure Guarded (c : Crowd) : Prop where
  retiring : c.sender.closed = false → c.sender.retiring = none
  unclosing : c.sender.closed = false → ∀ x ∈ c.calls, x.2 ≠ .close

theorem guarded_of_blank {s : Sender} (h : Blank s) : Guarded ⟨s, []⟩ := by
  refine ⟨fun _ => h.retiring, fun _ => ?_⟩
  rw [calls, inTurn_of_free h.holder, h.queue]
  exact List.forall_mem_nil _

theorem Guarded.step (h : Guarded c) (step : c.step a = some (c', fx)) : Guarded c' := by
  obtain ⟨n, steady⟩ := steady_step step
  refine ⟨steady.open_ h.retiring, fun still_open x mem close => ?_⟩
  have was_open : c.sender.closed = false := by
    by_contra closed
    rw [steady.closed (by simpa using closed)] at still_open
    cases still_open
  obtain old | late := calls_step h.retiring step x mem
  · exact h.unclosing was_open x old close
  · rw [late.1 close] at was_open
    cases was_open

theorem Guarded.run (h : Guarded c) (run : c.run as = some (c', fx)) : Guarded c' := by
  induction as generalizing c fx with
  | nil =>
    cases run
    exact h
  | cons a as ih =>
    obtain ⟨c₁, fx₁, fx₂, step, run, -⟩ := run_cons run
    exact ih (h.step step) run

theorem step_closed (h : c.step a = some (c', fx)) (returned : (id, .closed) ∈ returns fx) :
    ∃ r, a = .event (.reply r) ∧ c.sender.holder = some (id, .closing) ∧
      c' = ⟨(finish (markDown { c.sender with connected := r.connected }) id .closed).1,
        c.admitted⟩ := by
  cases a with
  | event e =>
    obtain ⟨newcomer, s', stirred, rfl⟩ := step_event h
    obtain ⟨r, rfl, holder, rfl⟩ := stir_closed stirred returned
    obtain ⟨_, -, r_eq⟩ := Option.map_eq_some_iff.1 stirred
    obtain rfl : none = newcomer := congrArg Prod.fst r_eq
    exact ⟨r, rfl, holder, by rw [Option.toList_none, List.append_nil]⟩
  | arrive id' job =>
    obtain ⟨-, -, rfl⟩ := step_arrive h
    exact absurd returned (c.sender.closed_notMem_arrive id' id job)

theorem holder_of_asked {p : Phase} (h : c.step a = some (c', fx)) (asked : .asked id p ∈ fx) :
    c'.sender.holder = some (id, p) := by
  cases move_step h with
  | screens op => exact absurd asked ((c.sender.admission op).unasked id p)
  | retires id' => cases asked
  | steps e s' fx own step => exact Sender.holder_of_asked step asked
  | arrives id' job => exact c.sender.asked_arrive id' job id p asked

/-- The sender has been closed and a call to close has returned. Besides such calls, `stragglers`
are still on their way, and only a drain has its turn with the transport. -/
structure Quit (stragglers : List (CallId × Job)) (c : Crowd) : Prop where
  closed : c.sender.closed = true
  calls : ∀ x ∈ c.calls, x.2 = .close ∨ x ∈ stragglers
  holder : ∀ id p, c.sender.holder = some (id, p) → p.job = .close ∨ p.job = .run .drain

theorem Guarded.quit (h : Guarded c) (step : c.step a = some (c', fx))
    (returned : (id, .closed) ∈ returns fx) : Quit c'.calls c' := by
  obtain ⟨r, rfl, holder, rfl⟩ := step_closed step returned
  refine ⟨?_, fun x mem => .inr mem, fun _ _ held => by cases held⟩
  by_contra was_open
  have mem : (id, .close) ∈ c.calls := by
    rw [calls, inTurn_of_holder holder]
    exact List.mem_cons_self
  exact h.unclosing (by simpa [finish, markDown] using was_open) _ mem rfl

variable {stragglers : List (CallId × Job)}

theorem Quit.step (h : Quit stragglers c) (step : c.step a = some (c', fx)) :
    Quit stragglers c' := by
  obtain ⟨n, steady⟩ := steady_step step
  have guard : c.sender.closed = false → c.sender.retiring = none := fun was_open => by
    rw [h.closed] at was_open
    cases was_open
  refine ⟨steady.closed h.closed, fun x mem => ?_, ?_⟩
  · obtain old | late := calls_step guard step x mem
    · exact h.calls x old
    · exact .inl (late.2 h.closed)
  cases move_step step with
  | screens op =>
    rw [(c.sender.admission op).holder]
    exact h.holder
  | retires id => exact h.holder
  | steps e s' fx own step => exact holder_step_of_closed h.closed h.holder step own
  | arrives id job =>
    obtain ⟨-, -, e⟩ | e := c.sender.arrive_cases id job
    · rw [e]
      exact fun _ _ => holder_enter_of_closed h.closed
    · rw [e]
      exact h.holder

/-- No line is sent, and nothing is asked for but the end of the connection, apart from what the
drains among the `stragglers` write. -/
structure Hushed (stragglers : List (CallId × Job)) (fx : List Effect) : Prop where
  asked : ∀ id p, .asked id p ∈ fx →
    p.request = .shutdown ∨ ((id, .run .drain) ∈ stragglers ∧ ∃ line, p.request = .write line)
  unsent : ∀ x ∈ returns fx, x.2 ≠ .outcome .sent

theorem hushed_nil : Hushed stragglers [] :=
  ⟨fun _ _ mem => absurd mem List.not_mem_nil, List.forall_mem_nil _⟩

theorem Hushed.append (h : Hushed stragglers fx) (h' : Hushed stragglers fx') :
    Hushed stragglers (fx ++ fx') := by
  refine ⟨fun id p mem => ?_, fun x mem => ?_⟩
  · exact (List.mem_append.1 mem).elim (h.asked id p) (h'.asked id p)
  · rw [returns_append] at mem
    exact (List.mem_append.1 mem).elim (h.unsent x) (h'.unsent x)

theorem Quit.asked (h : Quit stragglers c) {p : Phase} (holder : c.sender.holder = some (id, p)) :
    p.request = .shutdown ∨
      ((id, .run .drain) ∈ stragglers ∧ ∃ line, p.request = .write line) := by
  have mem : (id, p.job) ∈ c.calls := by
    rw [Crowd.calls, inTurn_of_holder holder]
    exact List.mem_cons_self
  obtain close | drain := h.holder id p holder
  · rw [job_eq_close.1 close]
    exact .inl rfl
  · rw [drain] at mem
    refine .inr ⟨(h.calls _ mem).resolve_left nofun, ?_⟩
    cases p with
    | draining errand line written => exact ⟨line, rfl⟩
    | _ => cases drain

theorem Quit.unsent (h : Quit stragglers c) (step : c.step a = some (c', fx)) :
    ∀ x ∈ returns fx, x.2 ≠ .outcome .sent := by
  cases move_step step with
  | screens op => exact fun x mem => ((c.sender.admission op).answers x mem).1
  | retires id => exact List.forall_mem_nil _
  | steps e s' fx own step =>
    cases course_step step with
    | writes r id line event holder effects holder' =>
      obtain close | drain := h.holder id _ holder
      · cases close
      · cases drain
    | turns s₀ id job turn => exact turn.unsent
    | aside holder unsent unasked => exact unsent
  | arrives id job =>
    obtain ⟨-, -, e⟩ | e := c.sender.arrive_cases id job
    · rw [e]
      exact (turn_enter c.sender id job).unsent
    · rw [e]
      exact List.forall_mem_nil _

theorem Quit.hushed_step (h : Quit stragglers c) (step : c.step a = some (c', fx)) :
    Hushed stragglers fx :=
  ⟨fun _ _ asked => (h.step step).asked (holder_of_asked step asked), h.unsent step⟩

theorem Quit.run (h : Quit stragglers c) (ran : c.run as = some (c', fx)) :
    Quit stragglers c' ∧ Hushed stragglers fx := by
  induction as generalizing c fx with
  | nil =>
    cases ran
    exact ⟨h, hushed_nil⟩
  | cons a as ih =>
    obtain ⟨c₁, fx₁, fx₂, step, run, rfl⟩ := run_cons ran
    obtain ⟨quit, hushed⟩ := ih (h.step step) run
    exact ⟨quit, (h.hushed_step step).append hushed⟩

/-- The act is a step of a call to close. -/
def OfClose (c : Crowd) : Act → Prop
  | .event (.start op) => op = .close
  | .event (.reply _) => ∃ id, c.sender.holder = some (id, .closing)
  | .event .grant => ∃ id queue, c.sender.queue = (id, .close) :: queue
  | .event .retire => True
  | .event _ => False
  | .arrive _ job => job = .close

theorem buffer_arrive_close (s : Sender) (id : CallId) :
    (s.arrive id .close).1.buffer = s.buffer := by
  obtain ⟨-, -, e⟩ | e := s.arrive_cases id .close
  · rw [e]
    rfl
  · rw [e]

theorem buffer_of_ofClose (own : c.OfClose a) (h : c.step a = some (c', fx)) :
    c'.sender.buffer = c.sender.buffer := by
  cases a with
  | arrive id job =>
    obtain rfl : job = .close := own
    obtain ⟨-, rfl, -⟩ := step_arrive h
    exact buffer_arrive_close c.sender id
  | event e =>
    obtain ⟨newcomer, s', stirred, rfl⟩ := step_event h
    cases e with
    | start op =>
      obtain rfl : op = .close := own
      simp only [stir, screen, Option.some.injEq] at stirred
      split at stirred
      all_goals
        cases stirred
        rfl
    | reply r =>
      obtain ⟨id, holder⟩ := own
      obtain ⟨⟨_, _⟩, step, r_eq⟩ := Option.map_eq_some_iff.1 stirred
      cases r_eq
      obtain ⟨_, _, holder', ⟨-, done⟩ | ⟨-, done⟩⟩ := step_reply step
      all_goals
        cases holder.symm.trans holder'
        cases done
        rfl
    | grant =>
      obtain ⟨id, queue, first⟩ := own
      obtain ⟨⟨_, _⟩, step, r_eq⟩ := Option.map_eq_some_iff.1 stirred
      cases r_eq
      obtain ⟨_, _, _, -, first', done⟩ := step_grant step
      cases first.symm.trans first'
      cases done
      rfl
    | retire =>
      simp only [stir] at stirred
      split at stirred
      · cases stirred
        rfl
      · cases stirred
    | _ => exact own.elim

/-- Somebody is made to write, whatever else is under way. -/
def CanWrite (c : Crowd) : Prop :=
  ∃ as c' fx id p line, c.run as = some (c', fx) ∧ .asked id p ∈ fx ∧ p.request = .write line

theorem CanWrite.of_step (step : c.step a = some (c', fx)) (h : c'.CanWrite) : c.CanWrite := by
  obtain ⟨as, c'', fx', id, p, line, run, asked, request⟩ := h
  exact ⟨_, _, _, id, p, line, run_of_step step run, List.mem_append_right _ asked, request⟩

theorem canWrite_of_asked {p : Phase} {line : String} (step : c.step a = some (c', fx))
    (asked : .asked id p ∈ fx) (request : p.request = .write line) : c.CanWrite :=
  ⟨[a], c', _, id, p, line, run_of_step step rfl, List.mem_append_left _ asked, request⟩

structure Laid (c : Crowd) : Prop where
  closed : c.sender.closed = true
  free : c.sender.holder = none
  bounded : c.sender.buffer.Bounded
  laden : c.sender.buffer.toList ≠ []

theorem exists_asked_drain {s : Sender} (laden : s.buffer.toList ≠ []) (id : CallId) :
    ∃ p line, .asked id p ∈ (s.enter id (.run .drain)).2 ∧ p.request = .write line := by
  obtain ⟨⟨line, b⟩, popped⟩ := Option.ne_none_iff_exists'.1 fun none =>
    laden (Buffer.pop?_eq_none.1 none)
  refine ⟨.draining .drain line 0, line, ?_, rfl⟩
  simp [enter, pump, popped, ask]

theorem step_grant_of_free {job : Job} {queue : List (CallId × Job)}
    (free : c.sender.holder = none) (queue_eq : c.sender.queue = (id, job) :: queue) :
    c.step (.event .grant) = some (⟨(enter { c.sender with queue } id job).1, c.admitted⟩,
      (enter { c.sender with queue } id job).2) := by
  simp [step, stir, Sender.step, free, queue_eq]

theorem Laid.canWrite {queue : List (CallId × Job)} (h : Laid c)
    (queue_eq : c.sender.queue = queue) (mem : (id, .run .drain) ∈ queue ++ c.admitted) :
    c.CanWrite := by
  induction queue generalizing c with
  | nil =>
    have step : c.step (.arrive id (.run .drain)) = some (_, _) := if_pos mem
    have arrive_eq : c.sender.arrive id (.run .drain) = c.sender.enter id (.run .drain) :=
      if_pos (by simp [h.free, queue_eq])
    obtain ⟨p, line, asked, request⟩ := exists_asked_drain h.laden id
    rw [← arrive_eq] at asked
    exact canWrite_of_asked step asked request
  | cons first queue ih =>
    obtain ⟨id₁, job⟩ := first
    let s : Sender := { c.sender with queue }
    have granted : c.step (.event .grant) = some (⟨(s.enter id₁ job).1, c.admitted⟩, _) :=
      step_grant_of_free h.free queue_eq
    by_cases drain : job = .run .drain
    · subst drain
      obtain ⟨p, line, asked, request⟩ := exists_asked_drain (s := s) h.laden id₁
      exact canWrite_of_asked granted asked request
    have behind : (id, .run .drain) ∈ queue ++ c.admitted := by
      refine (List.mem_cons.1 mem).resolve_left fun eq => drain ?_
      exact (congrArg Prod.snd eq).symm
    cases job with
    | close =>
      -- The call to close has its own request, and the reply to that sets the transport free.
      let closing : Crowd := ⟨(s.enter id₁ .close).1, c.admitted⟩
      have replied : closing.step (.event (.reply ⟨none, false⟩)) =
          some (⟨(finish (markDown { s with connected := false }) id₁ .closed).1, c.admitted ++ []⟩,
            _) := rfl
      rw [List.append_nil] at replied
      refine .of_step granted (.of_step replied (ih ⟨h.closed, rfl, h.bounded, h.laden⟩ rfl behind))
    | run errand =>
      have turn := turn_enter s id₁ (.run errand)
      refine .of_step granted (ih ⟨?_, ?_, ?_, ?_⟩ turn.frame.queue behind)
      · exact turn.frame.closed.trans h.closed
      · exact free_enter_of_closed h.closed nofun drain
      · exact (s.becomes_enter id₁ (.run errand)).bounded h.bounded
      · exact laden_enter_of_closed h.closed h.bounded h.laden drain

theorem step_send_of_closed (closed : c.sender.closed = true) (line : String) :
    let s : Sender := { c.sender with nextId := c.sender.nextId + 1 }
    c.step (.event (.start (.send line))) = some (⟨(s.keep (terminated line)).2.1, c.admitted⟩,
      (s.keep (terminated line)).2.2 ++
        [.returned c.sender.nextId (.outcome (s.keep (terminated line)).1)]) := by
  simp [step, stir, screen, closed]

theorem canWrite_of_drain (closed : c.sender.closed = true) (free : c.sender.holder = none)
    (bounded : c.sender.buffer.Bounded) (mem : (id, .run .drain) ∈ c.calls) : c.CanWrite := by
  -- A line comes in before the drain gets the transport, so that there is one to write.
  let s : Sender := { c.sender with nextId := c.sender.nextId + 1 }
  have kept := s.undisturbed_keep (terminated "")
  have buffer := s.buffer_keep (terminated "")
  have laid : Laid ⟨(s.keep (terminated "")).2.1, c.admitted⟩ := by
    refine ⟨kept.closed.trans closed, kept.holder.trans free,
      (s.becomes_keep (terminated "")).bounded bounded, ?_⟩
    rw [buffer]
    exact bounded.push_ne_nil _
  rw [calls, inTurn_of_free free] at mem
  exact .of_step (step_send_of_closed closed "") (laid.canWrite kept.queue mem)

/-- When a call to close returns, the link is down, and the transport is not connected if it honours
the request to shut down that was made of it. From then on a call to send is told at once that its
line is buffered or rejected, and so is one that passed its checks before; nothing but the end of the
connection is asked of the transport, apart from what those calls to drain write that had passed
their checks and not got the transport yet. If there is one of these, it can come to write; if there
is none, the transport is left alone. No step of a call to close changes the buffer. -/
theorem left_alone_iff_of_closed {τ : Type} [Transport τ] [Transport.Ends τ] {s₀ : Sender}
    (started : Started s₀) (before : run ⟨s₀, []⟩ as = some (c, fx))
    (step : c.step a = some (c', fx')) (closed : (id, .closed) ∈ returns fx') :
    (c'.sender.state = .down ∧ c.sender.holder = some (id, .closing) ∧
        ∀ link : τ, a = .event (.reply (Transport.serve Phase.closing.request link).1) →
          c'.sender.connected = false) ∧
      (∀ as c'' fx, c'.run as = some (c'', fx) →
        (∀ id p, .asked id p ∈ fx → p.request = .shutdown ∨
          ((id, .run .drain) ∈ c'.calls ∧ ∃ line, p.request = .write line)) ∧
        (∀ id o, (id, .outcome o) ∈ returns fx → o = .buffered ∨ o = .rejected) ∧
        ∀ line, ∃ c₁ fx₁ o, c''.step (.event (.start (.send line))) = some (c₁, fx₁) ∧
          returns fx₁ = [(c''.sender.nextId, .outcome o)] ∧ o ≠ .sent) ∧
      ((∀ as c'' fx, c'.run as = some (c'', fx) →
          ∀ id p, .asked id p ∈ fx → p.request = .shutdown) ↔
        ∀ id, (id, .run .drain) ∉ c'.calls) ∧
      ∀ (d d' : Crowd) (a : Act) (fx : List Effect), d.OfClose a → d.step a = some (d', fx) →
        d'.sender.buffer = d.sender.buffer := by
  have quit := ((guarded_of_blank started.blank).run before).quit step closed
  have bounded := ((becomes_run before).trans (becomes_step step)).bounded started.bounded
  obtain ⟨r, rfl, holder, done⟩ := step_closed step closed
  refine ⟨⟨by rw [done]; rfl, holder, fun link reply => ?_⟩, fun as c'' fx ran => ?_,
    ⟨fun silent id mem => ?_, fun none as c'' fx ran id p asked => ?_⟩, ?_⟩
  · have disconnected := Transport.Ends.connected_shutdown link
    rw [done]
    exact (congrArg Reply.connected (Event.reply.inj (Act.event.inj reply))).trans disconnected
  · obtain ⟨quit', hushed⟩ := quit.run ran
    refine ⟨hushed.asked, fun id o returned => ?_, fun line => ?_⟩
    · cases o with
      | sent => exact absurd rfl (hushed.unsent _ returned)
      | buffered => exact .inl rfl
      | rejected => exact .inr rfl
    · refine ⟨_, _, _, step_send_of_closed quit'.closed line, ?_,
        keep_ne_sent { c''.sender with nextId := c''.sender.nextId + 1 } (terminated line)⟩
      rw [returns_append, returns_keep]
      rfl
  · have free : c'.sender.holder = none := by
      rw [done]
      rfl
    obtain ⟨as, c'', fx, id', p, line, ran, asked, request⟩ :=
      canWrite_of_drain quit.closed free bounded mem
    have shutdown := silent as c'' fx ran id' p asked
    cases request.symm.trans shutdown
  · obtain shutdown | ⟨mem, -⟩ := (quit.run ran).2.asked id p asked
    · exact shutdown
    · exact absurd mem (none id)
  · exact fun d d' a fx own step => buffer_of_ofClose own step

theorem left_alone_iff_of_closed_late :
    let as : List Act :=
      [.event .hold, .event (.start (.send "a")), .event .release, .event (.start .drain),
        .event (.start (.send "b")), .event (.start .probe), .event (.start .close), .event .retire,
        .arrive 4 .close]
    let as' : List Act :=
      [.arrive 2 (.run (.send "b\n")), .arrive 3 (.run .probe), .arrive 1 (.run .drain)]
    ∃ s₀ c c' c'' past fx fx', Started s₀ ∧ run ⟨s₀, []⟩ as = some (c, past) ∧
      c.step (.event (.reply ⟨none, false⟩)) = some (c', fx) ∧ (4, .closed) ∈ returns fx ∧
      c'.run as' = some (c'', fx') ∧ returns fx' = [(2, .outcome .buffered), (3, .probed .down)] ∧
      c'.sender.state = .down ∧ c''.sender.buffer.toList = ["b\n"] ∧
      ¬ ∀ as c'' fx, c'.run as = some (c'', fx) → ∀ id p, .asked id p ∈ fx →
        p.request = .shutdown := by
  intro as as'
  obtain ⟨s₀, built, seen⟩ : ∃ s₀,
      startConnected ⟨5000, 4, .dropOldest, 1⟩ "e" ⟨none, true⟩ = .ok s₀ ∧
      ((run ⟨s₀, []⟩ as).bind fun r => (r.1.step (.event (.reply ⟨none, false⟩))).bind fun r' =>
        (r'.1.run as').map fun r'' => (decide ((4, .closed) ∈ returns r'.2),
          decide ((1, .run .drain) ∈ r'.1.calls), returns r''.2, r''.1.sender.buffer.toList)) =
        some (true, true, [(2, .outcome .buffered), (3, .probed .down)], ["b\n"]) :=
    ⟨_, rfl, by decide +kernel⟩
  obtain ⟨⟨c, past⟩, before, seen⟩ := Option.bind_eq_some_iff.1 seen
  obtain ⟨⟨c', fx⟩, step, seen⟩ := Option.bind_eq_some_iff.1 seen
  obtain ⟨⟨c'', fx'⟩, after, seen⟩ := Option.map_eq_some_iff.1 seen
  simp only [Prod.mk.injEq, decide_eq_true_eq] at seen
  obtain ⟨closed, drain, answers, left⟩ := seen
  have started : Started s₀ := .inl ⟨_, _, _, built⟩
  obtain ⟨⟨state, -⟩, -, alone, -⟩ :=
    left_alone_iff_of_closed (τ := Wire) started before step closed
  exact ⟨s₀, c, c', c'', past, fx, fx', started, before, step, closed, after, answers, state, left,
    fun silent => alone.1 silent 1 drain⟩

/-- A drain that has passed its checks before the sender is closed writes its line after the call to
close has returned. -/
theorem exists_write_after_closed :
    let as : List Act :=
      [.event .hold, .event (.start (.send "a")), .event .release, .event (.start .drain),
        .event (.start .close), .event .retire, .arrive 2 .close]
    ∃ s₀ c c' c'' past fx fx', Started s₀ ∧ run ⟨s₀, []⟩ as = some (c, past) ∧
      c.step (.event (.reply ⟨none, false⟩)) = some (c', fx) ∧ (2, .closed) ∈ returns fx ∧
      c'.run [.arrive 1 (.run .drain)] = some (c'', fx') ∧
      fx' = [.asked 1 (.draining .drain "a\n" 0)] := by
  intro as
  obtain ⟨s₀, built, seen⟩ : ∃ s₀,
      startConnected ⟨5000, 4, .dropOldest, 1⟩ "e" ⟨none, true⟩ = .ok s₀ ∧
      ((run ⟨s₀, []⟩ as).bind fun r => (r.1.step (.event (.reply ⟨none, false⟩))).bind fun r' =>
        (r'.1.run [.arrive 1 (.run .drain)]).map fun r'' =>
          (decide ((2, .closed) ∈ returns r'.2), r''.2)) =
        some (true, [.asked 1 (.draining .drain "a\n" 0)]) := ⟨_, rfl, by decide +kernel⟩
  obtain ⟨⟨c, past⟩, before, seen⟩ := Option.bind_eq_some_iff.1 seen
  obtain ⟨⟨c', fx⟩, step, seen⟩ := Option.bind_eq_some_iff.1 seen
  obtain ⟨⟨c'', fx'⟩, after, seen⟩ := Option.map_eq_some_iff.1 seen
  simp only [Prod.mk.injEq, decide_eq_true_eq] at seen
  exact ⟨s₀, c, c', c'', past, fx, fx', .inl ⟨_, _, _, built⟩, before, step, seen.1, after, seen.2⟩

end Crowd

theorem Sender.Shut.quit {s : Sender} (h : s.Shut) : Crowd.Quit [] ⟨s, []⟩ := by
  refine ⟨h.closed, fun x mem => .inl ?_, fun id p holder => .inl ?_⟩
  · rw [Crowd.calls, List.append_nil] at mem
    exact h.closing x mem
  · refine h.closing (id, p.job) ?_
    rw [inTurn_of_holder holder]
    exact List.mem_cons_self

theorem Sender.asked_of_closed {s₀ s s' s'' : Sender} {es es' : List Event} {e : Event}
    {past fx fx' : List Effect} {id : CallId} (started : Started s₀)
    (before : s₀.run es = some (s, past)) (step : s.step e = some (s', fx))
    (closed : (id, .closed) ∈ Effect.returns fx) (after : s'.run es' = some (s'', fx')) :
    ∀ id p, .asked id p ∈ fx' → p.request = .shutdown := by
  have shut := (closesLast_run started before).shut step closed
  obtain ⟨as, run⟩ := Crowd.run_of_sender after
  intro id p asked
  exact ((shut.quit.run run).2.asked id p asked).resolve_right fun h => by cases h.1

end MetricRelay
