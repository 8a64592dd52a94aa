import MetricRelay.Proofs.Sender.Attended
import MetricRelay.Proofs.Sender.Conservation
import MetricRelay.Sender.Session

/-!
A caller that waits for each call to return gets its answer: there are always turns enough. So
between two calls only the background probe can be under way, and after the sender has been closed
nothing is.
-/
namespace MetricRelay

open Effect

def Event.isInner : Event → Bool
  | .start (.tick _) => true
  | .reply _ => true
  | .grant => true
  | .retire => true
  | _ => false

theorem Event.lines_of_isInner {e : Event} (h : e.isInner = true) : e.lines = [] := by
  cases e with
  | start op =>
    cases op with
    | tick elapsed => rfl
    | _ => cases h
  | _ => rfl

namespace Sender

theorem takes_arrive (s : Sender) (id : CallId) (job : Job) : takes (s.arrive id job).2 = [] := by
  obtain ⟨-, -, e⟩ | e := s.arrive_cases id job
  · rw [e]
    exact (turn_enter s id job).untaken
  · rw [e]
    rfl

theorem takes_start (s : Sender) (op : Op) : takes (s.start op).2 = [] := by
  cases s.opening_start op with
  | keeps line op_eq s₁ counted r_eq =>
    rw [r_eq, takes_append, takes_keep]
    rfl
  | arrives job s₁ awake incoming tracker counted r_eq =>
    rw [r_eq]
    exact takes_arrive ..
  | wakes elapsed op_eq incoming was_open s₁ counted r_eq =>
    rw [r_eq]
    exact takes_arrive ..
  | answers job a awake incoming fits unkept r_eq | sleeps elapsed op_eq incoming r_eq
  | closes op_eq was_open r_eq =>
    rw [r_eq]
    rfl

theorem takes_step {s s' : Sender} {e : Event} {fx : List Effect} (h : s.step e = some (s', fx))
    (he : e ≠ .take) : takes fx = [] := by
  cases e with
  | start op =>
    have := s.takes_start op
    rwa [step_start h] at this
  | reply r =>
    obtain ⟨id, p, -, ⟨line, -, -, -, -, rfl⟩ | turn⟩ := reply_cases h
    · rfl
    · exact turn.untaken
  | grant =>
    obtain ⟨id, job, queue, -, -, h⟩ := step_grant h
    have := (turn_enter { s with queue } id job).untaken
    rwa [h] at this
  | retire =>
    obtain ⟨id, -, -, h⟩ := step_retire h
    have := takes_arrive { s with retiring := none } id .close
    rwa [h] at this
  | take => exact absurd rfl he
  | markUp => cases h; rfl
  | markDown => cases h; rfl
  | hold => cases h; rfl
  | release =>
    obtain ⟨-, h⟩ := step_release h
    cases h
    rfl

end Sender

namespace Session

variable {τ : Type} {lines : List String} {own : List (CallId × Job)} {s s' : Session τ}
  {fx : List Effect}

/-- The session began with a fresh sender, these lines have been handed to it, and the calls under
way are the caller's own and perhaps the background probe. -/
structure Tended (lines : List String) (own : List (CallId × Job)) (s : Session τ) : Prop where
  history : ∃ s₀ es, Sender.Started s₀ ∧ s₀.run es = some (s.sender, s.past.reverse) ∧
    es.flatMap Event.lines = lines
  untaken : takes s.past.reverse = []
  attended : s.sender.Attended s.past.reverse own

inductive Stirs (s : Session τ) (r : Session τ × List Effect) : Prop
  | still (sender_eq : r.1.sender = s.sender) (past_eq : r.1.past = s.past) (silent : r.2 = [])
  | steps (e : Event) (inner : e.isInner = true)
      (step : s.sender.step e = some (r.1.sender, r.2)) (past_eq : r.1.past = r.2.reverse ++ s.past)

theorem Stirs.of_eq {r : Session τ × List Effect} (h : Stirs s' r) (sender : s'.sender = s.sender)
    (past : s'.past = s.past) : Stirs s r := by
  cases h with
  | still sender_eq past_eq silent =>
    exact .still (sender_eq.trans sender) (past_eq.trans past) silent
  | steps e inner step past_eq => exact .steps e inner (sender ▸ step) (past ▸ past_eq)

theorem stirs_apply (s : Session τ) {e : Event} (inner : e.isInner = true) :
    Stirs s (s.apply e) := by
  unfold apply
  split
  · exact .still rfl rfl rfl
  · rename_i sender fx step
    exact .steps e inner step rfl

theorem moves_apply (s : Session τ) (e : Event) : (s.apply e).1.moves = s.moves := by
  unfold apply
  split <;> rfl

theorem work_apply (s : Session τ) {e : Event}
    (he : (∃ r, e = .reply r) ∨ e = .grant ∨ e = .retire) :
    (s.apply e).1.sender.work ≤ s.sender.work ∧
      (s.sender.step e ≠ none → (s.apply e).1.sender.work < s.sender.work) := by
  unfold apply
  split
  · rename_i none_
    exact ⟨Nat.le_refl _, fun h => absurd none_ h⟩
  · rename_i sender fx step
    have less : sender.work < s.sender.work := by
      obtain ⟨r, rfl⟩ | rfl | rfl := he
      · exact Sender.work_reply_lt step
      · exact Sender.work_grant_lt step
      · exact Sender.work_retire_lt step
    exact ⟨Nat.le_of_lt less, fun _ => less⟩

section

variable [Transport τ]

theorem stirs_reply (s : Session τ) : Stirs s s.reply := by
  unfold reply
  split
  · exact .still rfl rfl rfl
  · exact (stirs_apply _ rfl).of_eq rfl rfl

theorem work_reply (s : Session τ) :
    s.reply.1.moves = s.moves ∧ s.reply.1.sender.work ≤ s.sender.work ∧
      (s.sender.holder ≠ none → s.reply.1.sender.work < s.sender.work) := by
  unfold reply
  split
  · rename_i none_
    exact ⟨rfl, Nat.le_refl _, fun h => absurd none_ h⟩
  · rename_i id p holder
    obtain ⟨le, lt⟩ := work_apply { s with link := (Transport.serve p.request s.link).2 }
      (.inl ⟨(Transport.serve p.request s.link).1, rfl⟩)
    refine ⟨moves_apply .., le, fun _ => lt ?_⟩
    simp [Sender.step, holder]

theorem stirs_proceed (s : Session τ) : Stirs s s.proceed := by
  unfold proceed
  split
  · exact s.stirs_reply
  · split
    · exact s.stirs_apply rfl
    · exact s.stirs_apply rfl

theorem work_proceed (s : Session τ) :
    s.proceed.1.moves = s.moves ∧ s.proceed.1.sender.work ≤ s.sender.work ∧
      (s.sender.underway ≠ [] → (s.sender.underway.length = 1 → s.sender.background = none) →
        s.proceed.1.sender.work < s.sender.work) := by
  unfold proceed
  split
  · rename_i held
    obtain ⟨moves, le, lt⟩ := s.work_reply
    exact ⟨moves, le, fun _ _ => lt (Option.isSome_iff_ne_none.1 held)⟩
  · rename_i free
    have free : s.sender.holder = none := by simpa using free
    split
    · rename_i queued
      obtain ⟨le, lt⟩ := s.work_apply (e := .grant) (.inr (.inl rfl))
      refine ⟨moves_apply .., le, fun _ _ => lt ?_⟩
      cases hq : s.sender.queue with
      | nil => simp [hq] at queued
      | cons c queue => simp [Sender.step, free, hq]
    · rename_i empty
      have empty : s.sender.queue = [] := by simpa using empty
      obtain ⟨le, lt⟩ := s.work_apply (e := .retire) (.inr (.inr rfl))
      refine ⟨moves_apply .., le, fun busy alone => lt ?_⟩
      simp only [Sender.underway, Sender.waiting, free, empty, Option.toList_none, List.map_nil,
        List.nil_append] at busy alone
      cases hr : s.sender.retiring with
      | none => simp [hr] at busy
      | some id => simp [Sender.step, hr, alone (by simp [hr])]

theorem stirs_proceedBackground (s : Session τ) : Stirs s s.proceedBackground := by
  unfold proceedBackground
  split
  · split
    · exact s.stirs_reply
    · exact .still rfl rfl rfl
  · split
    · exact s.stirs_apply rfl
    · exact .still rfl rfl rfl
  · exact .still rfl rfl rfl

theorem work_proceedBackground (s : Session τ) :
    s.proceedBackground.1.moves = s.moves ∧
      s.proceedBackground.1.sender.work ≤ s.sender.work := by
  unfold proceedBackground
  split
  · split
    · exact ⟨s.work_reply.1, s.work_reply.2.1⟩
    · exact ⟨rfl, Nat.le_refl _⟩
  · split
    · exact ⟨moves_apply .., (s.work_apply (.inr (.inl rfl))).1⟩
    · exact ⟨rfl, Nat.le_refl _⟩
  · exact ⟨rfl, Nat.le_refl _⟩

theorem stirs_turn (s : Session τ) : Stirs s s.turn := by
  unfold turn
  split
  · exact (stirs_apply _ rfl).of_eq rfl rfl
  · exact (stirs_proceedBackground _).of_eq rfl rfl
  · exact (stirs_proceed _).of_eq rfl rfl
  · exact s.stirs_proceed

end

theorem Tended.step {e : Event} (h : Tended lines own s)
    (step : s.sender.step e = some (s'.sender, fx)) (past_eq : s'.past = fx.reverse ++ s.past)
    (take : e ≠ .take) {own' : List (CallId × Job)}
    (attended : s'.sender.Attended (s.past.reverse ++ fx) own') :
    Tended (lines ++ e.lines) own' s' := by
  have past : s'.past.reverse = s.past.reverse ++ fx := by simp [past_eq]
  obtain ⟨s₀, es, started, run, rfl⟩ := h.history
  refine ⟨⟨s₀, es ++ [e], started, ?_, by simp⟩, ?_, past ▸ attended⟩
  · rw [past]
    exact Sender.run_append.2 ⟨s.sender, _, fx, run,
      Sender.run_cons.2 ⟨_, fx, [], step, rfl, by simp⟩, rfl⟩
  · rw [past, takes_append, h.untaken, Sender.takes_step step take]
    rfl

theorem Tended.stirs {r : Session τ × List Effect} (h : Tended lines own s) (stirs : Stirs s r) :
    Tended lines (Sender.unreturned own r.2) r.1 := by
  cases stirs with
  | still sender_eq past_eq silent =>
    rw [silent, Sender.unreturned_of_silent _ rfl]
    refine ⟨?_, past_eq ▸ h.untaken, ?_⟩
    · rw [sender_eq, past_eq]
      exact h.history
    · rw [sender_eq, past_eq]
      exact h.attended
  | steps e inner step past_eq =>
    have take : e ≠ .take := by
      rintro rfl
      cases inner
    have attended : r.1.sender.Attended (s.past.reverse ++ r.2) (Sender.unreturned own r.2) := by
      by_cases ht : ∃ elapsed, e = .start (.tick elapsed)
      · obtain ⟨elapsed, rfl⟩ := ht
        have silent : Sender.returned r.2 = [] := by
          obtain ⟨-, silent, -⟩ | ⟨-, -, -, -, silent⟩ := Sender.step_tick step
          · rw [silent]
            rfl
          · rw [Sender.returned, silent]
            rfl
        rw [Sender.unreturned_of_silent _ silent]
        exact h.attended.tick step
      · have attended := h.attended.step step fun elapsed eq => ht ⟨elapsed, eq⟩
        have incoming : s.sender.incoming e = [] := by
          cases e with
          | start op =>
            cases op with
            | tick elapsed => exact absurd ⟨elapsed, rfl⟩ ht
            | _ => cases inner
          | _ => rfl
        rwa [incoming, List.append_nil] at attended
    have := h.step step past_eq take attended
    rwa [Event.lines_of_isInner inner, List.append_nil] at this

theorem closed_stirs {r : Session τ × List Effect} (stirs : Stirs s r)
    (h : s.sender.closed = true) : r.1.sender.closed = true := by
  cases stirs with
  | still sender_eq past_eq silent => exact sender_eq ▸ h
  | steps e inner step past_eq => exact (Sender.steady_step step).closed h

theorem answer?_eq_none {id : CallId} {fx : List Effect} :
    answer? id fx = none ↔ id ∉ Sender.returned fx := by
  induction fx with
  | nil => simp [answer?, Sender.returned]
  | cons e fx ih =>
    cases e with
    | returned id' a =>
      by_cases hid : id' = id
      · simp [answer?, Sender.returned, hid]
      · have other : id ≠ id' := fun e => hid e.symm
        rw [Sender.returned, returns_returned, List.map_cons, List.mem_cons, not_or]
        simp only [answer?, List.findSome?_cons, if_neg hid]
        exact ih.trans ⟨fun h => ⟨other, h⟩, fun h => h.2⟩
    | _ => exact ih

theorem unreturned_own {id : CallId} {job : Job} {fx : List Effect} :
    Sender.unreturned [(id, job)] fx = if (answer? id fx).isSome then [] else [(id, job)] := by
  cases ha : answer? id fx with
  | none => simp [Sender.unreturned, answer?_eq_none.1 ha]
  | some a =>
    have : id ∈ Sender.returned fx := by
      by_contra h
      rw [answer?_eq_none.2 h] at ha
      cases ha
    simp [Sender.unreturned, this]

theorem Tended.alone (h : Tended lines own s) (busy : own ≠ []) :
    s.sender.underway ≠ [] ∧ (s.sender.underway.length = 1 → s.sender.background = none) := by
  have count := h.attended.calls.length_eq
  rw [List.length_append, List.length_map] at count
  have pos := List.length_pos_of_ne_nil busy
  constructor
  · rintro empty
    rw [empty, List.length_nil] at count
    omega
  · intro one
    cases hb : s.sender.background with
    | none => rfl
    | some b =>
      rw [hb, Option.toList_some, List.length_singleton] at count
      omega

def effects (s : Session τ) : List Effect := s.past.reverse

theorem take_fst (s : Session τ) : s.take.1 = s.sender.buffer.toList := rfl

theorem effects_take (s : Session τ) :
    s.take.2.effects = s.effects ++ [.took s.sender.buffer.toList] :=
  List.reverse_append

theorem metrics_take (s : Session τ) :
    s.take.2.sender.buffer.metrics.dropped = s.sender.buffer.metrics.dropped ∧
      s.take.2.sender.buffer.metrics.rejected = s.sender.buffer.metrics.rejected :=
  ⟨rfl, rfl⟩

theorem Tended.lines_perm (h : Tended lines [] s) :
    lines.Perm (writes s.effects ++ (s.sender.inHand ++ s.sender.buffer.toList) ++
      (discards s.effects ++ refusals s.effects)) := by
  obtain ⟨s₀, es, started, run, rfl⟩ := h.history
  have perm := Sender.lines_perm started.blank run
  rw [h.attended.sending_eq, h.untaken, List.map_nil, List.nil_append, List.nil_append,
    List.append_assoc _ (discards _)] at perm
  exact perm

theorem Tended.counts (h : Tended lines [] s) :
    (writes s.effects).length = s.sender.delivered ∧
      (discards s.effects).length = s.sender.buffer.metrics.dropped ∧
      (refusals s.effects).length = s.sender.buffer.metrics.rejected := by
  obtain ⟨s₀, es, started, run, -⟩ := h.history
  have booked := (started.blank.sound_run run).booked
  exact ⟨booked.delivered_eq, booked.discarded, booked.refused⟩

/-- At most how many turns the session has still to take. A move can bring in one background
probe. -/
def measure (s : Session τ) : Nat := 5 * s.moves.length + s.sender.work

theorem Tended.measure_le {c : CallId × Job} (h : Tended lines [c] s) : s.measure ≤ s.patience := by
  have count := h.attended.calls.length_eq
  have work := s.sender.work_le
  have one : s.sender.background.toList.length ≤ 1 := by
    cases s.sender.background <;> simp
  rw [List.length_append, List.length_map, List.length_singleton] at count
  rw [measure, patience]
  omega

theorem step_start_of_ne {s : Sender} {op : Op} (hop : ∀ elapsed, op ≠ .tick elapsed) :
    s.step (.start op) = some (s.start op) := by
  cases op with
  | tick elapsed => exact absurd rfl (hop elapsed)
  | _ => rfl

theorem incoming_of_ne {s : Sender} {op : Op} (hop : ∀ elapsed, op ≠ .tick elapsed) :
    ∃ job, s.incoming (.start op) = [(s.nextId, job)] := by
  cases op with
  | tick elapsed => exact absurd rfl (hop elapsed)
  | _ => exact ⟨_, rfl⟩

theorem closed_start_close (s : Sender) : (s.start .close).1.closed = true := by
  simp only [Sender.start_eq]
  split
  · rename_i closed
    rw [(Sender.frame_arrive ..).1]
    exact closed
  · rfl

theorem Tended.start (h : Tended lines [] s) {op : Op} (hop : ∀ elapsed, op ≠ .tick elapsed) :
    ∃ job, s.sender.incoming (.start op) = [(s.sender.nextId, job)] ∧
      s.sender.step (.start op) =
        some ((s.apply (.start op)).1.sender, (s.apply (.start op)).2) ∧
      (s.apply (.start op)).1.past = (s.apply (.start op)).2.reverse ++ s.past ∧
      Tended (lines ++ (Event.start op).lines)
        (if (answer? s.sender.nextId (s.apply (.start op)).2).isSome then []
          else [(s.sender.nextId, job)]) (s.apply (.start op)).1 := by
  have step := step_start_of_ne (s := s.sender) hop
  rcases hr : s.sender.start op with ⟨sender, fx⟩
  rw [hr] at step
  have begun := h.attended.step step fun elapsed e => hop elapsed (Event.start.inj e)
  obtain ⟨job, incoming⟩ := incoming_of_ne (s := s.sender) hop
  rw [List.nil_append, incoming, unreturned_own] at begun
  have applied : s.apply (.start op) =
      (⟨sender, s.link, s.moves, fx.reverse ++ s.past⟩, fx) := by rw [apply, step]
  rw [applied]
  exact ⟨job, incoming, step, rfl, h.step step rfl (by simp) begun⟩

variable [Transport τ]

theorem connect_ok {config : SenderConfig} {endpoint : String} {link link' : τ}
    {moves : List Move} (h : connect config endpoint link moves = (.ok s, link')) :
    ∃ reply sender, Transport.serve .connect link = (reply, link') ∧
      Sender.startConnected config endpoint reply = .ok sender ∧ s = new sender link' moves := by
  unfold connect at h
  split at h
  · cases h
  · rcases served : Transport.serve .connect link with ⟨reply, link''⟩
    rw [served] at h
    obtain ⟨mapped, rfl⟩ := Prod.mk.inj h
    cases started : Sender.startConnected config endpoint reply with
    | error e =>
      rw [started] at mapped
      cases mapped
    | ok sender =>
      rw [started] at mapped
      cases mapped
      exact ⟨reply, sender, rfl, started, rfl⟩

theorem tended_connect {config : SenderConfig} {endpoint : String} {link link' : τ}
    {moves : List Move} (h : connect config endpoint link moves = (.ok s, link')) :
    Tended [] [] s := by
  obtain ⟨reply, sender, -, hs, rfl⟩ := connect_ok h
  have started : Sender.Started sender := .inl ⟨_, _, _, hs⟩
  have blank := started.blank
  refine ⟨⟨sender, [], started, rfl, rfl⟩, rfl, blank.orderly, ?_, fun _ => .inr blank.background⟩
  rw [show (new sender _ moves).sender = sender from rfl, blank.underway, blank.background]
  exact .refl _

theorem measure_turn_lt (h : Tended lines own s) (busy : own ≠ []) :
    s.turn.1.measure < s.measure := by
  obtain ⟨some_, alone⟩ := h.alone busy
  unfold turn
  split
  · rename_i elapsed moves hm
    -- The background task may begin a probe, which is paid for by the move that is gone.
    have le : (apply { s with moves } (.start (.tick elapsed))).1.sender.work ≤
        s.sender.work + 4 := by
      unfold apply
      split
      · exact Nat.le_add_right ..
      · rename_i step
        exact Sender.work_tick_le step
    simp only [measure, moves_apply, hm, List.length_cons]
    omega
  · rename_i moves hm
    obtain ⟨moves', le⟩ := work_proceedBackground { s with moves }
    simp only [measure, moves', hm, List.length_cons]
    have : (proceedBackground { s with moves }).1.sender.work ≤ s.sender.work := le
    omega
  · rename_i moves hm
    obtain ⟨moves', le, -⟩ := work_proceed { s with moves }
    simp only [measure, moves', hm, List.length_cons]
    have : (proceed { s with moves }).1.sender.work ≤ s.sender.work := le
    omega
  · rename_i hm
    obtain ⟨moves', -, lt⟩ := s.work_proceed
    have := lt some_ alone
    simp only [measure, moves', hm, List.length_nil]
    omega

theorem Tended.await {id : CallId} {job : Job} (h : Tended lines [(id, job)] s) {fuel : Nat}
    (enough : s.measure ≤ fuel) :
    (∃ a, (await id fuel s).1 = some a) ∧ Tended lines [] (await id fuel s).2 ∧
      (s.sender.closed = true → (await id fuel s).2.sender.closed = true) := by
  induction fuel generalizing s with
  | zero =>
    have := measure_turn_lt h (List.cons_ne_nil _ _)
    omega
  | succ fuel ih =>
    have less := measure_turn_lt h (List.cons_ne_nil _ _)
    have tended := h.stirs s.stirs_turn
    have closed := closed_stirs s.stirs_turn
    rw [unreturned_own] at tended
    unfold Session.await
    dsimp only
    split
    · rename_i a ha
      rw [ha, Option.isSome_some, if_pos rfl] at tended
      exact ⟨⟨a, rfl⟩, tended, closed⟩
    · rename_i ha
      rw [ha, Option.isSome_none, if_neg Bool.false_ne_true] at tended
      obtain ⟨answered, tended, closed'⟩ := ih tended (by omega)
      exact ⟨answered, tended, fun h => closed' (closed h)⟩

theorem Tended.settle (h : Tended lines [] s) (moves : List Move) :
    Tended lines [] (s.settle moves) ∧
      (s.sender.closed = true → (s.settle moves).sender.closed = true) := by
  induction moves generalizing s with
  | nil => exact ⟨⟨h.history, h.untaken, h.attended⟩, fun hc => hc⟩
  | cons move moves ih =>
    cases move with
    | tick elapsed =>
      have stirs := s.stirs_apply (e := .start (.tick elapsed)) rfl
      obtain ⟨tended, closed⟩ := ih (h.stirs stirs)
      exact ⟨tended, fun hc => closed (closed_stirs stirs hc)⟩
    | background =>
      have stirs := s.stirs_proceedBackground
      obtain ⟨tended, closed⟩ := ih (h.stirs stirs)
      exact ⟨tended, fun hc => closed (closed_stirs stirs hc)⟩
    | foreground => exact ⟨⟨h.history, h.untaken, h.attended⟩, fun hc => hc⟩

theorem Tended.call (h : Tended lines [] s) (op : Op) (hop : ∀ elapsed, op ≠ .tick elapsed) :
    (∃ a, (s.call op).1 = some a) ∧ Tended (lines ++ (Event.start op).lines) [] (s.call op).2 ∧
      (op = .close → (s.call op).2.sender.closed = true) := by
  obtain ⟨h₁, -⟩ := h.settle s.moves
  unfold Session.call
  dsimp only
  generalize s.settle s.moves = s₁ at h₁ ⊢
  obtain ⟨job, -, step, -, tended⟩ := h₁.start hop
  generalize s₁.apply (.start op) = r at step tended
  have closed : op = .close → r.1.sender.closed = true := by
    rintro rfl
    have := closed_start_close s₁.sender
    rwa [Sender.step_start step] at this
  split
  · rename_i a ha
    rw [ha, Option.isSome_some, if_pos rfl] at tended
    exact ⟨⟨a, rfl⟩, tended, closed⟩
  · rename_i ha
    rw [ha, Option.isSome_none, if_neg Bool.false_ne_true] at tended
    obtain ⟨answered, tended, closed'⟩ := tended.await tended.measure_le
    exact ⟨answered, tended, fun e => closed' (closed e)⟩

theorem Tended.send (h : Tended lines [] s) (line : String) :
    Tended (lines ++ [terminated line]) [] (s.send line).2 := by
  obtain ⟨-, tended, -⟩ := h.call (.send line) (by simp)
  unfold Session.send
  split <;> (rename_i e; rw [e] at tended; exact tended)

theorem Tended.drain (h : Tended lines [] s) : Tended lines [] s.drain := by
  have tended := (h.call .drain (by simp)).2.1
  rwa [show (Event.start .drain).lines = [] from rfl, List.append_nil] at tended

theorem Tended.close (h : Tended lines [] s) :
    Tended lines [] s.close ∧ s.close.sender.isIdle = true := by
  obtain ⟨-, tended, closed⟩ := h.call .close (by simp)
  rw [show (Event.start .close).lines = [] from rfl, List.append_nil] at tended
  exact ⟨tended, tended.attended.isIdle_of_closed (closed rfl)⟩

end Session

end MetricRelay
