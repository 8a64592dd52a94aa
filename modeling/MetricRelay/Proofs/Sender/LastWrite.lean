import MetricRelay.Proofs.Sender.Order

namespace MetricRelay

/-- How many lines were written by the calls that brought them, and whether there is a time of the
last write. -/
def Stats.direct (t : Stats) : Nat × Bool := (t.sent, t.wrote)

namespace Sender

open Effect

variable {s s' : Sender} {past fx : List Effect} {e : Event}

theorem direct_keep (s : Sender) (line : String) :
    (s.keep line).2.1.stats.direct = s.stats.direct := by
  obtain ⟨b, k, -⟩ | ⟨b, oldest, rest, k, -⟩ | ⟨b, k, -⟩ := s.keep_cases line
  all_goals
    rw [k]
    rfl

theorem direct_keepAndFinish (s : Sender) (id : CallId) (line : String) :
    (s.keepAndFinish id line).1.stats.direct = s.stats.direct := s.direct_keep line

theorem direct_countDrained (s : Sender) (written : Nat) (interrupted : Bool) :
    (s.countDrained written interrupted).stats.direct = s.stats.direct := by
  unfold countDrained
  dsimp only
  split <;> rfl

theorem direct_endDrain (s : Sender) (id : CallId) (errand : Errand) (written : Nat)
    (interrupted : Bool) :
    (s.endDrain id errand written interrupted).1.stats.direct = s.stats.direct := by
  have counted := s.direct_countDrained written interrupted
  cases errand with
  | send line =>
    cases interrupted with
    | true => exact (direct_keepAndFinish ..).trans counted
    | false => exact counted
  | drain => exact counted
  | probe => exact counted

theorem direct_pump (s : Sender) (id : CallId) (errand : Errand) (written : Nat) :
    (s.pump id errand written).1.stats.direct = s.stats.direct := by
  unfold pump
  split
  · rfl
  · exact direct_endDrain ..

theorem direct_enter (s : Sender) (id : CallId) (job : Job) :
    (s.enter id job).1.stats.direct = s.stats.direct := by
  unfold enter
  split
  · split
    · exact direct_keepAndFinish ..
    · split
      · rfl
      · exact direct_pump ..
  · exact direct_pump ..
  · split <;> rfl
  · rfl

theorem direct_arrive (s : Sender) (id : CallId) (job : Job) :
    (s.arrive id job).1.stats.direct = s.stats.direct := by
  obtain ⟨-, -, eq⟩ | eq := s.arrive_cases id job
  · rw [eq]
    exact direct_enter ..
  · rw [eq]

theorem direct_start (s : Sender) (op : Op) : (s.start op).1.stats.direct = s.stats.direct := by
  cases s.opening_start op with
  | keeps line op_eq s₁ counted r_eq =>
    rw [r_eq, counted]
    exact direct_keep ..
  | answers job a awake incoming fits unkept r_eq => rw [r_eq]
  | arrives job s₁ awake incoming tracker counted r_eq =>
    rw [r_eq, counted]
    exact direct_arrive ..
  | sleeps elapsed op_eq incoming r_eq => rw [r_eq]
  | wakes elapsed op_eq incoming was_open s₁ counted r_eq =>
    rw [r_eq, counted]
    exact direct_arrive ..
  | closes op_eq was_open r_eq => rw [r_eq]

theorem direct_recover (s : Sender) (id : CallId) :
    (s.recover id).1.stats.direct = s.stats.direct := by
  unfold recover
  dsimp only
  split
  · rfl
  · exact direct_pump ..

theorem direct_succeed (s : Sender) (id : CallId) (p : Phase) (h : ∀ line, p ≠ .writing line) :
    (s.succeed id p).1.stats.direct = s.stats.direct := by
  cases p with
  | draining errand line written => exact s.direct_pump id errand (written + 1)
  | writing line => exact absurd rfl (h line)
  | checking => exact direct_recover ..
  | connecting => exact direct_recover ..
  | closing => rfl

theorem direct_fail (s : Sender) (id : CallId) (p : Phase) :
    (s.fail id p).1.stats.direct = s.stats.direct := by
  cases p with
  | draining errand line written => exact direct_endDrain _ id errand written true
  | writing line => exact s.countWriteFailure.markDown.direct_keepAndFinish id line
  | _ => rfl

theorem unsent_step (step : s.step e = some (s', fx)) (h : ∀ r, e ≠ .reply r) :
    ∀ x ∈ returns fx, x.2 ≠ .outcome .sent := by
  cases course_step step with
  | writes r id line event holder effects holder' => exact absurd event (h r)
  | turns s₀ id job turn => exact turn.unsent
  | aside holder unsent => exact unsent

structure Dated (past : List Effect) (s : Sender) : Prop where
  sent_eq : s.stats.sent = (returns past).countP fun x => x.2 = .outcome .sent
  wrote_iff : s.stats.wrote = true ↔ 0 < s.stats.sent

theorem Started.dated (h : Started s) : Dated [] s := by
  constructor <;> rw [h.blank.stats] <;> decide

theorem Dated.still (h : Dated past s) (direct : s'.stats.direct = s.stats.direct)
    (unsent : ∀ x ∈ returns fx, x.2 ≠ .outcome .sent) : Dated (past ++ fx) s' := by
  obtain ⟨sent, wrote⟩ := Prod.mk.inj direct
  have none_ : (returns fx).countP (fun x => x.2 = .outcome .sent) = 0 :=
    List.countP_eq_zero.2 fun x mem => by simpa using unsent x mem
  constructor
  · rw [sent, h.sent_eq, returns_append, List.countP_append, none_, Nat.add_zero]
  · rw [sent, wrote, h.wrote_iff]

theorem Dated.step (h : Dated past s) (step : s.step e = some (s', fx)) :
    Dated (past ++ fx) s' := by
  cases e with
  | start op =>
    refine h.still ?_ (unsent_step step nofun)
    have := s.direct_start op
    rwa [step_start step] at this
  | reply r =>
    obtain ⟨id, p, holder, ⟨-, eq⟩ | ⟨-, eq⟩⟩ := step_reply step
    -- Of all requests that can be met only the one to write the call's own line counts.
    · by_cases own : ∃ line, p = .writing line
      · obtain ⟨line, rfl⟩ := own
        cases eq
        constructor
        · rw [returns_append, List.countP_append, ← h.sent_eq]
          rfl
        · exact iff_of_true rfl (Nat.succ_pos _)
      · have other : ∀ line, p ≠ .writing line := fun line eq => own ⟨line, eq⟩
        have direct := direct_succeed { s with connected := r.connected } id p other
        have turn := turn_succeed { s with connected := r.connected } id p other
        rw [eq] at direct turn
        exact h.still direct turn.unsent
    · have direct := direct_fail { s with connected := r.connected } id p
      have turn := turn_fail { s with connected := r.connected } id p
      rw [eq] at direct turn
      exact h.still direct turn.unsent
  | grant =>
    refine h.still ?_ (unsent_step step nofun)
    obtain ⟨id, job, queue, -, -, eq⟩ := step_grant step
    have := direct_enter { s with queue } id job
    rwa [eq] at this
  | retire =>
    refine h.still ?_ (unsent_step step nofun)
    obtain ⟨id, -, -, eq⟩ := step_retire step
    have := direct_arrive { s with retiring := none } id .close
    rwa [eq] at this
  | release =>
    refine h.still ?_ (unsent_step step nofun)
    obtain ⟨-, eq⟩ := step_release step
    cases eq
    rfl
  | _ =>
    refine h.still ?_ (unsent_step step nofun)
    cases step
    rfl

theorem Started.dated_run {events : List Event} {effects : List Effect} (h : Started s)
    (run : s.run events = some (s', effects)) : Dated effects s' :=
  run_induction_nil (P := fun _ => Dated) (fun h step => h.step step) h.dated run

/-- There is a time of the last write exactly if a call to send has written its own line. Then the
transport has taken a line. When no call is under way, the time tells whether it has taken one
exactly unless it has taken lines from the buffer alone. -/
theorem wrote_of_run {events : List Event} {effects : List Effect} (h : Started s)
    (run : s.run events = some (s', effects)) :
    (s'.stats.wrote = true ↔ ∃ id, (id, .outcome .sent) ∈ returns effects) ∧
      (s'.stats.wrote = true → writes effects ≠ []) ∧
      (s'.isIdle = true → ((s'.stats.wrote = true ↔ writes effects ≠ []) ↔
        ¬(s'.stats.sent = 0 ∧ 0 < s'.stats.drained))) := by
  have dated := h.dated_run run
  have delivered := (h.blank.sound_run run).booked.delivered_eq
  rw [Sender.delivered] at delivered
  rw [dated.wrote_iff, ← List.length_pos_iff, delivered]
  refine ⟨?_, fun sent => by omega, fun idle => ?_⟩
  · rw [dated.sent_eq, List.countP_pos_iff]
    simp
  · rw [uncounted_of_isIdle idle]
    omega

theorem wrote_of_run_drained :
    let events : List Event :=
      [.start (.send "a"), .start (.tick 0), .reply ⟨none, true⟩, .reply ⟨none, true⟩]
    ∃ s s' effects, Started s ∧ s.run events = some (s', effects) ∧ s'.isIdle = true ∧
      writes effects = ["a\n"] ∧ s'.stats.drained = 1 ∧ s'.stats.wrote = false ∧
      ¬∃ id, (id, .outcome .sent) ∈ returns effects := by
  intro events
  obtain ⟨s, built, seen⟩ : ∃ s, startDisconnected ⟨5000, 2, .dropOldest, 8⟩ true = .ok s ∧
      (s.run events).map (fun r =>
        (r.1.isIdle, writes r.2, r.1.stats.drained, r.1.stats.wrote)) =
        some (true, ["a\n"], 1, false) := ⟨_, rfl, by decide +kernel⟩
  obtain ⟨⟨s', effects⟩, run, seen⟩ := Option.map_eq_some_iff.1 seen
  simp only [Prod.mk.injEq] at seen
  obtain ⟨idle, lines, drained, untimed⟩ := seen
  have started : Started s := .inr ⟨_, _, built⟩
  obtain ⟨wrote_iff, -, -⟩ := wrote_of_run started run
  refine ⟨s, s', effects, started, run, idle, lines, drained, untimed, fun sent => ?_⟩
  exact absurd (wrote_iff.2 sent) (by simp [untimed])

theorem not_wrote_iff_of_isIdle :
    ¬∀ (events : List Event) (s s' : Sender) (effects : List Effect), Started s →
      s.run events = some (s', effects) → s'.isIdle = true →
      (s'.stats.wrote = true ↔ writes effects ≠ []) := by
  intro claim
  let events : List Event :=
    [.start (.send "a"), .start (.tick 0), .reply ⟨none, true⟩, .reply ⟨none, true⟩]
  obtain ⟨s, built, seen⟩ : ∃ s, startDisconnected ⟨5000, 2, .dropOldest, 8⟩ true = .ok s ∧
      (s.run events).map (fun r =>
        (r.1.isIdle, decide (r.1.stats.wrote = true ↔ writes r.2 ≠ []))) = some (true, false) :=
    ⟨_, rfl, by decide +kernel⟩
  obtain ⟨⟨s', effects⟩, run, seen⟩ := Option.map_eq_some_iff.1 seen
  obtain ⟨idle, differ⟩ := Prod.mk.inj seen
  exact of_decide_eq_false differ (claim events s s' effects (.inr ⟨_, _, built⟩) run idle)

end Sender

end MetricRelay
