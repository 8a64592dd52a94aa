import MetricRelay.Proofs.Sender.Books

namespace MetricRelay

namespace Phase

def inHand : Phase → List String
  | draining _ line _ => [line]
  | _ => []

/-- The lines written by the drain under way, which are counted when it is over. -/
def uncounted : Phase → Nat
  | draining _ _ written => written
  | _ => 0

end Phase

namespace Sender

open Effect

variable {text : CallId → String} {policy : OverflowPolicy} {past : List Effect}

def inHand (s : Sender) : List String :=
  match s.holder with
  | some (_, p) => p.inHand
  | none => []

def uncounted (s : Sender) : Nat :=
  match s.holder with
  | some (_, p) => p.uncounted
  | none => 0

def delivered (s : Sender) : Nat := s.stats.sent + s.stats.drained + s.uncounted

def Booked (text : CallId → String) (policy : OverflowPolicy) (past : List Effect) (s : Sender) :
    Prop :=
  Books text policy past s.inHand s.buffer s.delivered

theorem books_keep {s : Sender} {hand : List String} {n : Nat} {id : CallId} {line : String}
    (h : Books text policy past hand s.buffer n) (hid : text id = line) :
    Books text policy (past ++ ((s.keep line).2.2 ++ [.returned id (.outcome (s.keep line).1)]))
      hand (s.keep line).2.1.buffer n := by
  obtain ⟨b, k, lines, policy_eq, dropped, rejected⟩ |
    ⟨b, oldest, rest, k, drops, lines, lines', policy_eq, dropped, rejected⟩ |
    ⟨b, k, lines, policy_eq, dropped, rejected⟩ := s.keep_cases line
  · rw [k]
    exact h.buffer hid lines policy_eq dropped rejected
  · rw [k]
    exact h.displace hid drops lines lines' policy_eq dropped rejected
  · rw [k]
    exact h.turnAway hid lines policy_eq dropped rejected

theorem delivered_keep (s : Sender) (line : String) :
    (s.keep line).2.1.delivered = s.delivered := by
  obtain ⟨b, k, -⟩ | ⟨b, oldest, rest, k, -⟩ | ⟨b, k, -⟩ := s.keep_cases line
  all_goals
    rw [k]
    rfl

theorem booked_ask {s : Sender} {p : Phase}
    (h : Books text policy past [] s.buffer (s.stats.sent + s.stats.drained)) (id : CallId)
    (hp : ∀ errand line written, p ≠ .draining errand line written) :
    Booked text policy (past ++ (s.ask id p).2) (s.ask id p).1 := by
  cases p with
  | draining errand line written => exact absurd rfl (hp errand line written)
  | _ => exact h.asked id hp

theorem booked_finish {s : Sender} {a : Answer}
    (h : Books text policy past [] s.buffer (s.stats.sent + s.stats.drained)) (id : CallId)
    (ha : ∀ o, a ≠ .outcome o) : Booked text policy (past ++ (s.finish id a).2) (s.finish id a).1 :=
  h.returned id ha

theorem booked_keepAndFinish {s : Sender} {id : CallId} {line : String}
    (h : Books text policy past [] s.buffer (s.stats.sent + s.stats.drained))
    (hid : text id = line) :
    Booked text policy (past ++ (s.keepAndFinish id line).2) (s.keepAndFinish id line).1 := by
  have kept := books_keep h hid
  obtain ⟨b, k, -⟩ | ⟨b, oldest, rest, k, -⟩ | ⟨b, k, -⟩ := s.keep_cases line
  all_goals
    simp only [keepAndFinish, k] at kept ⊢
    exact kept

def Job.Told (text : CallId → String) (id : CallId) (job : Job) : Prop :=
  ∀ line, job = .run (.send line) → text id = line

theorem Job.Told.close (id : CallId) : Job.Told text id .close := fun _ e => nomatch e

theorem booked_endDrain {s : Sender} {id : CallId} {errand : Errand} {written : Nat}
    {interrupted : Bool}
    (h : Books text policy past [] s.buffer (s.stats.sent + s.stats.drained + written))
    (told : Job.Told text id (.run errand)) :
    Booked text policy (past ++ (s.endDrain id errand written interrupted).2)
      (s.endDrain id errand written interrupted).1 := by
  obtain ⟨buffer, -, sent, drained⟩ := s.countDrained_fields written interrupted
  have h' : Books text policy past [] (s.countDrained written interrupted).buffer
      ((s.countDrained written interrupted).stats.sent +
        (s.countDrained written interrupted).stats.drained) := by
    rw [buffer, sent, drained, ← Nat.add_assoc]
    exact h
  cases errand with
  | send line =>
    cases interrupted with
    | true => exact booked_keepAndFinish h' (told line rfl)
    | false => exact booked_ask h' id (by simp)
  | drain => exact booked_finish h' id (by simp)
  | probe => exact booked_finish h' id (by simp)

theorem booked_pump {s : Sender} {id : CallId} {errand : Errand} {written : Nat}
    (h : Books text policy past [] s.buffer (s.stats.sent + s.stats.drained + written))
    (told : Job.Told text id (.run errand)) :
    Booked text policy (past ++ (s.pump id errand written).2) (s.pump id errand written).1 := by
  unfold pump
  split
  · rename_i line b hb
    exact h.draw hb id errand written
  · exact booked_endDrain h told

theorem booked_enter {s : Sender} {id : CallId} {job : Job}
    (h : Books text policy past [] s.buffer (s.stats.sent + s.stats.drained))
    (told : Job.Told text id job) :
    Booked text policy (past ++ (s.enter id job).2) (s.enter id job).1 := by
  unfold enter
  split
  · split
    · exact booked_keepAndFinish h (told _ rfl)
    · split
      · exact booked_ask h id (by simp)
      · exact booked_pump h told
  · exact booked_pump h told
  · split
    · exact booked_finish h id (by simp)
    · dsimp only
      split <;> exact booked_ask h id (by simp)
  · exact booked_ask h id (by simp)

theorem booked_recover {s : Sender} {id : CallId}
    (h : Books text policy past [] s.buffer (s.stats.sent + s.stats.drained)) :
    Booked text policy (past ++ (s.recover id).2) (s.recover id).1 := by
  unfold recover
  dsimp only
  split
  · exact booked_finish h id (by simp)
  · exact booked_pump h fun _ e => nomatch e

theorem booked_succeed {s : Sender} {id : CallId} {p : Phase}
    (h : Books text policy past p.inHand s.buffer
      (s.stats.sent + s.stats.drained + p.uncounted))
    (told : Job.Told text id p.job) :
    Booked text policy (past ++ (s.succeed id p).2) (s.succeed id p).1 := by
  cases p with
  | draining errand line written =>
    have write : Books text policy (past ++ [.accepted line]) [] s.buffer
        (s.stats.sent + s.stats.drained + (written + 1)) := h.write
    have := booked_pump write told
    rwa [List.append_assoc] at this
  | writing line =>
    have h : Books text policy past [] s.buffer (s.stats.sent + s.stats.drained) := h
    have := h.writeThrough (told line rfl)
    rw [Nat.add_right_comm] at this
    exact this
  | checking => exact booked_recover h
  | connecting => exact booked_recover h
  | closing => exact booked_finish h id (by simp)

theorem booked_fail {s : Sender} {id : CallId} {p : Phase}
    (h : Books text policy past p.inHand s.buffer
      (s.stats.sent + s.stats.drained + p.uncounted))
    (told : Job.Told text id p.job) :
    Booked text policy (past ++ (s.fail id p).2) (s.fail id p).1 := by
  cases p with
  | draining errand line written =>
    let s' := countWriteFailure { s with buffer := (s.buffer.requeue line).2 }
    have requeue : Books text policy
        (past ++ .requeued line :: (s.buffer.requeue line).1.map .discarded) [] s'.markDown.buffer
        (s'.markDown.stats.sent + s'.markDown.stats.drained + written) := h.requeue
    have : Booked text policy _ (s'.markDown.endDrain id errand written true).1 :=
      booked_endDrain requeue told
    rwa [List.append_assoc] at this
  | writing line => exact booked_keepAndFinish (s := s.countWriteFailure.markDown) h (told line rfl)
  | checking => exact booked_ask (s := s.markDown) h id (by simp)
  | connecting => exact booked_finish (s := s.markDown) h id (by simp)
  | closing => exact booked_finish (s := s.markDown) h id (by simp)

theorem booked_arrive {s : Sender} {id : CallId} {job : Job} (h : Booked text policy past s)
    (told : Job.Told text id job) :
    Booked text policy (past ++ (s.arrive id job).2) (s.arrive id job).1 := by
  obtain ⟨holder, -, e⟩ | e := s.arrive_cases id job
  · rw [e]
    rw [Booked, inHand, delivered, uncounted, holder] at h
    exact booked_enter h told
  · rw [e, List.append_nil]
    exact h

theorem Booked.map_kept_perm {s : Sender} (h : Booked text policy past s) :
    ((kept past).map text).Perm
      (writes past ++ (s.inHand ++ s.buffer.toList) ++ (takes past ++ discards past)) := by
  refine ((Ledger.all_of policy past).symm.map text).trans (.of_eq ?_)
  simp only [Ledger.all, Ledger.order, List.map_append, h.written, h.in_hand, h.waiting, h.taken,
    h.dropped]

theorem Named.told {es : List Event} {s : Sender} {id : CallId} {job : Job}
    (named : Named text es s) (h : (id, job) ∈ s.underway) : Job.Told text id job := by
  rintro line rfl
  exact named (id, line) (List.mem_append_left _ (mem_sending.2 h))

theorem Named.told_incoming {e : Event} {es : List Event} {s : Sender} {id : CallId} {job : Job}
    (named : Named text (e :: es) s) (h : s.incoming e = [(id, job)]) : Job.Told text id job := by
  rintro line rfl
  refine named (id, line) (List.mem_append_right _ (List.mem_append_left _ ?_))
  rw [← sending_incoming, h]
  exact List.mem_singleton_self _

theorem booked_start {es : List Event} {s : Sender} {op : Op}
    (named : Named text (.start op :: es) s) (h : Booked text policy past s) :
    Booked text policy (past ++ (s.start op).2) (s.start op).1 := by
  cases s.opening_start op with
  | keeps line op_eq s₁ counted r_eq =>
    have hid : text s.nextId = terminated line :=
      named.told_incoming (by rw [op_eq]; rfl) (terminated line) rfl
    have h₁ : Booked text policy past s₁ := counted ▸ h
    have kept := books_keep h₁ hid
    rw [r_eq, Booked, delivered_keep, inHand, (s₁.undisturbed_keep _).holder]
    exact kept
  | answers job a awake incoming fits unkept r_eq =>
    rw [r_eq]
    exact Books.returned h s.nextId unkept
  | arrives job s₁ awake incoming tracker counted r_eq =>
    have h₁ : Booked text policy past s₁ := counted ▸ h
    rw [r_eq]
    exact booked_arrive h₁ (named.told_incoming incoming)
  | wakes elapsed op_eq incoming was_open s₁ counted r_eq =>
    have h₁ : Booked text policy past s₁ := counted ▸ h
    rw [r_eq]
    exact booked_arrive h₁ (named.told_incoming incoming)
  | sleeps elapsed op_eq incoming r_eq =>
    rw [r_eq, List.append_nil]
    exact h
  | closes op_eq was_open r_eq =>
    rw [r_eq, List.append_nil]
    exact h

theorem booked_step {e : Event} {es : List Event} {s s' : Sender} {fx : List Effect}
    (named : Named text (e :: es) s) (h : Booked text policy past s)
    (step : s.step e = some (s', fx)) : Booked text policy (past ++ fx) s' := by
  cases e with
  | start op =>
    have := booked_start named h
    rwa [step_start step] at this
  | reply r =>
    obtain ⟨id, p, holder, step⟩ := step_reply step
    have told : Job.Told text id p.job := named.told (by simp [underway, holder])
    rw [Booked, inHand, delivered, uncounted, holder] at h
    obtain ⟨-, step⟩ | ⟨-, step⟩ := step
    · have := booked_succeed (s := { s with connected := r.connected }) h told
      rwa [step] at this
    · have := booked_fail (s := { s with connected := r.connected }) h told
      rwa [step] at this
  | grant =>
    obtain ⟨id, job, queue, holder, hq, step⟩ := step_grant step
    have told : Job.Told text id job := named.told (by simp [underway, waiting, holder, hq])
    rw [Booked, inHand, delivered, uncounted, holder] at h
    have := booked_enter (s := { s with queue }) h told
    rwa [step] at this
  | retire =>
    obtain ⟨id, -, -, step⟩ := step_retire step
    have := booked_arrive (s := { s with retiring := none }) h (.close id)
    rwa [step] at this
  | take =>
    cases step
    exact Books.took h
  | markUp =>
    cases step
    exact Books.still h (fun _ => rfl) rfl rfl rfl rfl rfl
  | markDown =>
    cases step
    exact Books.still h (fun _ => rfl) rfl rfl rfl rfl rfl
  | hold =>
    cases step
    rw [List.append_nil]
    exact h
  | release =>
    obtain ⟨-, step⟩ := step_release step
    cases step
    rw [List.append_nil]
    exact h

theorem Blank.booked {s : Sender} (h : Blank s) : Booked text s.buffer.policy [] s := by
  rw [Booked, inHand, delivered, uncounted, h.holder, h.stats]
  exact .started ⟨h.buffer.1, h.buffer.2.1, h.buffer.2.2, rfl⟩

structure Sound (text : CallId → String) (policy : OverflowPolicy) (es : List Event)
    (past : List Effect) (s : Sender) : Prop where
  orderly : Orderly past s
  named : Named text es s
  booked : Booked text policy past s

theorem Blank.sound {s : Sender} (h : Blank s) (es : List Event) :
    Sound (Event.lineOf es) s.buffer.policy es [] s := ⟨h.orderly, h.named es, h.booked⟩

theorem Sound.step {e : Event} {es : List Event} {s s' : Sender} {fx : List Effect}
    (h : Sound text policy (e :: es) past s) (step : s.step e = some (s', fx)) :
    Sound text policy es (past ++ fx) s' :=
  ⟨orderly_step h.orderly step, named_step h.orderly h.named step,
    booked_step h.named h.booked step⟩

theorem Sound.run {es rest : List Event} {s s' : Sender} {fx : List Effect}
    (h : Sound text policy (es ++ rest) past s) (run : s.run es = some (s', fx)) :
    Sound text policy rest (past ++ fx) s' :=
  run_induction (P := fun es => Sound text policy (es ++ rest)) (fun h step => h.step step) h run

theorem Blank.sound_run {s s' : Sender} {es : List Event} {fx : List Effect} (h : Blank s)
    (run : s.run es = some (s', fx)) :
    Sound (Event.lineOf es) s.buffer.policy [] fx s' := by
  have sound := h.sound es
  rw [← List.append_nil es] at sound
  have := sound.run run
  rwa [List.append_nil] at this

/-- The lines of the calls to send that returned with their line written or in the buffer. -/
def keptLines (events : List Event) (effects : List Effect) : List String :=
  ((Event.sends 0 events).filter fun x => x.1 ∈ kept effects).map Prod.snd

theorem keptLines_perm_map {s s' : Sender} {events : List Event} {effects : List Effect}
    (h : Blank s) (run : s.run events = some (s', effects)) :
    (keptLines events effects).Perm ((kept effects).map (Event.lineOf events)) := by
  have calls : ((Event.sends 0 events).filter fun x => x.1 ∈ kept effects).map Prod.fst |>.Perm
      (kept effects) := by
    refine (List.perm_ext_iff_of_nodup ?_ ?_).2 fun id => ?_
    · exact (Event.nodup_sends 0 events).sublist (List.filter_sublist.map _)
    · exact (h.sound_run run).orderly.nodup.of_append_right.sublist (kept_sublist effects)
    · simp only [List.mem_map, List.mem_filter, decide_eq_true_eq]
      constructor
      · rintro ⟨x, ⟨-, hx⟩, rfl⟩
        exact hx
      · intro hid
        have came : id ∈ (Event.sends 0 events).map Prod.fst :=
          (h.sends_perm run).subset (List.mem_append_right _ (List.mem_append_left _ hid))
        obtain ⟨x, hx, rfl⟩ := List.mem_map.1 came
        exact ⟨x, ⟨hx, hid⟩, rfl⟩
  have lines : keptLines events effects =
      (((Event.sends 0 events).filter fun x => x.1 ∈ kept effects).map Prod.fst).map
        (Event.lineOf events) := by
    rw [List.map_map]
    exact List.map_congr_left fun x hx => (Event.lineOf_eq (List.mem_of_mem_filter hx)).symm
  rw [lines]
  exact calls.map _

theorem keptLines_perm {s s' : Sender} {events : List Event} {effects : List Effect}
    (h : Blank s) (run : s.run events = some (s', effects)) :
    (keptLines events effects).Perm
      (writes effects ++ (s'.inHand ++ s'.buffer.toList) ++ (takes effects ++ discards effects)) :=
  (keptLines_perm_map h run).trans (h.sound_run run).booked.map_kept_perm

theorem lines_perm {s s' : Sender} {events : List Event} {effects : List Effect}
    (h : Blank s) (run : s.run events = some (s', effects)) :
    (events.flatMap Event.lines).Perm ((sending s'.underway).map Prod.snd ++
      (writes effects ++ (s'.inHand ++ s'.buffer.toList) ++ (takes effects ++ discards effects)) ++
      refusals effects) := by
  have sound := h.sound_run run
  have came : events.flatMap Event.lines =
      ((Event.sends 0 events).map Prod.fst).map (Event.lineOf events) := by
    rw [← Event.map_snd_sends 0, List.map_map]
    exact List.map_congr_left fun x hx => (Event.lineOf_eq hx).symm
  have still : (sending s'.underway).map Prod.snd =
      ((sending s'.underway).map Prod.fst).map (Event.lineOf events) := by
    rw [List.map_map]
    exact List.map_congr_left fun x hx => (sound.named x (List.mem_append_left _ hx)).symm
  rw [came, still, ← sound.booked.turned]
  refine ((h.sends_perm run).map _).symm.trans ?_
  rw [List.map_append, List.map_append, List.append_assoc]
  exact (sound.booked.map_kept_perm.append_right _).append_left _

theorem holder_of_isIdle {s : Sender} (h : s.isIdle = true) : s.holder = none := by
  simp only [isIdle, Bool.and_eq_true, Option.isNone_iff_eq_none] at h
  exact h.1.1

theorem inHand_of_isIdle {s : Sender} (h : s.isIdle = true) : s.inHand = [] := by
  rw [inHand, holder_of_isIdle h]

theorem uncounted_of_isIdle {s : Sender} (h : s.isIdle = true) : s.uncounted = 0 := by
  rw [uncounted, holder_of_isIdle h]

/-- No line is lost and none is doubled: when no call is under way, the lines whose call returned as
sent or buffered are those that the transport took, those in the buffer, those handed out and those
that the buffer let go of, and the buffer has counted the latter. -/
theorem keptLines_perm_of_isIdle {s s' : Sender} {events : List Event} {effects : List Effect}
    (h : Started s) (run : s.run events = some (s', effects)) (idle : s'.isIdle = true) :
    (keptLines events effects).Perm
      (writes effects ++ s'.buffer.toList ++ takes effects ++ discards effects) ∧
      (discards effects).length = s'.buffer.metrics.dropped := by
  have booked := (h.blank.sound_run run).booked
  have perm := keptLines_perm h.blank run
  rw [inHand_of_isIdle idle, List.nil_append, ← List.append_assoc] at perm
  exact ⟨perm, booked.discarded⟩

theorem keptLines_perm_of_isIdle_interrupted :
    let events : List Event := [.start (.send "a"), .start (.send "b"), .start (.send "c"),
      .start (.tick 0), .reply ⟨none, true⟩, .reply ⟨none, true⟩, .reply ⟨some .closed, false⟩]
    ∃ s s' effects, Started s ∧ s.run events = some (s', effects) ∧ s'.isIdle = true ∧
      (writes effects, s'.buffer.toList, discards effects) = (["b\n"], ["c\n"], ["a\n"]) ∧
      (keptLines events effects).Perm
        (writes effects ++ s'.buffer.toList ++ takes effects ++ discards effects) := by
  intro events
  obtain ⟨s, built, seen⟩ : ∃ s, startDisconnected ⟨5000, 2, .dropOldest, 8⟩ true = .ok s ∧
      (s.run events).map (fun r => (r.1.isIdle, writes r.2, r.1.buffer.toList, discards r.2)) =
        some (true, ["b\n"], ["c\n"], ["a\n"]) := ⟨_, rfl, by decide +kernel⟩
  obtain ⟨⟨s', effects⟩, run, seen⟩ := Option.map_eq_some_iff.1 seen
  obtain ⟨idle, lines⟩ := Prod.mk.inj seen
  have started : Started s := .inr ⟨_, _, built⟩
  exact ⟨s, s', effects, started, run, idle, lines, (keptLines_perm_of_isIdle started run idle).1⟩

end Sender

end MetricRelay
