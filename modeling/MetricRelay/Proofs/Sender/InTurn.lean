import Mathlib.Data.List.Sort
import MetricRelay.Proofs.Sender.Advance
import MetricRelay.Proofs.Sender.Order

namespace MetricRelay

open Effect

theorem Event.pairwise_sends (next : CallId) (es : List Event) :
    ((sends next es).map Prod.fst).Pairwise (· ≤ ·) := by
  induction es generalizing next with
  | nil => exact .nil
  | cons e es ih =>
    rw [sends, List.map_append]
    obtain none_ | ⟨line, one, -⟩ := e.send_cases next
    · rw [none_]
      exact ih _
    · rw [one]
      refine List.pairwise_cons.2 ⟨fun id hid => ?_, ih _⟩
      obtain ⟨x, hx, rfl⟩ := List.mem_map.1 hid
      exact Nat.le_trans (Nat.le_add_right ..) (le_of_mem_sends hx)

theorem Event.send_of_isInner {e : Event} (h : e.isInner = true) (next : CallId) :
    e.send next = [] := by
  cases e with
  | start op =>
    cases op with
    | tick elapsed => rfl
    | _ => cases h
  | _ => rfl

namespace Sender

variable {text : CallId → String} {policy : OverflowPolicy} {past fx : List Effect}
  {s s' : Sender} {e : Event} {es : List Event}

def senders (s : Sender) (e : Event) : List CallId :=
  (e.send s.nextId).map Prod.fst ++ (sending s.underway).map Prod.fst

theorem ahead_of_lt {p bound : CallId} (order : ∀ id ∈ (Ledger.of policy past).order, id < bound)
    (writing : ∀ id line, s.holder = some (id, .writing line) → id < bound) :
    Ahead policy p bound past s where
  order := List.pairwise_of_forall_mem_list fun a ha _ _ le =>
    absurd (order a ha) (Nat.not_lt_of_le le)
  writing id line holder le := absurd (writing id line holder) (Nat.not_lt_of_le le)

/-- At most one call to send is under way, which came in after all those whose lines are kept. And
the lines that are kept are in the order of the calls. -/
structure Serial (policy : OverflowPolicy) (past : List Effect) (s : Sender) : Prop where
  ahead : ∀ p ∈ kept past, Ahead policy p (p + 1) past s
  last : ∀ id ∈ (sending s.underway).map Prod.fst, ∀ p ∈ kept past, p < id
  one : (sending s.underway).length ≤ 1

theorem Blank.serial (h : Blank s) : Serial policy [] s := by
  refine ⟨fun p hp => (nomatch hp), fun id _ p hp => (nomatch hp), ?_⟩
  rw [h.underway]
  exact Nat.zero_le _

theorem Serial.lt_of_mem_senders (h : Serial policy past s) (orderly : Orderly past s)
    {id p : CallId} (hid : id ∈ s.senders e) (hp : p ∈ kept past) : p < id := by
  rcases List.mem_append.1 hid with new | old
  · have lt := orderly.lt p (List.mem_append_right _ ((kept_sublist past).subset hp))
    obtain none_ | ⟨line, one, -⟩ := e.send_cases s.nextId
    · rw [none_] at new
      cases new
    · rw [one] at new
      rwa [List.mem_singleton.1 new]
  · exact h.last id old p hp

theorem Serial.step (h : Serial policy past s) (sound : Sound text policy (e :: es) past s)
    (one : (s.senders e).length ≤ 1) (step : s.step e = some (s', fx)) :
    Serial policy (past ++ fx) s' := by
  have perm : ((sending s'.underway).map Prod.fst ++ (kept fx ++ rejected fx)).Perm (s.senders e) :=
    sending_step sound.orderly step
  have count := perm.length_eq ▸ one
  have before {id p : CallId} (hid : id ∈ s.senders e) (hp : p ∈ kept past) : p < id :=
    h.lt_of_mem_senders sound.orderly hid hp
  have new {p : CallId} (hp : p ∈ kept fx) : p ∈ s.senders e :=
    perm.subset (List.mem_append_right _ (List.mem_append_left _ hp))
  have left {id : CallId} (hid : id ∈ (sending s'.underway).map Prod.fst) : id ∈ s.senders e :=
    perm.subset (List.mem_append_left _ hid)
  refine ⟨fun p hp => ?_, fun id hid p hp => ?_, ?_⟩
  · rw [kept_append] at hp
    rcases List.mem_append.1 hp with hp | hp
    · exact ahead_step (h.ahead p hp) sound hp step
    · -- the call that has just returned is the last one that came in
      have pos := List.length_pos_of_mem (new hp)
      obtain ⟨q, only⟩ := List.length_eq_one_iff.1 (Nat.le_antisymm one pos)
      have alone {id : CallId} (hid : id ∈ s.senders e) : id < p + 1 := by
        have here := new hp
        rw [only, List.mem_singleton] at hid here
        rw [hid, here]
        exact Nat.lt_succ_self q
      refine ahead_of_lt (fun id hid => ?_) fun id line holder => ?_
      · have kept_ : id ∈ kept (past ++ fx) :=
          (Ledger.all_of policy _).subset (List.mem_append_left _ hid)
        rw [kept_append] at kept_
        rcases List.mem_append.1 kept_ with old | hid
        · exact Nat.lt_succ_of_lt (before (new hp) old)
        · exact alone (new hid)
      · refine alone (left (List.mem_map.2 ⟨(id, line), mem_sending.2 ?_, rfl⟩))
        simp [underway, holder, Phase.job]
  · rw [kept_append] at hp
    rcases List.mem_append.1 hp with hp | hp
    · exact before (left hid) hp
    · have := List.length_pos_of_mem hid
      have := List.length_pos_of_mem hp
      simp only [List.length_append] at count
      omega
  · rw [List.length_append, List.length_map] at count
    omega

theorem Serial.sorted (h : Serial policy past s) :
    (Ledger.of policy past).order.Pairwise (· ≤ ·) := by
  refine List.pairwise_iff_forall_sublist.2 fun {a b} within => ?_
  have kept_ : b ∈ kept past :=
    (Ledger.all_of policy past).subset (List.mem_append_left _ (within.subset (by simp)))
  by_contra not_le
  exact List.pairwise_iff_forall_sublist.1 (h.ahead b kept_).order within (Nat.not_le.1 not_le) rfl

theorem Serial.sublist {s₀ : Sender} (h : Serial s₀.buffer.policy fx s) (blank : Blank s₀)
    (run : s₀.run es = some (s, fx)) :
    (writes fx ++ (s.inHand ++ s.buffer.toList)).Sublist (es.flatMap Event.lines) := by
  have sound := blank.sound_run run
  have nodup : (kept fx).Nodup := sound.orderly.nodup.of_append_right.sublist (kept_sublist fx)
  have all := Ledger.all_of s₀.buffer.policy fx
  have within : (Ledger.of s₀.buffer.policy fx).order ⊆ (Event.sends 0 es).map Prod.fst :=
    fun id hid => (blank.sends_perm run).subset
      (List.mem_append_right _ (List.mem_append_left _ (all.subset (List.mem_append_left _ hid))))
  have distinct := (all.nodup_iff.2 nodup).of_append_left
  have ids := List.sublist_of_subperm_of_pairwise (List.subperm_of_subset distinct within)
    (h.sorted) (Event.pairwise_sends 0 es)
  have texts : ((Event.sends 0 es).map Prod.fst).map (Event.lineOf es) = es.flatMap Event.lines := by
    rw [← Event.map_snd_sends 0, List.map_map]
    exact List.map_congr_left fun x hx => Event.lineOf_eq hx
  rw [← texts, ← sound.booked.written, ← sound.booked.in_hand, ← sound.booked.waiting,
    ← List.map_append, ← List.map_append]
  exact ids.map _

end Sender

namespace Session

variable {τ : Type} {lines : List String} {s s' : Session τ} {fx : List Effect}

def InTurn (lines : List String) (s : Session τ) : Prop :=
  ∃ s₀ es, Sender.Started s₀ ∧ s₀.run es = some (s.sender, s.effects) ∧
    es.flatMap Event.lines = lines ∧ Sender.Serial s₀.buffer.policy s.effects s.sender

theorem InTurn.sublist (h : InTurn lines s) :
    (writes s.effects ++ (s.sender.inHand ++ s.sender.buffer.toList)).Sublist lines := by
  obtain ⟨s₀, es, started, run, rfl, serial⟩ := h
  exact serial.sublist started.blank run

theorem InTurn.step {e : Event} (h : InTurn lines s)
    (step : s.sender.step e = some (s'.sender, fx)) (past : s'.past = fx.reverse ++ s.past)
    (one : (s.sender.senders e).length ≤ 1) : InTurn (lines ++ e.lines) s' := by
  obtain ⟨s₀, es, started, run, rfl, serial⟩ := h
  have sound := (started.blank.sound (es ++ [e])).run run
  rw [List.nil_append] at sound
  rw [InTurn, effects_eq past]
  refine ⟨s₀, es ++ [e], started, ?_, by simp, serial.step sound one step⟩
  exact Sender.run_append.2 ⟨s.sender, _, fx, run,
    Sender.run_cons.2 ⟨_, fx, [], step, rfl, (List.append_nil fx).symm⟩, rfl⟩

variable [Transport τ]

theorem InTurn.advance (h : InTurn lines s) (advance : Advance s s') : InTurn lines s' := by
  have one {e : Event} (inner : e.isInner = true) : (s.sender.senders e).length ≤ 1 := by
    obtain ⟨_, _, _, _, _, serial⟩ := h
    rw [Sender.senders, Event.send_of_isInner inner, List.map_nil, List.nil_append,
      List.length_map]
    exact serial.one
  cases advance with
  | still sender link past =>
    rw [InTurn, effects, sender, past]
    exact h
  | event e inner unasked fx step link past =>
    have := h.step step past (one inner)
    rwa [Event.lines_of_isInner inner, List.append_nil] at this
  | reply id p holder r served fx step past =>
    have := h.step step past (one rfl)
    rwa [Event.lines_of_isInner rfl, List.append_nil] at this

theorem InTurn.reaches (h : InTurn lines s) (reaches : Reaches s s') : InTurn lines s' := by
  induction reaches with
  | refl => exact h
  | tail _ last ih => exact ih.advance last

theorem InTurn.call (h : InTurn lines s) (tended : Tended lines [] s) (op : Op)
    (hop : ∀ elapsed, op ≠ .tick elapsed) :
    InTurn (lines ++ (Event.start op).lines) (s.call op).2 := by
  obtain ⟨before, after⟩ := s.reaches_call op
  have settled := h.reaches before
  obtain ⟨tended, -⟩ := tended.settle s.moves
  obtain ⟨job, -, step, past, -⟩ := tended.start hop
  refine (settled.step step past ?_).reaches after
  rw [Sender.senders, tended.attended.sending_eq, List.map_nil, List.append_nil, List.length_map]
  obtain none_ | ⟨line, one, -⟩ := (Event.start op).send_cases (s.settle s.moves).sender.nextId
  · rw [none_]
    exact Nat.zero_le _
  · rw [one]
    exact Nat.le_refl _

theorem InTurn.send (h : InTurn lines s) (tended : Tended lines [] s) (line : String) :
    InTurn (lines ++ [terminated line]) (s.send line).2 := by
  rw [send_snd]
  exact h.call tended (.send line) (by simp)

theorem InTurn.drain (h : InTurn lines s) (tended : Tended lines [] s) : InTurn lines s.drain := by
  have := h.call tended .drain (by simp)
  rwa [show (Event.start .drain).lines = [] from rfl, List.append_nil] at this

theorem InTurn.close (h : InTurn lines s) (tended : Tended lines [] s) : InTurn lines s.close := by
  have := h.call tended .close (by simp)
  rwa [show (Event.start .close).lines = [] from rfl, List.append_nil] at this

theorem inTurn_connect {config : SenderConfig} {endpoint : String} {link link' : τ}
    {moves : List Move} (h : connect config endpoint link moves = (.ok s, link')) :
    InTurn [] s := by
  obtain ⟨reply, sender, -, hs, rfl⟩ := connect_ok h
  have started : Sender.Started sender := .inl ⟨_, _, _, hs⟩
  exact ⟨sender, [], started, rfl, rfl, started.blank.serial⟩

end Session

end MetricRelay
