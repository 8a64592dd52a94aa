import MetricRelay.Proofs.Sender.Conservation

/-!
The order of calls is the order of delivery: a line that was kept before a call came in stays ahead
of the line of that call, on the wire and in the buffer.
-/
namespace MetricRelay

namespace Sender

open Effect

variable {text : CallId → String} {policy : OverflowPolicy} {past : List Effect}
  {s s' : Sender} {e : Event} {fx : List Effect}

inductive Course (s s' : Sender) (e : Event) (fx : List Effect) : Prop
  | writes (r : Reply) (id : CallId) (line : String) (event : e = .reply r)
      (holder : s.holder = some (id, .writing line))
      (effects : fx = [.accepted line, .returned id (.outcome .sent)]) (holder' : s'.holder = none)
  | turns (s₀ : Sender) (id : CallId) (job : Job) (turn : Turn s₀ id job (s', fx))
  | aside (holder : s'.holder = s.holder) (unsent : ∀ x ∈ returns fx, x.2 ≠ .outcome .sent)
    (unasked : ∀ id p, .asked id p ∉ fx)

theorem course_arrive {s₁ : Sender} {id : CallId} {job : Job} (h : s₁.arrive id job = (s', fx))
    (holder : s₁.holder = s.holder) : Course s s' e fx := by
  obtain ⟨-, -, eq⟩ | eq := s₁.arrive_cases id job
  · have turn := turn_enter s₁ id job
    rw [← eq, h] at turn
    exact .turns s₁ id job turn
  · cases eq.symm.trans h
    exact .aside holder (List.forall_mem_nil _) fun _ _ => List.not_mem_nil

theorem course_start {op : Op} (h : s.start op = (s', fx)) : Course s s' e fx := by
  cases s.opening_start op with
  | keeps line op_eq s₁ counted r_eq =>
    cases r_eq.symm.trans h
    refine .aside ?_ ?_ ?_
    · rw [(s₁.undisturbed_keep _).holder, counted]
    · rw [returns_append, returns_keep]
      simpa [returns] using s₁.keep_ne_sent (terminated line)
    · simpa using s₁.asked_notMem_keep (terminated line)
  | answers job a awake incoming fits unkept r_eq =>
    cases r_eq.symm.trans h
    exact .aside rfl (by simpa [returns] using unkept .sent) (by simp)
  | arrives job s₁ awake incoming tracker counted r_eq =>
    exact course_arrive (r_eq.symm.trans h) (by rw [counted])
  | wakes elapsed op_eq incoming was_open s₁ counted r_eq =>
    exact course_arrive (r_eq.symm.trans h) (by rw [counted])
  | sleeps elapsed op_eq incoming r_eq =>
    cases r_eq.symm.trans h
    exact .aside rfl (List.forall_mem_nil _) fun _ _ => List.not_mem_nil
  | closes op_eq was_open r_eq =>
    cases r_eq.symm.trans h
    exact .aside rfl (List.forall_mem_nil _) fun _ _ => List.not_mem_nil

theorem course_step (h : s.step e = some (s', fx)) : Course s s' e fx := by
  cases e with
  | start op => exact course_start (step_start h)
  | reply r =>
    obtain ⟨id, p, holder, ⟨line, rfl, -, holder', -, rfl⟩ | turn⟩ := reply_cases h
    · exact .writes r id line rfl holder rfl holder'
    · exact .turns _ id p.job turn
  | grant =>
    obtain ⟨id, job, queue, -, -, h⟩ := step_grant h
    have turn := turn_enter { s with queue } id job
    rw [h] at turn
    exact .turns _ id job turn
  | retire =>
    obtain ⟨id, -, -, h⟩ := step_retire h
    exact course_arrive h rfl
  | take => cases h; exact .aside rfl (by simp [returns]) (by simp)
  | markUp => cases h; exact .aside rfl (by simp [returns]) (by simp)
  | markDown => cases h; exact .aside rfl (by simp [returns]) (by simp)
  | hold => cases h; exact .aside rfl (by simp [returns]) (by simp)
  | release =>
    obtain ⟨-, h⟩ := step_release h
    cases h
    exact .aside rfl (by simp [returns]) (by simp)

theorem order_foldl {g : Ledger} (h : ∀ x ∈ returns fx, x.2 ≠ .outcome .sent) :
    (fx.foldl (Ledger.note policy) g).order.Sublist (g.order ++ kept fx) := by
  induction fx generalizing g with
  | nil => exact List.sublist_append_left ..
  | cons e fx ih =>
    have unsent : ∀ id, e ≠ .returned id (.outcome .sent) := by
      rintro id rfl
      exact h (id, .outcome .sent) (List.mem_cons_self ..) rfl
    have rest : ∀ x ∈ returns fx, x.2 ≠ .outcome .sent := fun x hx =>
      h x (by rw [← List.singleton_append, returns_append]; exact List.mem_append_right _ hx)
    rw [← List.singleton_append, kept_append, ← List.append_assoc]
    exact (ih rest).trans ((Ledger.order_note policy g unsent).append_right _)

theorem mem_standing_foldl {g : Ledger} {id : CallId}
    (h : id ∈ (fx.foldl (Ledger.note policy) g).hand ++ (fx.foldl (Ledger.note policy) g).waiting) :
    id ∈ g.hand ++ g.waiting ∨ id ∈ kept fx := by
  induction fx generalizing g with
  | nil => exact .inl h
  | cons e fx ih =>
    rw [← List.singleton_append, kept_append]
    rcases ih h with h | h
    · rcases Ledger.mem_standing_note h with h | h
      · exact .inl h
      · exact .inr (List.mem_append_left _ h)
    · exact .inr (List.mem_append_right _ h)

theorem order_writeThrough {g : Ledger} {p bound id : CallId} {line : String} (hand : g.hand = [])
    (before : g.order.Pairwise fun a b => bound ≤ a → b ≠ p)
    (standing : bound ≤ id → p ∉ g.hand ++ g.waiting) (other : id ≠ p) :
    ([.accepted line, .returned id (.outcome .sent)].foldl (Ledger.note policy)
      g).order.Pairwise fun a b => bound ≤ a → b ≠ p := by
  simp only [Ledger.order, hand, List.nil_append, List.pairwise_append] at before standing
  simp only [List.foldl, Ledger.note, Ledger.order, hand, List.append_nil, List.nil_append,
    List.append_assoc, List.singleton_append]
  refine List.pairwise_append.2 ⟨before.1, ?_, ?_⟩
  · exact List.pairwise_cons.2 ⟨fun b hb le e => standing le (e ▸ hb), before.2.1⟩
  · intro x hx y hy le e
    rcases List.mem_cons.1 hy with rfl | hy
    · exact other e
    · exact before.2.2 x hx y hy le e

/-- The line of `p` is ahead of the lines of all calls numbered from `bound` on. -/
structure Ahead (policy : OverflowPolicy) (p bound : CallId) (past : List Effect) (s : Sender) :
    Prop where
  order : (Ledger.of policy past).order.Pairwise fun a b => bound ≤ a → b ≠ p
  /-- A call that is about to be written has nothing of `p` to wait for. -/
  writing : ∀ id line, s.holder = some (id, .writing line) → bound ≤ id →
    p ∉ (Ledger.of policy past).hand ++ (Ledger.of policy past).waiting

theorem ahead_step {p bound : CallId} {es : List Event} (a : Ahead policy p bound past s)
    (h : Sound text policy (e :: es) past s) (hp : p ∈ kept past)
    (step : s.step e = some (s', fx)) : Ahead policy p bound (past ++ fx) s' := by
  -- a call returns once, so what joins the order now is not `p`
  have fresh : p ∉ kept fx := h.orderly.notMem_kept step hp
  have booked' := (h.step step).booked
  have order (unsent : ∀ x ∈ returns fx, x.2 ≠ .outcome .sent) :
      (Ledger.of policy (past ++ fx)).order.Pairwise fun a b => bound ≤ a → b ≠ p := by
    rw [Ledger.of_append]
    refine List.Pairwise.sublist (order_foldl unsent) (List.pairwise_append.2 ⟨a.order, ?_, ?_⟩)
    · exact List.pairwise_of_forall_mem_list fun x hx y hy _ e => fresh (e ▸ hy)
    · exact fun x hx y hy _ e => fresh (e ▸ hy)
  cases course_step step with
  | writes r id line event holder effects holder' =>
    subst effects
    have hand : (Ledger.of policy past).hand = [] := by
      have := h.booked.in_hand
      rw [inHand, holder] at this
      exact List.map_eq_nil_iff.1 this
    have other : id ≠ p := by
      rintro rfl
      refine List.disjoint_of_nodup_append h.orderly.nodup ?_ ((kept_sublist past).subset hp)
      simp [underway, holder]
    refine ⟨?_, fun _ _ h => by rw [holder'] at h; cases h⟩
    rw [Ledger.of_append]
    -- `p` is not among the lines that `id` comes to stand before
    exact order_writeThrough hand a.order (a.writing id line holder) other
  | turns s₀ id job turn =>
    cases turn.fate with
    | asks q holder job_eq returns_eq background emptied =>
      refine ⟨order (by simp [returns_eq]), fun id line h le hm => ?_⟩
      have waiting := booked'.waiting
      have hand := booked'.in_hand
      obtain ⟨-, rfl⟩ := Prod.mk.inj (Option.some.inj (holder.symm.trans h))
      -- a call may write its own line only when the buffer has been drained
      rw [emptied line rfl] at waiting
      rw [inHand, h] at hand
      rw [List.map_eq_nil_iff.1 waiting, List.map_eq_nil_iff.1 hand] at hm
      cases hm
    | ends answer holder fits returns_eq background unsent =>
      refine ⟨order (by simp [returns_eq, unsent]), fun id line h => ?_⟩
      rw [holder] at h
      cases h
  | aside holder unsent =>
    refine ⟨order unsent, fun id line h le hm => ?_⟩
    rw [Ledger.of_append] at hm
    rcases mem_standing_foldl hm with hm | hm
    · exact a.writing id line (holder ▸ h) le hm
    · exact fresh hm

theorem Sound.ahead {es : List Event} (h : Sound text policy es past s) (p : CallId) :
    Ahead policy p s.nextId past s := by
  have lt : ∀ id ∈ (Ledger.of policy past).order, id < s.nextId := fun id hid => by
    refine h.orderly.lt id (List.mem_append_right _ ((kept_sublist past).subset ?_))
    exact (Ledger.all_of policy past).subset (List.mem_append_left _ hid)
  refine ⟨List.pairwise_of_forall_mem_list fun a ha _ _ le => ?_, fun id line holder le => ?_⟩
  · exact absurd (lt a ha) (Nat.not_lt_of_le le)
  · have := h.orderly.lt id (List.mem_append_left _ (by simp [underway, holder]))
    exact absurd this (Nat.not_lt_of_le le)

theorem ahead_run {p bound : CallId} {es rest : List Event} (a : Ahead policy p bound past s)
    (h : Sound text policy (es ++ rest) past s) (hp : p ∈ kept past)
    (run : s.run es = some (s', fx)) : Ahead policy p bound (past ++ fx) s' := by
  have start := And.intro a (And.intro h hp)
  refine (run_induction (P := fun es past s => Ahead policy p bound past s ∧
    Sound text policy (es ++ rest) past s ∧ p ∈ kept past) ?_ start run).1
  rintro e es past s s' fx ⟨a, h, hp⟩ step
  refine ⟨ahead_step a h hp step, h.step step, ?_⟩
  rw [kept_append]
  exact List.mem_append_left _ hp

theorem sublist_of_pairwise {p q bound : CallId} {l : List CallId}
    (h : l.Pairwise fun a b => bound ≤ a → b ≠ p) (hp : p ∈ l) (hq : q ∈ l) (lt : p < bound)
    (le : bound ≤ q) : [p, q].Sublist l := by
  obtain ⟨l₁, l₂, rfl⟩ := List.append_of_mem hp
  have behind : q ∈ l₂ := by
    rcases List.mem_append.1 hq with hq | hq
    · exact absurd rfl ((List.pairwise_append.1 h).2.2 q hq p (List.mem_cons_self ..) le)
    · exact (List.mem_cons.1 hq).resolve_left (Nat.ne_of_gt (Nat.lt_of_lt_of_le lt le))
  exact (List.cons_sublist_cons.2 (List.singleton_sublist.2 behind)).trans
    (List.sublist_append_right ..)

/-- The line of a call that has returned comes before the line of each call that comes in later, on
the wire and in the buffer behind it. -/
theorem order_of_calls {s₀ s₁ s₂ : Sender} {es₁ es₂ : List Event} {fx₁ fx₂ : List Effect}
    (started : Started s₀) (run₁ : s₀.run es₁ = some (s₁, fx₁))
    (run₂ : s₁.run es₂ = some (s₂, fx₂)) {p q : CallId} (hp : p ∈ kept fx₁)
    (hq : q ∈ (Event.sends s₁.nextId es₂).map Prod.fst) :
    let text := Event.lineOf (es₁ ++ es₂)
    let g := Ledger.of s₀.buffer.policy (fx₁ ++ fx₂)
    g.written.map text = writes (fx₁ ++ fx₂) ∧ g.waiting.map text = s₂.buffer.toList ∧
      g.all.Perm (kept (fx₁ ++ fx₂)) ∧ g.all.Nodup ∧
      (p ∈ g.written ++ g.waiting → q ∈ g.written ++ g.waiting →
        [p, q].Sublist (g.written ++ g.waiting)) ∧
      (q ∈ g.written → p ∉ g.hand ++ g.waiting) := by
  intro text g
  have sound₁ := (started.blank.sound (es₁ ++ es₂)).run run₁
  rw [List.nil_append] at sound₁
  have whole : Sound text s₀.buffer.policy (es₂ ++ []) fx₁ s₁ := by
    rw [List.append_nil]
    exact sound₁
  have sound₂ := whole.run run₂
  have ahead := ahead_run (sound₁.ahead p) whole hp run₂
  have lt : p < s₁.nextId :=
    sound₁.orderly.lt p (List.mem_append_right _ ((kept_sublist fx₁).subset hp))
  have le : s₁.nextId ≤ q := by
    obtain ⟨x, hx, rfl⟩ := List.mem_map.1 hq
    exact Event.le_of_mem_sends hx
  have all : g.all.Perm (kept (fx₁ ++ fx₂)) := Ledger.all_of ..
  refine ⟨sound₂.booked.written, sound₂.booked.waiting, all, ?_, fun hp hq => ?_, fun hq hp => ?_⟩
  · exact all.nodup_iff.2 (sound₂.orderly.nodup.of_append_right.sublist (kept_sublist _))
  · refine sublist_of_pairwise (ahead.order.sublist ?_) hp hq lt le
    exact (List.sublist_append_right ..).append_left _
  · exact absurd rfl ((List.pairwise_append.1 ahead.order).2.2 q hq p hp le)

theorem order_of_calls_saturated :
    let es₁ : List Event := [.hold, .start (.send "p")]
    let es₂ : List Event :=
      [.release, .start (.send "q"), .reply ⟨none, true⟩, .reply ⟨none, true⟩]
    ∃ s₀ s₁ s₂ fx₁ fx₂, Started s₀ ∧ s₀.run es₁ = some (s₁, fx₁) ∧
      s₁.run es₂ = some (s₂, fx₂) ∧ 0 ∈ kept fx₁ ∧
      1 ∈ (Event.sends s₁.nextId es₂).map Prod.fst ∧ writes (fx₁ ++ fx₂) = ["p\n", "q\n"] ∧
      [0, 1].Sublist ((Ledger.of s₀.buffer.policy (fx₁ ++ fx₂)).written ++
        (Ledger.of s₀.buffer.policy (fx₁ ++ fx₂)).waiting) := by
  intro es₁ es₂
  obtain ⟨s₀, built, seen⟩ : ∃ s₀,
      startConnected ⟨5000, 2, .dropOldest, 1⟩ "e" ⟨none, true⟩ = .ok s₀ ∧
      ((s₀.run es₁).bind fun r₁ => (r₁.1.run es₂).map fun r₂ =>
        (decide (0 ∈ kept r₁.2), (Event.sends r₁.1.nextId es₂).map Prod.fst,
          writes (r₁.2 ++ r₂.2), (Ledger.of s₀.buffer.policy (r₁.2 ++ r₂.2)).written)) =
        some (true, [1], ["p\n", "q\n"], [0, 1]) := ⟨_, rfl, by decide +kernel⟩
  obtain ⟨⟨s₁, fx₁⟩, run₁, seen⟩ := Option.bind_eq_some_iff.1 seen
  obtain ⟨⟨s₂, fx₂⟩, run₂, seen⟩ := Option.map_eq_some_iff.1 seen
  simp only [Prod.mk.injEq, decide_eq_true_eq] at seen
  obtain ⟨hp, sends, lines, written⟩ := seen
  have hq : 1 ∈ (Event.sends s₁.nextId es₂).map Prod.fst := by simp [sends]
  have started : Started s₀ := .inl ⟨_, _, _, built⟩
  obtain ⟨-, -, -, -, order, -⟩ := order_of_calls started run₁ run₂ hp hq
  rw [written] at order
  refine ⟨s₀, s₁, s₂, fx₁, fx₂, started, run₁, run₂, hp, hq, lines, ?_⟩
  rw [written]
  exact order (by simp) (by simp)

end Sender

end MetricRelay
