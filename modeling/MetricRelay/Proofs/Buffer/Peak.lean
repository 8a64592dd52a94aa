import MetricRelay.Proofs.Buffer.Refinement

namespace MetricRelay

namespace Buffer

def Gain.isIntake : Gain → Bool
  | pushed .queued => true
  | pushed (.queuedAfterDrop _) => true
  | _ => false

def Gain.isReturn : Gain → Bool
  | requeued _ => true
  | _ => false

def mark (p : Gain → Bool) (b : Buffer) : List Act → Nat
  | [] => 0
  | a :: as => max (if p (b.act a).1 then (b.act a).2.size else 0) ((b.act a).2.mark p as)

/-- The most lines that the buffer holds after any of the acts. -/
def highWater (b : Buffer) (as : List Act) : Nat := b.mark (fun _ => true) as

variable {b : Buffer} {n : Nat}

theorem highWater_cons (b : Buffer) (a : Act) (as : List Act) :
    b.highWater (a :: as) = max (b.act a).2.size ((b.act a).2.highWater as) := rfl

theorem size_acts_le (b : Buffer) (as : List Act) :
    (b.acts as).2.size ≤ max b.size (b.highWater as) := by
  induction as generalizing b with
  | nil => exact Nat.le_max_left ..
  | cons a as ih =>
    rw [highWater_cons]
    exact Nat.le_trans (ih (b.act a).2) (Nat.le_max_right ..)

theorem highWater_le (bounded : Bounded b) (as : List Act) : b.highWater as ≤ b.capacity := by
  induction as generalizing b with
  | nil => exact Nat.zero_le _
  | cons a as ih =>
    have rest := ih (bounded.act a)
    rw [capacity_act bounded a] at rest
    exact Nat.max_le.2 ⟨capacity_act bounded a ▸ (bounded.act a).le, rest⟩

theorem peak_act (bounded : Bounded b) (a : Act) :
    (b.act a).2.peak = max b.peak (if (b.act a).1.isIntake then (b.act a).2.size else 0) := by
  have acting := bounded.acting a
  generalize b.act a = r at acting ⊢
  cases acting with
  | queues | displaces => rfl
  | _ => exact (Nat.max_zero _).symm

theorem peak_acts (bounded : Bounded b) (as : List Act) :
    (b.acts as).2.peak = max b.peak (b.mark Gain.isIntake as) := by
  induction as generalizing b with
  | nil => exact (Nat.max_zero _).symm
  | cons a as ih =>
    rw [Buffer.acts, ih (bounded.act a), peak_act bounded a, Nat.max_assoc]
    rfl

theorem size_act_le (bounded : Bounded b) (a : Act) (intake : (b.act a).1.isIntake = false)
    (return_ : (b.act a).1.isReturn = false) : (b.act a).2.size ≤ b.size := by
  have acting := bounded.acting a
  generalize b.act a = r at acting intake return_ ⊢
  cases acting with
  | queues | displaces => cases intake
  | returns | spills => cases return_
  | refuses | misses => exact Nat.le_refl _
  | pops parted => exact size_of_parted parted ▸ Nat.le_succ _
  | takes => exact Nat.zero_le _

theorem highWater_eq (bounded : Bounded b) (as : List Act) :
    max b.size (b.highWater as) =
      max b.size (max (b.mark Gain.isIntake as) (b.mark Gain.isReturn as)) := by
  induction as generalizing b with
  | nil => rfl
  | cons a as ih =>
    have rest := ih (bounded.act a)
    have falls := size_act_le bounded a
    rw [highWater_cons, mark, mark]
    cases intake : (b.act a).1.isIntake with
    | true =>
      simp only [if_pos]
      split <;> omega
    | false =>
      cases return_ : (b.act a).1.isReturn with
      | true =>
        simp only [Bool.false_eq_true, if_pos, if_false]
        omega
      | false =>
        have falls := falls intake return_
        simp only [Bool.false_eq_true, if_false]
        omega

theorem size_act_le_peak (bounded : Bounded b) (h : b.size ≤ b.peak + n) (a : Act) :
    (b.act a).2.size ≤ (b.act a).2.peak + (n + if a.isRequeue then 1 else 0) := by
  have peak := peak_act bounded a
  have falls := size_act_le bounded a
  have acting := bounded.acting a
  generalize b.act a = r at peak falls acting ⊢
  cases acting with
  | queues | displaces =>
    exact Nat.le_add_right_of_le (peak ▸ Nat.le_max_right ..)
  | returns => exact Nat.add_le_add_right h 1
  | @spills line victim rest full parted =>
    have size : b.size + 1 = rest.size + 1 := size_of_parted parted
    have le : rest.size ≤ b.peak + (n + 1) := by omega
    exact le
  | refuses | pops | misses | takes => exact Nat.le_trans (falls rfl rfl) h

theorem highWater_le_peak (bounded : Bounded b) (h : b.size ≤ b.peak + n) (as : List Act) :
    b.highWater as ≤ (b.acts as).2.peak + (n + as.countP Act.isRequeue) := by
  induction as generalizing b n with
  | nil => exact Nat.zero_le _
  | cons a as ih =>
    have next := size_act_le_peak bounded h a
    have rest := ih (bounded.act a) next
    have grows : (b.act a).2.peak ≤ ((b.act a).2.acts as).2.peak := by
      rw [peak_acts (bounded.act a)]
      exact Nat.le_max_left ..
    rw [highWater_cons, Buffer.acts, List.countP_cons]
    dsimp only
    omega

theorem peak_of_new {capacity : Nat} {policy : OverflowPolicy}
    (h : create capacity policy = .ok b) : b.size = 0 ∧ b.peak = 0 ∧ b.capacity = capacity := by
  unfold create at h
  split at h
  · cases h
  · cases h
    exact ⟨rfl, rfl, rfl⟩

/-- Whatever is done to a buffer, its peak is the most lines that it held after a line that was pushed
came in. The most that it held at all, which is never beyond its capacity, is that or what it held
after a line had come back; so the peak tells of it exactly if no line that came back left more in
the buffer than a push has, as when none came back. It falls short by no more than the lines that
came back. -/
theorem peak_of_create {capacity : Nat} {policy : OverflowPolicy}
    (h : create capacity policy = .ok b) (as : List Act) :
    let after := (b.acts as).2
    after.metrics.peak = b.mark Gain.isIntake as ∧
      b.highWater as = max after.metrics.peak (b.mark Gain.isReturn as) ∧
      (after.metrics.peak = b.highWater as ↔ b.mark Gain.isReturn as ≤ after.metrics.peak) ∧
      after.metrics.size ≤ b.highWater as ∧ b.highWater as ≤ capacity ∧
      b.highWater as ≤ after.metrics.peak + as.countP Act.isRequeue := by
  intro after
  obtain ⟨bounded, -⟩ := bounded_of_create h
  obtain ⟨size, peak, capacity_eq⟩ := peak_of_new h
  have peak_eq : after.peak = b.mark Gain.isIntake as := by
    rw [peak_acts bounded, peak, Nat.zero_max]
  have high := highWater_eq bounded as
  have last := size_acts_le b as
  rw [size, Nat.zero_max, Nat.zero_max, ← peak_eq] at high
  rw [size, Nat.zero_max] at last
  have short := highWater_le_peak (n := 0) bounded (by rw [size]; exact Nat.zero_le _) as
  rw [Nat.zero_add] at short
  refine ⟨peak_eq, high, ?_, last, capacity_eq ▸ highWater_le bounded as, short⟩
  rw [high]
  change after.peak = max after.peak _ ↔ _ ≤ after.peak
  omega

theorem peak_of_create_returned :
    let as : List Act := [.push "a", .pop, .push "b", .requeue "a"]
    ∃ b, create 2 .dropOldest = .ok b ∧ (b.acts as).2.metrics.peak = 1 ∧ b.highWater as = 2 ∧
      (b.acts as).2.metrics.size ≤ 2 := by
  intro as
  let b : Buffer := ⟨2, .dropOldest, .empty, 0, 0, 0, 0, 0, 0⟩
  have created : create 2 .dropOldest = .ok b := rfl
  obtain ⟨peak, high, -, last, -, -⟩ := peak_of_create created as
  have peak : (b.acts as).2.metrics.peak = 1 := peak.trans (by decide)
  have high : b.highWater as = 2 := by
    rw [high, peak]
    decide
  exact ⟨b, created, peak, high, high ▸ last⟩

/-- The peak is not the most lines that the buffer has held, nor is what it holds within it. -/
theorem not_peak_eq_highWater :
    let as : List Act := [.push "a", .pop, .push "b", .requeue "a"]
    ∃ b, create 2 .dropOldest = .ok b ∧ (b.acts as).2.metrics.peak ≠ b.highWater as ∧
      ¬ (b.acts as).2.metrics.size ≤ (b.acts as).2.metrics.peak :=
  ⟨_, rfl, by decide, by decide⟩

end Buffer

end MetricRelay
