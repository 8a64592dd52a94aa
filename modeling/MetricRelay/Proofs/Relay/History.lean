import MetricRelay.Proofs.Relay.Carrier

namespace MetricRelay.Relay

variable {τ κ : Type} [Carrier τ κ]

namespace Progress

/-- The carrier that a batch is handed to, if it is. -/
def meeting (p : Progress κ) (r : Round τ) : κ :=
  r.changes.foldl (fun k f => Carrier.change f k) p.carrier

def history : Progress κ → List (Round τ) → List (κ × Round τ)
  | _, [] => []
  | p, r :: rs => if p.ended then [] else (p.meeting r, r) :: (p.advance r).history rs

theorem map_snd_history (p : Progress κ) (rs : List (Round τ)) :
    (p.history rs).map Prod.snd = p.consumed rs := by
  induction rs generalizing p with
  | nil => rfl
  | cons r rs ih =>
    unfold history consumed
    split
    · rfl
    · exact congrArg (r :: ·) (ih _)

theorem advanceAll_eq_foldl (p : Progress κ) (rs : List (Round τ)) :
    p.advanceAll rs = (p.history rs).foldl (fun p x => p.advance x.2) p := by
  induction rs generalizing p with
  | nil => rfl
  | cons r rs ih =>
    unfold advanceAll history
    split
    · rfl
    · exact ih _

theorem history_eq_nil_iff (p : Progress κ) (rs : List (Round τ)) :
    p.history rs = [] ↔ p.ended = true ∨ rs = [] := by
  cases rs with
  | nil => simp [history]
  | cons r rs =>
    unfold history
    by_cases ended : p.ended = true
    · simp [ended]
    · simp [ended]

theorem ended_advance (p : Progress κ) (r : Round τ) :
    (p.advance r).ended = true ↔
      r.handed = [] ∨ (Carrier.deliver τ r.handed (p.meeting r)).1 = false := by
  unfold advance Round.handed meeting
  dsimp only
  by_cases faulty : r.fault.isSome = true
  · simp [if_pos faulty]
  · rw [if_neg faulty, if_neg faulty]
    by_cases empty : r.lines.isEmpty = true
    · rw [if_pos empty]
      simp [List.isEmpty_iff.1 empty]
    · rw [if_neg empty]
      have some_ : r.lines ≠ [] := by simpa using empty
      simp [some_]

theorem carrier_advance (p : Progress κ) (r : Round τ) :
    (p.advance r).carrier = p.meeting r ∨
      (p.advance r).carrier = (Carrier.deliver τ r.lines (p.meeting r)).2 := by
  unfold advance meeting
  dsimp only
  split
  · exact .inl rfl
  · split
    · exact .inl rfl
    · exact .inr rfl

section

variable {P : κ → Prop} (change : ∀ (f : τ → τ) k, P k → P (Carrier.change f k))
include change

theorem meeting_of_change {p : Progress κ} (h : P p.carrier) (r : Round τ) : P (p.meeting r) := by
  unfold meeting
  generalize p.carrier = k at h
  induction r.changes generalizing k with
  | nil => exact h
  | cons f changes ih => exact ih _ (change f k h)

theorem of_mem_history (deliver : ∀ lines k, P k → P (Carrier.deliver τ lines k).2)
    {p : Progress κ} {rs : List (Round τ)} {k : κ} {r : Round τ} (h : P p.carrier)
    (mem : (k, r) ∈ p.history rs) : P k := by
  induction rs generalizing p with
  | nil => cases mem
  | cons r' rs ih =>
    have met := meeting_of_change change h r'
    unfold history at mem
    split at mem
    · cases mem
    · obtain e | mem := List.mem_cons.1 mem
      · cases e
        exact met
      · refine ih ?_ mem
        obtain e | e := p.carrier_advance r'
        · exact e ▸ met
        · exact e ▸ deliver _ _ met

end

theorem after_eq_nil_iff {p : Progress κ} {rs : List (Round τ)} {before after : List (κ × Round τ)}
    {k : κ} {r : Round τ} (h : p.history rs = before ++ (k, r) :: after) :
    ∃ later, rs = before.map Prod.snd ++ r :: later ∧
      (after = [] ↔
        later = [] ∨ r.handed = [] ∨ (Carrier.deliver τ r.handed k).1 = false) := by
  induction rs generalizing p before with
  | nil => simp [history] at h
  | cons r' rs ih =>
    unfold history at h
    split at h
    · simp at h
    · obtain ⟨rfl, e⟩ | ⟨before', rfl, e⟩ := List.cons_eq_append_iff.1 h
      · obtain ⟨⟨rfl, rfl⟩, rfl⟩ := by simpa using e
        exact ⟨rs, rfl, by rw [history_eq_nil_iff, ended_advance, or_comm]⟩
      · obtain ⟨later, rfl, iff⟩ := ih e
        exact ⟨later, rfl, iff⟩

end Progress

section

variable {ε : Type} {size : Nat} {input : List (Arrival τ)} {spool : Option Spool}
  {start : Except ε κ} {k : κ} {r : Round τ}

def history (size : Nat) (input : List (Arrival τ)) (spool : Option Spool) :
    Except ε κ → List (κ × Round τ)
  | .ok k =>
    if (panic? τ size k spool).isSome then []
    else (Progress.begin τ (found spool) k).history (rounds size input)
  | .error _ => []

theorem of_mem_history {P : κ → Prop} (begins : ∀ k, start = .ok k → P k)
    (change : ∀ (f : τ → τ) k, P k → P (Carrier.change f k))
    (resume : ∀ lines k, P k → P (Carrier.resume τ lines k))
    (deliver : ∀ lines k, P k → P (Carrier.deliver τ lines k).2)
    (mem : (k, r) ∈ history size input spool start) : P k := by
  cases start with
  | error e => cases mem
  | ok k =>
    rw [history] at mem
    split at mem
    · cases mem
    · exact Progress.of_mem_history change deliver (resume _ _ (begins k rfl)) mem

theorem after_eq_nil_iff {before after : List (κ × Round τ)}
    (h : history size input spool start = before ++ (k, r) :: after) :
    ∃ later, rounds size input = before.map Prod.snd ++ r :: later ∧
      (after = [] ↔
        later = [] ∨ r.handed = [] ∨ (Carrier.deliver τ r.handed k).1 = false) := by
  cases start with
  | error e => simp [history] at h
  | ok k =>
    rw [history] at h
    split at h
    · simp at h
    · exact Progress.after_eq_nil_iff h

end

end MetricRelay.Relay
