import MetricRelay.Sender.Batch

namespace MetricRelay

def BatchReport.count (r : BatchReport) (outcome : Outcome) : BatchReport :=
  { r with
    attempted := r.attempted + 1
    sent := if outcome = .sent then r.sent + 1 else r.sent }

namespace Batch

variable {σ : Type} {send : String → σ → Outcome × σ}

theorem dispatchFrom_cons (tolerant : Bool) (line : String) (lines : List String) (r : BatchReport)
    (s : σ) :
    dispatchFrom send tolerant r (line :: lines) s =
      if (send line s).1 = .sent ∨ tolerant = true then
        dispatchFrom send tolerant (r.count (send line s).1) lines (send line s).2
      else (r.count (send line s).1, (send line s).2) := by
  simp only [dispatchFrom, BatchReport.count]
  by_cases sent : (send line s).1 = .sent
  · simp [sent]
  · simp [sent]

theorem dispatchFrom_spec (tolerant : Bool) (lines : List String) (r : BatchReport)
    {P : List String → σ → Prop}
    (step : ∀ given line s, P given s → P (given ++ [terminated line]) (send line s).2)
    {s : σ} {given : List String} (h : P given s) :
    let result := dispatchFrom send tolerant r lines s
    ∃ k ≤ lines.length, result.1.attempted = r.attempted + k ∧ result.1.total = r.total ∧
      (tolerant = true → k = lines.length) ∧
      P (given ++ (lines.take k).map terminated) result.2 := by
  induction lines generalizing r s given with
  | nil => exact ⟨0, Nat.le_refl _, rfl, rfl, fun _ => rfl, by simpa [dispatchFrom] using h⟩
  | cons line lines ih =>
    have next := step given line s h
    rw [dispatchFrom_cons]
    by_cases on : (send line s).1 = .sent ∨ tolerant = true
    · rw [if_pos on]
      obtain ⟨k, le, attempted, total, all, right⟩ := ih (r.count (send line s).1) next
      refine ⟨k + 1, Nat.succ_le_succ le, ?_, total, fun t => congrArg (· + 1) (all t), ?_⟩
      · exact attempted.trans (by rw [BatchReport.count, Nat.add_assoc, Nat.add_comm 1])
      · simpa using right
    · rw [if_neg on]
      exact ⟨1, by simp, rfl, rfl, fun t => absurd (.inr t) on, by simpa using next⟩

def logged (send : String → σ → Outcome × σ) (line : String) (s : σ × List (String × Outcome)) :
    Outcome × σ × List (String × Outcome) :=
  let (outcome, next) := send line s.1
  (outcome, next, s.2 ++ [(line, outcome)])

def log (send : String → σ → Outcome × σ) (tolerant : Bool) (lines : List String) (s : σ) :
    List (String × Outcome) :=
  (dispatch (logged send) tolerant lines (s, [])).2.2

theorem dispatchFrom_logged_cons (tolerant : Bool) (line : String) (lines : List String)
    (r : BatchReport) (s : σ) (past : List (String × Outcome)) :
    dispatchFrom (logged send) tolerant r (line :: lines) (s, past) =
      if (send line s).1 = .sent ∨ tolerant = true then
        dispatchFrom (logged send) tolerant (r.count (send line s).1) lines
          ((send line s).2, past ++ [(line, (send line s).1)])
      else (r.count (send line s).1, (send line s).2, past ++ [(line, (send line s).1)]) :=
  dispatchFrom_cons ..

theorem dispatchFrom_logged (send : String → σ → Outcome × σ) (tolerant : Bool)
    (lines : List String) (r : BatchReport) (s : σ) (past : List (String × Outcome)) :
    (dispatchFrom (logged send) tolerant r lines (s, past)).1 =
        (dispatchFrom send tolerant r lines s).1 ∧
      (dispatchFrom (logged send) tolerant r lines (s, past)).2.1 =
        (dispatchFrom send tolerant r lines s).2 := by
  induction lines generalizing r s past with
  | nil => exact ⟨rfl, rfl⟩
  | cons line lines ih =>
    rw [dispatchFrom_logged_cons, dispatchFrom_cons]
    by_cases on : (send line s).1 = .sent ∨ tolerant = true
    · rw [if_pos on, if_pos on]
      exact ih ..
    · rw [if_neg on, if_neg on]
      exact ⟨rfl, rfl⟩

theorem dispatchFrom_logged_spec (send : String → σ → Outcome × σ) (tolerant : Bool)
    (lines : List String) (r : BatchReport) (s : σ) (past : List (String × Outcome)) :
    let noted := dispatchFrom (logged send) tolerant r lines (s, past)
    ∃ new, noted.2.2 = past ++ new ∧ noted.1.attempted = r.attempted + new.length ∧
      noted.1.total = r.total ∧ new.map Prod.fst <+: lines ∧
      (tolerant = false → ∀ x ∈ new.dropLast, x.2 = .sent) := by
  induction lines generalizing r s past with
  | nil => exact ⟨[], by simp [dispatchFrom]⟩
  | cons line lines ih =>
    rw [dispatchFrom_logged_cons]
    by_cases on : (send line s).1 = .sent ∨ tolerant = true
    · rw [if_pos on]
      obtain ⟨new, eq, attempted, total, within, strict⟩ :=
        ih (r.count (send line s).1) (send line s).2 (past ++ [(line, (send line s).1)])
      refine ⟨(line, (send line s).1) :: new, by simpa using eq, ?_, total, by simpa using within, ?_⟩
      · rw [List.length_cons, ← Nat.add_assoc, Nat.add_right_comm]
        exact attempted
      · intro intolerant x mem
        have sent := on.resolve_right (by simp [intolerant])
        cases new with
        | nil => cases mem
        | cons y new =>
          obtain rfl | mem := List.mem_cons.1 mem
          · exact sent
          · exact strict intolerant x mem
    · rw [if_neg on]
      exact ⟨[(line, (send line s).1)], rfl, rfl, rfl, by simp, fun _ x mem => nomatch mem⟩

theorem log_spec (send : String → σ → Outcome × σ) (tolerant : Bool) (lines : List String) (s : σ) :
    let report := (dispatch send tolerant lines s).1
    let log := log send tolerant lines s
    log.map Prod.fst <+: lines ∧
      report.aborted = decide (log.length < lines.length) ∧
      (tolerant = false → ∀ x ∈ log.dropLast, x.2 = .sent) := by
  obtain ⟨new, eq, attempted, total, within, strict⟩ :=
    dispatchFrom_logged_spec send tolerant lines ⟨lines.length, 0, 0⟩ s []
  obtain ⟨same, -⟩ := dispatchFrom_logged send tolerant lines ⟨lines.length, 0, 0⟩ s []
  rw [same] at attempted total
  have log_eq : log send tolerant lines s = new := eq
  intro report log
  rw [show log = new from log_eq]
  refine ⟨within, ?_, strict⟩
  rw [BatchReport.aborted, show report.attempted = new.length from attempted.trans (Nat.zero_add _),
    show report.total = lines.length from total]

end Batch

end MetricRelay
