import MetricRelay.Proofs.Sender.Calls
import MetricRelay.Proofs.Transport.Recorded

namespace MetricRelay.Sender

open Effect

theorem writes_discarded (lines : List String) : writes (lines.map .discarded) = [] := by
  induction lines with
  | nil => rfl
  | cons line lines ih => exact ih

theorem writes_keep (s : Sender) (line : String) : writes (s.keep line).2.2 = [] := by
  obtain ⟨b, k, -⟩ | ⟨b, oldest, rest, k, -⟩ | ⟨b, k, -⟩ := s.keep_cases line
  all_goals
    rw [k]
    rfl

theorem writes_keepAndFinish (s : Sender) (id : CallId) (line : String) :
    writes (s.keepAndFinish id line).2 = [] := by
  change writes ((s.keep line).2.2 ++ [.returned id _]) = []
  rw [writes_append, writes_keep]
  rfl

theorem writes_endDrain (s : Sender) (id : CallId) (errand : Errand) (written : Nat)
    (interrupted : Bool) : writes (s.endDrain id errand written interrupted).2 = [] := by
  unfold endDrain
  split
  · split
    · exact writes_keepAndFinish ..
    · rfl
  · rfl
  · rfl

theorem writes_pump (s : Sender) (id : CallId) (errand : Errand) (written : Nat) :
    writes (s.pump id errand written).2 = [] := by
  unfold pump
  split
  · rfl
  · exact writes_endDrain ..

theorem writes_enter (s : Sender) (id : CallId) (job : Job) : writes (s.enter id job).2 = [] := by
  unfold enter
  split
  · split
    · exact writes_keepAndFinish ..
    · split
      · rfl
      · exact writes_pump ..
  · exact writes_pump ..
  · split <;> rfl
  · rfl

theorem writes_arrive (s : Sender) (id : CallId) (job : Job) :
    writes (s.arrive id job).2 = [] := by
  obtain ⟨-, -, e⟩ | e := s.arrive_cases id job
  · rw [e]
    exact writes_enter ..
  · rw [e]
    rfl

theorem writes_start (s : Sender) (op : Op) : writes (s.start op).2 = [] := by
  cases s.opening_start op with
  | keeps line op_eq s₁ counted r_eq =>
    rw [r_eq, writes_append, writes_keep]
    rfl
  | arrives job s₁ awake incoming tracker counted r_eq
  | wakes elapsed op_eq incoming was_open s₁ counted r_eq =>
    rw [r_eq]
    exact writes_arrive ..
  | answers job a awake incoming fits unkept r_eq | sleeps elapsed op_eq incoming r_eq
  | closes op_eq was_open r_eq =>
    rw [r_eq]
    rfl

theorem writes_recover (s : Sender) (id : CallId) : writes (s.recover id).2 = [] := by
  unfold recover
  dsimp only
  split
  · rfl
  · exact writes_pump ..

theorem writes_succeed (s : Sender) (id : CallId) (p : Phase) :
    writes (s.succeed id p).2 = p.request.texts := by
  cases p with
  | draining errand line written =>
    exact congrArg (line :: ·) (writes_pump s id errand (written + 1))
  | writing line => rfl
  | checking => exact writes_recover s id
  | connecting => exact writes_recover s id
  | closing => rfl

theorem writes_fail (s : Sender) (id : CallId) (p : Phase) : writes (s.fail id p).2 = [] := by
  cases p with
  | draining errand line written =>
    let s₁ := countWriteFailure { s with buffer := (s.buffer.requeue line).2 }
    change writes (.requeued line :: (s.buffer.requeue line).1.map .discarded ++
      (s₁.markDown.endDrain id errand written true).2) = []
    rw [List.cons_append, writes_cons, writes_append, writes_discarded, writes_endDrain]
    rfl
  | writing line => exact writes_keepAndFinish ..
  | _ => rfl

variable {s s' : Sender} {fx : List Effect}

theorem writes_reply {r : Reply} {id : CallId} {p : Phase} (holder : s.holder = some (id, p))
    (h : s.step (.reply r) = some (s', fx)) :
    writes fx = if r.fault.isNone then p.request.texts else [] := by
  obtain ⟨id', p', holder', ⟨ok, h⟩ | ⟨failed, h⟩⟩ := step_reply h
  all_goals
    cases holder.symm.trans holder'
  · have := writes_succeed { s with connected := r.connected } id p
    rw [h] at this
    rw [ok]
    exact this
  · have := writes_fail { s with connected := r.connected } id p
    rw [h] at this
    rw [if_neg (by simpa using failed)]
    exact this

theorem writes_of_ne_reply {e : Event} (h : s.step e = some (s', fx)) (he : ∀ r, e ≠ .reply r) :
    writes fx = [] := by
  cases e with
  | start op =>
    have := s.writes_start op
    rwa [step_start h] at this
  | reply r => exact absurd rfl (he r)
  | grant =>
    obtain ⟨id, job, queue, -, -, h⟩ := step_grant h
    have := writes_enter { s with queue } id job
    rwa [h] at this
  | retire =>
    obtain ⟨id, -, -, h⟩ := step_retire h
    have := writes_arrive { s with retiring := none } id .close
    rwa [h] at this
  | take | markUp | markDown | hold =>
    cases h
    rfl
  | release =>
    obtain ⟨-, h⟩ := step_release h
    cases h
    rfl

end MetricRelay.Sender
