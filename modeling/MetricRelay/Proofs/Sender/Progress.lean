import Mathlib.Algebra.GroupWithZero.Nat
import MetricRelay.Proofs.Sender.Returns

namespace MetricRelay

namespace Errand

/-- At most how many replies a drain for this errand takes, those for lines in the buffer apart. A
line that goes back into the buffer counts as one. -/
def cost : Errand → Nat
  | send _ => 3
  | drain => 2
  | probe => 2

end Errand

namespace Phase

def cost : Phase → Nat
  | draining errand _ _ => errand.cost
  | writing _ => 2
  | checking => 3
  | connecting => 2
  | closing => 1

theorem cost_le (p : Phase) : p.cost ≤ 4 := by
  cases p with
  | draining errand _ _ => cases errand <;> simp [cost, Errand.cost]
  | _ => simp [cost]

end Phase

namespace Job

def cost : Job → Nat
  | run (.send _) => 3
  | run .drain => 2
  | run .probe => 4
  | close => 2

theorem cost_le (j : Job) : j.cost ≤ 4 := by
  cases j with
  | run errand => cases errand <;> simp [cost]
  | close => simp [cost]

end Job

namespace Buffer

theorem size_requeue_le (b : Buffer) (line : String) : (b.requeue line).2.size ≤ b.size + 1 := by
  obtain ⟨parted, -⟩ := b.requeue_spec line
  have lengths : (line :: b.toList).length =
      (b.requeue line).1.length + (b.requeue line).2.toList.length := by
    unfold Parted at parted
    split at parted
    · rw [parted, List.length_append]
    · rw [parted, List.length_append, List.length_reverse, Nat.add_comm]
  rw [List.length_cons] at lengths
  simp only [size_eq_length]
  omega

end Buffer

namespace Sender

open Effect

def load (s : Sender) : Nat :=
  s.buffer.size + match s.holder with
    | some (_, p) => p.cost
    | none => 0

def backlog (s : Sender) : Nat :=
  (s.queue.map fun c => c.2.cost).sum + if s.retiring.isSome then 3 else 0

def work (s : Sender) : Nat := s.load + s.backlog

theorem size_keep_le (s : Sender) (line : String) :
    (s.keep line).2.1.buffer.size ≤ s.buffer.size + 1 := by
  obtain ⟨b, k, lines, -⟩ | ⟨b, oldest, rest, k, -, lines, lines', -⟩ | ⟨b, k, lines, -⟩ :=
    s.keep_cases line
  all_goals simp [Buffer.size_eq_length, *]

theorem load_keepAndFinish_le (s : Sender) (id : CallId) (line : String) :
    (s.keepAndFinish id line).1.load ≤ s.buffer.size + 1 := s.size_keep_le line

theorem size_countDrained (s : Sender) (written : Nat) (interrupted : Bool) :
    (s.countDrained written interrupted).buffer.size = s.buffer.size := by
  rw [(s.countDrained_fields written interrupted).1]

theorem load_endDrain_lt (s : Sender) (id : CallId) (errand : Errand) (written : Nat) :
    (s.endDrain id errand written false).1.load < s.buffer.size + errand.cost := by
  have size := s.size_countDrained written false
  cases errand with
  | send line => exact Nat.lt_succ_of_le (Nat.le_of_eq (congrArg (· + 2) size))
  | drain => exact Nat.lt_of_le_of_lt (Nat.le_of_eq size) (Nat.lt_add_of_pos_right Nat.two_pos)
  | probe => exact Nat.lt_of_le_of_lt (Nat.le_of_eq size) (Nat.lt_add_of_pos_right Nat.two_pos)

theorem load_endDrain_interrupted (s : Sender) (id : CallId) (errand : Errand) (written : Nat) :
    (s.endDrain id errand written true).1.load + 1 < s.buffer.size + errand.cost := by
  have size := s.size_countDrained written true
  cases errand with
  | send line =>
    have := load_keepAndFinish_le (s.countDrained written true) id line
    rw [size] at this
    exact Nat.succ_lt_succ (Nat.lt_succ_of_le this)
  | drain => exact Nat.succ_lt_succ (Nat.lt_succ_of_le (Nat.le_of_eq size))
  | probe => exact Nat.succ_lt_succ (Nat.lt_succ_of_le (Nat.le_of_eq size))

theorem load_pump_lt (s : Sender) (id : CallId) (errand : Errand) (written : Nat) :
    (s.pump id errand written).1.load < s.buffer.size + errand.cost := by
  unfold pump
  split
  · rename_i line b h
    obtain ⟨lines, -⟩ := Buffer.toList_of_pop? h
    simp only [ask, load, Phase.cost, Buffer.size_eq_length, lines, List.length_cons]
    omega
  · exact s.load_endDrain_lt id errand written

theorem load_enter_lt (s : Sender) (id : CallId) (job : Job) :
    (s.enter id job).1.load < s.buffer.size + job.cost := by
  unfold enter
  split
  · rename_i line
    split
    · exact Nat.lt_of_le_of_lt (s.load_keepAndFinish_le id line) (by simp [Job.cost])
    · split
      · simp [ask, load, Phase.cost, Job.cost]
      · exact s.load_pump_lt id (.send line) 0
  · exact s.load_pump_lt id .drain 0
  · split
    · simp [finish, load, Job.cost]
    · dsimp only
      split <;> simp [ask, load, Phase.cost, Job.cost]
  · simp [ask, load, Phase.cost, Job.cost]

theorem load_recover_le (s : Sender) (id : CallId) : (s.recover id).1.load ≤ s.buffer.size + 1 := by
  unfold recover
  dsimp only
  split
  · simp [finish, load]
  · exact Nat.le_of_lt_succ (load_pump_lt ..)

theorem load_succeed_lt (s : Sender) (id : CallId) (p : Phase) :
    (s.succeed id p).1.load < s.buffer.size + p.cost := by
  cases p with
  | draining errand line written => exact s.load_pump_lt id errand (written + 1)
  | writing line => exact Nat.lt_add_of_pos_right Nat.two_pos
  | checking => exact Nat.lt_of_le_of_lt (s.load_recover_le id) (by simp [Phase.cost])
  | connecting => exact Nat.lt_of_le_of_lt (s.load_recover_le id) (by simp [Phase.cost])
  | closing => exact Nat.lt_succ_self _

theorem load_fail_lt (s : Sender) (id : CallId) (p : Phase) :
    (s.fail id p).1.load < s.buffer.size + p.cost := by
  cases p with
  | draining errand line written =>
    let s' := countWriteFailure { s with buffer := (s.buffer.requeue line).2 }
    have ended := s'.markDown.load_endDrain_interrupted id errand written
    have size : s'.markDown.buffer.size ≤ s.buffer.size + 1 := s.buffer.size_requeue_le line
    have : (s'.markDown.endDrain id errand written true).1.load < s.buffer.size + errand.cost := by
      omega
    exact this
  | writing line =>
    exact Nat.lt_of_le_of_lt (load_keepAndFinish_le s.countWriteFailure.markDown id line)
      (Nat.lt_succ_self _)
  | checking => exact Nat.lt_succ_self _
  | connecting => exact Nat.lt_add_of_pos_right Nat.two_pos
  | closing => exact Nat.lt_succ_self _

theorem Frame.backlog {s s' : Sender} (h : Frame s s') : s'.backlog = s.backlog := by
  rw [Sender.backlog, h.queue, h.retiring]
  rfl

theorem work_arrive_le (s : Sender) (id : CallId) (job : Job) :
    (s.arrive id job).1.work ≤ s.work + job.cost := by
  obtain ⟨-, -, e⟩ | e := s.arrive_cases id job
  · have less := s.load_enter_lt id job
    have rest := (turn_enter s id job).frame.backlog
    have size : s.buffer.size ≤ s.load := Nat.le_add_right ..
    rw [e, work, work, rest]
    omega
  · rw [e]
    simp only [work, load, backlog, List.map_append, List.sum_append, List.map_cons, List.map_nil,
      List.sum_singleton]
    omega

theorem work_reply_lt {s s' : Sender} {r : Reply} {fx : List Effect}
    (h : s.step (.reply r) = some (s', fx)) : s'.work < s.work := by
  obtain ⟨id, p, holder, result⟩ := step_reply h
  have load : s.load = s.buffer.size + p.cost := by rw [Sender.load, holder]
  rw [work, work, load]
  have rest : s'.backlog = s.backlog := by
    obtain ⟨_, _, -, ⟨_, -, frame, -⟩ | turn⟩ := reply_cases h
    · exact frame.backlog
    · exact turn.frame.backlog
  rw [rest]
  refine Nat.add_lt_add_right ?_ _
  obtain ⟨-, h⟩ | ⟨-, h⟩ := result
  · have less := load_succeed_lt { s with connected := r.connected } id p
    rwa [h] at less
  · have less := load_fail_lt { s with connected := r.connected } id p
    rwa [h] at less

theorem work_grant_lt {s s' : Sender} {fx : List Effect}
    (h : s.step .grant = some (s', fx)) : s'.work < s.work := by
  obtain ⟨id, job, queue, holder, hq, h⟩ := step_grant h
  have less := load_enter_lt { s with queue } id job
  have rest := (turn_enter { s with queue } id job).frame.backlog
  have load : s.load = s.buffer.size := by rw [Sender.load, holder, Nat.add_zero]
  have first : s.backlog = job.cost + backlog { s with queue } := by
    rw [backlog, backlog, hq, List.map_cons, List.sum_cons, Nat.add_assoc]
  rw [h] at less rest
  rw [work, work, rest, load, first, ← Nat.add_assoc]
  exact Nat.add_lt_add_right less _

theorem work_retire_lt {s s' : Sender} {fx : List Effect}
    (h : s.step .retire = some (s', fx)) : s'.work < s.work := by
  obtain ⟨id, retiring, -, h⟩ := step_retire h
  have le := work_arrive_le { s with retiring := none } id .close
  rw [h] at le
  refine Nat.lt_of_le_of_lt le ?_
  simp only [work, load, backlog, retiring, Job.cost, Option.isSome_none, Option.isSome_some,
    Bool.false_eq_true, if_false, if_true]
  omega

theorem work_tick_le {s s' : Sender} {elapsed : Nat} {fx : List Effect}
    (h : s.step (.start (.tick elapsed)) = some (s', fx)) : s'.work ≤ s.work + 4 := by
  have h := step_start h
  cases s.opening_start (.tick elapsed) with
  | wakes elapsed op_eq incoming was_open s₁ counted r_eq =>
    have le := work_arrive_le s₁ s.nextId (.run .probe)
    have same : s₁.work = s.work := by rw [counted]; rfl
    rw [← r_eq, h, same] at le
    exact le
  | sleeps elapsed op_eq incoming r_eq =>
    cases r_eq.symm.trans h
    exact Nat.le_add_right ..
  | answers job a awake => exact absurd rfl (awake elapsed)
  | arrives job s₁ awake => exact absurd rfl (awake elapsed)
  | keeps line op_eq => cases op_eq
  | closes op_eq => cases op_eq

theorem work_le (s : Sender) : s.work ≤ s.buffer.size + 4 * s.underway.length := by
  have queue : (s.queue.map fun c => c.2.cost).sum ≤ 4 * s.queue.length := by
    induction s.queue with
    | nil => exact Nat.zero_le _
    | cons c queue ih =>
      have := c.2.cost_le
      rw [List.map_cons, List.sum_cons, List.length_cons]
      omega
  simp only [work, load, backlog, underway, waiting, List.length_append, List.length_map]
  cases s.holder with
  | none => cases s.retiring <;> simp <;> omega
  | some h =>
    have := h.2.cost_le
    cases s.retiring <;> simp <;> omega

end Sender

end MetricRelay
