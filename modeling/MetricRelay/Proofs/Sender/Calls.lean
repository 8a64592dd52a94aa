import Mathlib.Data.List.Nodup
import Mathlib.Data.List.Perm.Basic
import MetricRelay.Proofs.Buffer
import MetricRelay.Sender.Step

namespace MetricRelay

def Phase.job : Phase → Job
  | draining errand _ _ => .run errand
  | writing line => .run (.send line)
  | checking => .run .probe
  | connecting => .run .probe
  | closing => .close

def Answer.Fits : Answer → Job → Prop
  | .outcome _, .run (.send _) => True
  | .drained _, .run .drain => True
  | .probed _, .run .probe => True
  | .closed, .close => True
  | _, _ => False

def Effect.returns (effects : List Effect) : List (CallId × Answer) :=
  effects.filterMap fun
    | .returned id a => some (id, a)
    | _ => none

namespace Effect

@[simp] theorem returns_nil : returns [] = [] := rfl

@[simp] theorem returns_append (l l' : List Effect) : returns (l ++ l') = returns l ++ returns l' :=
  List.filterMap_append

@[simp] theorem returns_returned (id : CallId) (a : Answer) (l : List Effect) :
    returns (.returned id a :: l) = (id, a) :: returns l := rfl

@[simp] def written : Effect → List String
  | accepted line => [line]
  | _ => []

@[simp] def handedOut : Effect → List String
  | took lines => lines
  | _ => []

@[simp] def evicted : Effect → List String
  | discarded line => [line]
  | _ => []

@[simp] def turnedAway : Effect → List String
  | refused line => [line]
  | _ => []

def writes (effects : List Effect) : List String := effects.flatMap written

def takes (effects : List Effect) : List String := effects.flatMap handedOut

def discards (effects : List Effect) : List String := effects.flatMap evicted

def refusals (effects : List Effect) : List String := effects.flatMap turnedAway

section

variable (e : Effect) (l l' : List Effect)

@[simp] theorem writes_cons : writes (e :: l) = e.written ++ writes l := rfl

@[simp] theorem takes_cons : takes (e :: l) = e.handedOut ++ takes l := rfl

@[simp] theorem discards_cons : discards (e :: l) = e.evicted ++ discards l := rfl

@[simp] theorem refusals_cons : refusals (e :: l) = e.turnedAway ++ refusals l := rfl

@[simp] theorem writes_nil : writes [] = [] := rfl

@[simp] theorem takes_nil : takes [] = [] := rfl

@[simp] theorem discards_nil : discards [] = [] := rfl

@[simp] theorem refusals_nil : refusals [] = [] := rfl

@[simp] theorem writes_append : writes (l ++ l') = writes l ++ writes l' := List.flatMap_append

@[simp] theorem takes_append : takes (l ++ l') = takes l ++ takes l' := List.flatMap_append

@[simp] theorem discards_append : discards (l ++ l') = discards l ++ discards l' :=
  List.flatMap_append

@[simp] theorem refusals_append : refusals (l ++ l') = refusals l ++ refusals l' :=
  List.flatMap_append

end

@[simp] theorem returns_discarded (lines : List String) :
    returns (lines.map .discarded) = [] := by
  induction lines with
  | nil => rfl
  | cons line lines ih => exact ih

@[simp] theorem takes_discarded (lines : List String) : takes (lines.map .discarded) = [] := by
  induction lines with
  | nil => rfl
  | cons line lines ih => exact ih

end Effect

def Event.calls : Event → Nat
  | .start _ => 1
  | _ => 0

namespace Sender

open Effect

def waiting (s : Sender) : List (CallId × Job) :=
  s.queue ++ s.retiring.toList.map fun id => (id, .close)

def underway (s : Sender) : List (CallId × Job) :=
  s.holder.toList.map (fun h => (h.1, h.2.job)) ++ s.waiting

structure Frame (s s' : Sender) : Prop where
  queue : s'.queue = s.queue
  retiring : s'.retiring = s.retiring
  closed : s'.closed = s.closed
  nextId : s'.nextId = s.nextId
  policy : s'.buffer.policy = s.buffer.policy

theorem Frame.trans {s s' s'' : Sender} (h : Frame s s') (h' : Frame s' s'') : Frame s s'' where
  queue := h'.queue.trans h.queue
  retiring := h'.retiring.trans h.retiring
  closed := h'.closed.trans h.closed
  nextId := h'.nextId.trans h.nextId
  policy := h'.policy.trans h.policy

structure Undisturbed (s s' : Sender) : Prop extends Frame s s' where
  holder : s'.holder = s.holder
  background : s'.background = s.background

theorem Undisturbed.underway_eq {s s' : Sender} (h : Undisturbed s s') :
    s'.underway = s.underway := by
  rw [underway, waiting, h.holder, h.queue, h.retiring]
  rfl

/-- How far the call `id` comes in its turn: it asks for something more, or it returns. -/
inductive Fate (s : Sender) (id : CallId) (job : Job) (r : Sender × List Effect) : Prop
  | asks (p : Phase) (holder : r.1.holder = some (id, p)) (job_eq : p.job = job)
      (returns_eq : returns r.2 = []) (background : r.1.background = s.background)
      (emptied : ∀ line, p = .writing line → r.1.buffer.toList = [])
  | ends (a : Answer) (holder : r.1.holder = none) (fits : a.Fits job)
      (returns_eq : returns r.2 = [(id, a)])
      (background : r.1.background = if s.background = some id then none else s.background)
      (unsent : a ≠ .outcome .sent)

structure Turn (s : Sender) (id : CallId) (job : Job) (r : Sender × List Effect) : Prop where
  frame : Frame s r.1
  untaken : takes r.2 = []
  asked : ∀ id' p, .asked id' p ∈ r.2 → r.1.holder = some (id', p)
  fate : Fate s id job r

theorem Turn.of_frame {s s' : Sender} {id : CallId} {job : Job} {r : Sender × List Effect}
    (h : Turn s' id job r) (frame : Frame s s') (background : s'.background = s.background) :
    Turn s id job r := by
  refine ⟨frame.trans h.frame, h.untaken, h.asked, ?_⟩
  cases h.fate with
  | asks p holder job_eq returns_eq bg emptied =>
    exact .asks p holder job_eq returns_eq (bg.trans background) emptied
  | ends a holder fits returns_eq bg unsent =>
    exact .ends a holder fits returns_eq (by rw [bg, background]) unsent

theorem Turn.prepend {s s' : Sender} {id : CallId} {job : Job} {fx : List Effect}
    (h : Turn s id job (s', fx)) (fx' : List Effect) (silent : returns fx' = [])
    (untaken : takes fx' = []) (unasked : ∀ id' p, .asked id' p ∉ fx') :
    Turn s id job (s', fx' ++ fx) := by
  refine ⟨h.frame, by rw [takes_append, untaken, h.untaken]; rfl, fun id' p mem => ?_, ?_⟩
  · exact h.asked id' p ((List.mem_append.1 mem).resolve_left (unasked id' p))
  cases h.fate with
  | asks p holder job_eq returns_eq bg emptied =>
    refine .asks p holder job_eq ?_ bg emptied
    rw [returns_append, silent, returns_eq, List.nil_append]
  | ends a holder fits returns_eq bg unsent =>
    refine .ends a holder fits ?_ bg unsent
    rw [returns_append, silent, returns_eq, List.nil_append]

theorem Turn.unsent {s : Sender} {id : CallId} {job : Job} {r : Sender × List Effect}
    (h : Turn s id job r) : ∀ x ∈ returns r.2, x.2 ≠ .outcome .sent := by
  cases h.fate with
  | asks p holder job_eq returns_eq background emptied =>
    rw [returns_eq]
    exact List.forall_mem_nil _
  | ends a holder fits returns_eq background unsent =>
    rw [returns_eq]
    exact List.forall_mem_singleton.2 unsent

theorem keep_cases (s : Sender) (line : String) :
    (∃ b, s.keep line = (.buffered, { s with
        buffer := b, stats := { s.stats with buffered := s.stats.buffered + 1 } }, []) ∧
      b.toList = s.buffer.toList ++ [line] ∧ b.policy = s.buffer.policy ∧
      b.dropped = s.buffer.dropped ∧ b.rejected = s.buffer.rejected) ∨
    (∃ b oldest rest, s.keep line = (.buffered, { s with
        buffer := b
        stats := { s.stats with
          buffered := s.stats.buffered + 1, dropped := s.stats.dropped + 1 } },
        [.discarded oldest]) ∧
      s.buffer.policy = .dropOldest ∧ s.buffer.toList = oldest :: rest ∧
      b.toList = rest ++ [line] ∧ b.policy = s.buffer.policy ∧
      b.dropped = s.buffer.dropped + 1 ∧ b.rejected = s.buffer.rejected) ∨
    (∃ b, s.keep line = (.rejected, { s with
        buffer := b, stats := { s.stats with rejected := s.stats.rejected + 1 } },
        [.refused line]) ∧
      b.toList = s.buffer.toList ∧ b.policy = s.buffer.policy ∧
      b.dropped = s.buffer.dropped ∧ b.rejected = s.buffer.rejected + 1) := by
  obtain ⟨b, h, l⟩ | ⟨oldest, rest, b, h, hp, hl, l⟩ | ⟨cause, b, h, l⟩ := s.buffer.push_cases line
  · exact .inl ⟨b, by simp only [keep, h], l⟩
  · exact .inr (.inl ⟨b, oldest, rest, by simp only [keep, h], hp, hl, l⟩)
  · exact .inr (.inr ⟨b, by simp only [keep, h], l⟩)

theorem undisturbed_keep (s : Sender) (line : String) : Undisturbed s (s.keep line).2.1 := by
  obtain ⟨b, k, -, policy, -⟩ | ⟨b, oldest, rest, k, -, -, -, policy, -⟩ | ⟨b, k, -, policy, -⟩ :=
    s.keep_cases line
  all_goals
    rw [k]
    exact ⟨⟨rfl, rfl, rfl, rfl, policy⟩, rfl, rfl⟩

theorem returns_keep (s : Sender) (line : String) : returns (s.keep line).2.2 = [] := by
  obtain ⟨b, k, -⟩ | ⟨b, oldest, rest, k, -⟩ | ⟨b, k, -⟩ := s.keep_cases line
  all_goals
    rw [k]
    rfl

theorem takes_keep (s : Sender) (line : String) : takes (s.keep line).2.2 = [] := by
  obtain ⟨b, k, -⟩ | ⟨b, oldest, rest, k, -⟩ | ⟨b, k, -⟩ := s.keep_cases line
  all_goals
    rw [k]
    rfl

theorem asked_notMem_keep (s : Sender) (line : String) (id : CallId) (p : Phase) :
    .asked id p ∉ (s.keep line).2.2 := by
  obtain ⟨b, k, -⟩ | ⟨b, oldest, rest, k, -⟩ | ⟨b, k, -⟩ := s.keep_cases line
  all_goals
    rw [k]
    simp

theorem keep_ne_sent (s : Sender) (line : String) : (s.keep line).1 ≠ .sent := by
  obtain ⟨b, k, -⟩ | ⟨b, oldest, rest, k, -⟩ | ⟨b, k, -⟩ := s.keep_cases line
  all_goals
    rw [k]
    exact Outcome.noConfusion

theorem turn_ask (s : Sender) (id : CallId) (p : Phase)
    (h : ∀ line, p = .writing line → s.buffer.toList = []) : Turn s id p.job (s.ask id p) := by
  refine ⟨⟨rfl, rfl, rfl, rfl, rfl⟩, rfl, fun id' p' mem => ?_, .asks p rfl rfl rfl rfl h⟩
  cases List.mem_singleton.1 mem
  rfl

theorem turn_finish (s : Sender) (id : CallId) (job : Job) (a : Answer) (fits : a.Fits job)
    (unsent : a ≠ .outcome .sent) : Turn s id job (s.finish id a) := by
  refine ⟨⟨rfl, rfl, rfl, rfl, rfl⟩, rfl, fun id' p mem => ?_, .ends a rfl fits rfl rfl unsent⟩
  cases List.mem_singleton.1 mem

theorem turn_keepAndFinish (s : Sender) (id : CallId) (line : String) :
    Turn s id (.run (.send line)) (s.keepAndFinish id line) := by
  have kept := s.undisturbed_keep line
  refine ⟨⟨kept.queue, kept.retiring, kept.closed, kept.nextId, kept.policy⟩, ?_, ?_, ?_⟩
  · change takes ((s.keep line).2.2 ++ [.returned id _]) = []
    rw [takes_append, takes_keep]
    rfl
  · intro id' p mem
    obtain mem | mem := List.mem_append.1 mem
    · exact absurd mem (s.asked_notMem_keep line id' p)
    · cases List.mem_singleton.1 mem
  refine .ends (.outcome (s.keep line).1) rfl trivial ?_ ?_ ?_
  · change returns ((s.keep line).2.2 ++ [.returned id _]) = _
    rw [returns_append, returns_keep]
    rfl
  · exact congrArg (fun b => if b = some id then none else b) kept.background
  · exact fun e => s.keep_ne_sent line (Answer.outcome.inj e)

theorem countDrained_fields (s : Sender) (written : Nat) (interrupted : Bool) :
    (s.countDrained written interrupted).buffer = s.buffer ∧
      (s.countDrained written interrupted).background = s.background ∧
      (s.countDrained written interrupted).stats.sent = s.stats.sent ∧
      (s.countDrained written interrupted).stats.drained = s.stats.drained + written := by
  unfold countDrained
  dsimp only
  split <;> exact ⟨rfl, rfl, rfl, rfl⟩

theorem frame_countDrained (s : Sender) (written : Nat) (interrupted : Bool) :
    Frame s (s.countDrained written interrupted) := by
  unfold countDrained
  dsimp only
  split <;> exact ⟨rfl, rfl, rfl, rfl, rfl⟩

theorem turn_endDrain (s : Sender) (id : CallId) (errand : Errand) (written : Nat)
    (interrupted : Bool) (h : interrupted = false → s.buffer.toList = []) :
    Turn s id (.run errand) (s.endDrain id errand written interrupted) := by
  refine Turn.of_frame ?_ (s.frame_countDrained written interrupted)
    (s.countDrained_fields written interrupted).2.1
  cases errand with
  | send line =>
    cases interrupted with
    | true => exact turn_keepAndFinish ..
    | false =>
      refine turn_ask _ _ (.writing line) fun _ _ => ?_
      rw [(s.countDrained_fields written false).1]
      exact h rfl
  | drain => exact turn_finish _ id (.run .drain) (.drained _) trivial (by simp)
  | probe => exact turn_finish _ id (.run .probe) (.probed _) trivial (by simp)

theorem turn_pump (s : Sender) (id : CallId) (errand : Errand) (written : Nat) :
    Turn s id (.run errand) (s.pump id errand written) := by
  unfold pump
  split
  · rename_i line b h
    obtain ⟨-, policy, -⟩ := Buffer.toList_of_pop? h
    exact (turn_ask { s with buffer := b } id (.draining errand line written) (by simp)).of_frame
      ⟨rfl, rfl, rfl, rfl, policy⟩ rfl
  · rename_i h
    exact turn_endDrain s id errand written false fun _ => Buffer.pop?_eq_none.1 h

theorem turn_enter (s : Sender) (id : CallId) (job : Job) : Turn s id job (s.enter id job) := by
  unfold enter
  split
  · split
    · exact turn_keepAndFinish ..
    · split
      · rename_i h
        exact turn_ask _ _ (.writing _) fun _ _ => Buffer.isEmpty_iff.1 h
      · exact turn_pump ..
  · exact turn_pump ..
  · split
    · exact turn_finish s id (.run .probe) (.probed _) trivial (by simp)
    · dsimp only
      split
      · exact (turn_ask _ id .checking (by simp)).of_frame ⟨rfl, rfl, rfl, rfl, rfl⟩ rfl
      · exact (turn_ask _ id .connecting (by simp)).of_frame ⟨rfl, rfl, rfl, rfl, rfl⟩ rfl
  · exact turn_ask _ _ .closing (by simp)

theorem turn_recover (s : Sender) (id : CallId) : Turn s id (.run .probe) (s.recover id) := by
  unfold recover
  dsimp only
  split
  · exact (turn_finish _ id (.run .probe) (.probed _) trivial (by simp)).of_frame
      ⟨rfl, rfl, rfl, rfl, rfl⟩ rfl
  · exact (turn_pump ..).of_frame ⟨rfl, rfl, rfl, rfl, rfl⟩ rfl

theorem turn_succeed (s : Sender) (id : CallId) (p : Phase) (h : ∀ line, p ≠ .writing line) :
    Turn s id p.job (s.succeed id p) := by
  cases p with
  | draining errand line written =>
    exact (turn_pump s id errand (written + 1)).prepend [.accepted line] rfl rfl (by simp)
  | writing line => exact absurd rfl (h line)
  | checking => exact turn_recover ..
  | connecting => exact turn_recover ..
  | closing =>
    exact (turn_finish _ id .close .closed trivial (by simp)).of_frame ⟨rfl, rfl, rfl, rfl, rfl⟩ rfl

theorem turn_fail (s : Sender) (id : CallId) (p : Phase) : Turn s id p.job (s.fail id p) := by
  cases p with
  | draining errand line written =>
    have policy := (s.buffer.requeue_spec line).2.1
    refine Turn.prepend (Turn.of_frame (turn_endDrain _ id errand written true (by simp)) ?_ ?_)
      (.requeued line :: (s.buffer.requeue line).1.map .discarded) ?_ ?_ ?_
    · exact ⟨rfl, rfl, rfl, rfl, policy⟩
    · rfl
    · exact returns_discarded _
    · exact takes_discarded _
    · simp
  | writing line => exact (turn_keepAndFinish ..).of_frame ⟨rfl, rfl, rfl, rfl, rfl⟩ rfl
  | checking => exact (turn_ask _ _ .connecting (by simp)).of_frame ⟨rfl, rfl, rfl, rfl, rfl⟩ rfl
  | connecting =>
    exact (turn_finish _ id (.run .probe) (.probed _) trivial (by simp)).of_frame
      ⟨rfl, rfl, rfl, rfl, rfl⟩ rfl
  | closing =>
    exact (turn_finish _ id .close .closed trivial (by simp)).of_frame ⟨rfl, rfl, rfl, rfl, rfl⟩ rfl

theorem step_start {s : Sender} {op : Op} {r : Sender × List Effect}
    (h : s.step (.start op) = some r) : s.start op = r := by
  cases op with
  | tick elapsed =>
    simp only [step] at h
    split at h
    · cases h
    · exact Option.some.inj h
  | _ => exact Option.some.inj h

theorem step_reply {s : Sender} {reply : Reply} {r : Sender × List Effect}
    (h : s.step (.reply reply) = some r) :
    ∃ id p, s.holder = some (id, p) ∧
      ((reply.fault = none ∧ succeed { s with connected := reply.connected } id p = r) ∨
        (reply.fault ≠ none ∧ fail { s with connected := reply.connected } id p = r)) := by
  simp only [step] at h
  split at h
  · cases h
  · rename_i id p holder
    rw [Option.some.injEq] at h
    refine ⟨id, p, holder, ?_⟩
    split at h
    · rename_i ok
      exact .inl ⟨Option.isNone_iff_eq_none.1 ok, h⟩
    · rename_i failed
      exact .inr ⟨fun e => failed (by rw [e]; rfl), h⟩

theorem reply_cases {s s' : Sender} {reply : Reply} {fx : List Effect}
    (h : s.step (.reply reply) = some (s', fx)) :
    ∃ id p, s.holder = some (id, p) ∧
      ((∃ line, p = .writing line ∧ Frame s s' ∧ s'.holder = none ∧
          s'.background = (if s.background = some id then none else s.background) ∧
          fx = [.accepted line, .returned id (.outcome .sent)]) ∨
        Turn { s with connected := reply.connected } id p.job (s', fx)) := by
  obtain ⟨id, p, holder, ⟨-, h⟩ | ⟨-, h⟩⟩ := step_reply h
  · refine ⟨id, p, holder, ?_⟩
    by_cases hw : ∃ line, p = .writing line
    · obtain ⟨line, rfl⟩ := hw
      cases h
      exact .inl ⟨line, rfl, ⟨rfl, rfl, rfl, rfl, rfl⟩, rfl, rfl, rfl⟩
    · have := turn_succeed { s with connected := reply.connected } id p fun line e => hw ⟨line, e⟩
      rw [h] at this
      exact .inr this
  · have := turn_fail { s with connected := reply.connected } id p
    rw [h] at this
    exact ⟨id, p, holder, .inr this⟩

theorem step_grant {s : Sender} {r : Sender × List Effect} (h : s.step .grant = some r) :
    ∃ id job queue, s.holder = none ∧ s.queue = (id, job) :: queue ∧
      enter { s with queue } id job = r := by
  simp only [step] at h
  split at h
  · rename_i id job queue holder hq
    exact ⟨id, job, queue, holder, hq, Option.some.inj h⟩
  · cases h

theorem step_retire {s : Sender} {r : Sender × List Effect} (h : s.step .retire = some r) :
    ∃ id, s.retiring = some id ∧ s.background = none ∧
      arrive { s with retiring := none } id .close = r := by
  simp only [step] at h
  split at h
  · rename_i id retiring background
    exact ⟨id, retiring, background, Option.some.inj h⟩
  · cases h

theorem step_release {s : Sender} {r : Sender × List Effect} (h : s.step .release = some r) :
    0 < s.guards ∧
      ({ s with tracker := s.tracker.endWrite, guards := s.guards - 1 }, []) = r := by
  simp only [step] at h
  split at h
  · cases h
  · rename_i hg
    exact ⟨Nat.pos_of_ne_zero hg, Option.some.inj h⟩

/-- What becomes of the calls in a step: at most one of them returns, with an answer that fits. -/
inductive Turnover (calls calls' : List (CallId × Job)) (fx : List Effect) : Prop
  | stays (perm : calls'.Perm calls) (returns_eq : returns fx = [])
  | ends (id : CallId) (job : Job) (a : Answer) (perm : ((id, job) :: calls').Perm calls)
      (returns_eq : returns fx = [(id, a)]) (fits : a.Fits job)

theorem Turnover.of_perm {calls₁ calls₂ calls' : List (CallId × Job)} {fx : List Effect}
    (h : Turnover calls₁ calls' fx) (perm : calls₁.Perm calls₂) : Turnover calls₂ calls' fx := by
  cases h with
  | stays p returns_eq => exact .stays (p.trans perm) returns_eq
  | ends id job a p returns_eq fits => exact .ends id job a (p.trans perm) returns_eq fits

theorem Turn.turnover {s : Sender} {id : CallId} {job : Job} {r : Sender × List Effect}
    (h : Turn s id job r) : Turnover ((id, job) :: s.waiting) r.1.underway r.2 := by
  have waiting : r.1.waiting = s.waiting := by
    rw [Sender.waiting, h.frame.queue, h.frame.retiring]
    rfl
  cases h.fate with
  | asks p holder job_eq returns_eq _ _ =>
    refine .stays ?_ returns_eq
    rw [underway, waiting, holder, ← job_eq]
    rfl
  | ends a holder fits returns_eq _ _ =>
    refine .ends id job a ?_ returns_eq fits
    rw [underway, waiting, holder]
    rfl

theorem arrive_cases (s : Sender) (id : CallId) (job : Job) :
    (s.holder = none ∧ s.queue = [] ∧ s.arrive id job = s.enter id job) ∨
      s.arrive id job = ({ s with queue := s.queue ++ [(id, job)] }, []) := by
  unfold arrive
  split
  · rename_i free
    simp only [Bool.and_eq_true, Option.isNone_iff_eq_none, List.isEmpty_iff] at free
    exact .inl ⟨free.1, free.2, rfl⟩
  · exact .inr rfl

theorem turnover_arrive {s s' : Sender} (id : CallId) (job : Job) (h : s'.underway = s.underway) :
    Turnover ((id, job) :: s.underway) (s'.arrive id job).1.underway (s'.arrive id job).2 := by
  rw [← h]
  obtain ⟨holder, queue, e⟩ | e := s'.arrive_cases id job
  · have turnover := (turn_enter s' id job).turnover
    rw [e, underway, holder]
    exact turnover
  · rw [e]
    refine .stays ?_ rfl
    simp only [underway, waiting, ← List.append_cons]
    exact (List.perm_middle.append_left _).trans List.perm_middle

/-- The call that comes in with an event, if one does. A background task that finds nothing to do
makes no call. -/
def incoming (s : Sender) : Event → List (CallId × Job)
  | .start (.send line) => [(s.nextId, .run (.send (terminated line)))]
  | .start .drain => [(s.nextId, .run .drain)]
  | .start .probe => [(s.nextId, .run .probe)]
  | .start (.tick elapsed) =>
    if s.closed || (s.tracker.isUp && !s.tracker.isCheckDue elapsed) then []
    else [(s.nextId, .run .probe)]
  | .start .close => [(s.nextId, .close)]
  | _ => []

inductive Opening (s : Sender) (op : Op) (r : Sender × List Effect) : Prop
  | keeps (line : String) (op_eq : op = .send line) (s₁ : Sender)
      (counted : s₁ = { s with nextId := s.nextId + 1 })
      (r_eq : r = ((s₁.keep (terminated line)).2.1, (s₁.keep (terminated line)).2.2 ++
        [.returned s.nextId (.outcome (s₁.keep (terminated line)).1)]))
  | answers (job : Job) (a : Answer) (awake : ∀ elapsed, op ≠ .tick elapsed)
      (incoming : s.incoming (.start op) = [(s.nextId, job)]) (fits : a.Fits job)
      (unkept : ∀ o, a ≠ .outcome o)
      (r_eq : r = ({ s with nextId := s.nextId + 1 }, [.returned s.nextId a]))
  | arrives (job : Job) (s₁ : Sender) (awake : ∀ elapsed, op ≠ .tick elapsed)
      (incoming : s.incoming (.start op) = [(s.nextId, job)]) (tracker : Tracker)
      (counted : s₁ = { s with nextId := s.nextId + 1, tracker })
      (r_eq : r = s₁.arrive s.nextId job)
  | sleeps (elapsed : Nat) (op_eq : op = .tick elapsed) (incoming : s.incoming (.start op) = [])
      (r_eq : r = ({ s with nextId := s.nextId + 1 }, []))
  | wakes (elapsed : Nat) (op_eq : op = .tick elapsed)
      (incoming : s.incoming (.start op) = [(s.nextId, .run .probe)]) (was_open : s.closed = false)
      (s₁ : Sender) (counted : s₁ = { s with nextId := s.nextId + 1, background := some s.nextId })
      (r_eq : r = s₁.arrive s.nextId (.run .probe))
  | closes (op_eq : op = .close) (was_open : s.closed = false)
      (r_eq : r =
        ({ s with nextId := s.nextId + 1, closed := true, retiring := some s.nextId }, []))

theorem start_eq (s : Sender) (op : Op) :
    s.start op =
      let t := { s with nextId := s.nextId + 1 }
      match op with
      | .send line =>
        if s.closed || !s.tracker.canSend then
          ((t.keep (terminated line)).2.1, (t.keep (terminated line)).2.2 ++
            [.returned s.nextId (.outcome (t.keep (terminated line)).1)])
        else arrive { t with tracker := s.tracker.beginWrite } s.nextId
          (.run (.send (terminated line)))
      | .drain =>
        if s.closed || !s.tracker.isUp || s.buffer.isEmpty then
          (t, [.returned s.nextId (.drained ⟨0, s.buffer.size, false⟩)])
        else t.arrive s.nextId (.run .drain)
      | .probe =>
        if s.closed then (t, [.returned s.nextId (.probed s.state)])
        else t.arrive s.nextId (.run .probe)
      | .tick elapsed =>
        if s.closed || (s.tracker.isUp && !s.tracker.isCheckDue elapsed) then (t, [])
        else arrive { t with background := some s.nextId } s.nextId (.run .probe)
      | .close =>
        if s.closed then t.arrive s.nextId .close
        else ({ t with closed := true, retiring := some s.nextId }, []) := by
  unfold start screen
  cases op <;> dsimp only <;> split_ifs <;> rfl

theorem opening_start (s : Sender) (op : Op) : Opening s op (s.start op) := by
  cases op with
  | send line =>
    simp only [start_eq]
    split
    · exact .keeps line rfl _ rfl rfl
    · exact .arrives _ _ (by simp) rfl s.tracker.beginWrite rfl rfl
  | drain =>
    simp only [start_eq]
    split
    · exact .answers (.run .drain) (.drained _) (by simp) rfl trivial (by simp) rfl
    · exact .arrives _ _ (by simp) rfl s.tracker rfl rfl
  | probe =>
    simp only [start_eq]
    split
    · exact .answers (.run .probe) (.probed _) (by simp) rfl trivial (by simp) rfl
    · exact .arrives _ _ (by simp) rfl s.tracker rfl rfl
  | tick elapsed =>
    simp only [start_eq]
    split
    · rename_i asleep
      exact .sleeps elapsed rfl (if_pos asleep) rfl
    · rename_i awake
      have was_open : s.closed = false := by
        simp only [Bool.or_eq_true, not_or, Bool.not_eq_true] at awake
        exact awake.1
      exact .wakes elapsed rfl (if_neg awake) was_open _ rfl rfl
  | close =>
    simp only [start_eq]
    split
    · exact .arrives _ _ (by simp) rfl s.tracker rfl rfl
    · rename_i was_open
      exact .closes rfl (by simpa using was_open) rfl

theorem turnover_start (s : Sender) (op : Op) (open_ : s.closed = false → s.retiring = none) :
    Turnover (s.incoming (.start op) ++ s.underway) (s.start op).1.underway (s.start op).2 := by
  cases s.opening_start op with
  | keeps line op_eq s₁ counted r_eq =>
    have calls : s₁.underway = s.underway := by rw [counted]; rfl
    rw [r_eq, (s₁.undisturbed_keep _).underway_eq, calls, op_eq]
    refine .ends s.nextId (.run (.send _)) (.outcome (s₁.keep (terminated line)).1)
      (.refl _) ?_ trivial
    rw [returns_append, returns_keep]
    rfl
  | answers job a awake incoming fits unkept r_eq =>
    rw [r_eq, incoming]
    exact .ends _ job a (.refl _) rfl fits
  | arrives job s₁ awake incoming tracker counted r_eq =>
    rw [r_eq, incoming]
    exact turnover_arrive _ _ (by rw [counted]; rfl)
  | wakes elapsed op_eq incoming was_open s₁ counted r_eq =>
    rw [r_eq, incoming]
    exact turnover_arrive _ _ (by rw [counted]; rfl)
  | sleeps elapsed op_eq incoming r_eq =>
    rw [r_eq, incoming]
    exact .stays (.refl _) rfl
  | closes op_eq was_open r_eq =>
    rw [r_eq, op_eq]
    refine .stays ?_ rfl
    simp only [incoming, underway, waiting, open_ was_open, Option.toList, List.map,
      List.append_nil, ← List.append_assoc]
    exact List.perm_append_singleton ..

theorem turnover_step {s s' : Sender} {e : Event} {fx : List Effect}
    (h : s.step e = some (s', fx)) (open_ : s.closed = false → s.retiring = none) :
    Turnover (s.incoming e ++ s.underway) s'.underway fx := by
  cases e with
  | start op =>
    have := turnover_start s op open_
    rwa [step_start h] at this
  | reply r =>
    obtain ⟨id, p, holder, h⟩ := reply_cases h
    have calls : s.incoming (.reply r) ++ s.underway = (id, p.job) :: s.waiting := by
      rw [underway, holder]
      rfl
    rw [calls]
    obtain ⟨line, rfl, frame, holder', -, rfl⟩ | turn := h
    · refine .ends id (.run (.send line)) (.outcome .sent) (.of_eq ?_) rfl trivial
      rw [underway, holder', waiting, frame.queue, frame.retiring]
      rfl
    · exact turn.turnover
  | grant =>
    obtain ⟨id, job, queue, holder, hq, h⟩ := step_grant h
    have := (turn_enter { s with queue } id job).turnover
    rw [h] at this
    rw [underway, waiting, holder, hq]
    exact this
  | retire =>
    obtain ⟨id, retiring, -, h⟩ := step_retire h
    have := turnover_arrive (s := { s with retiring := none }) id .close rfl
    rw [h] at this
    refine this.of_perm ?_
    simp only [incoming, underway, waiting, retiring, Option.toList, List.map, List.append_nil,
      List.nil_append, ← List.append_assoc]
    exact (List.perm_append_singleton ..).symm
  | take => cases h; exact .stays (.refl _) rfl
  | markUp => cases h; exact .stays (.refl _) rfl
  | markDown => cases h; exact .stays (.refl _) rfl
  | hold => cases h; exact .stays (.refl _) rfl
  | release =>
    obtain ⟨-, h⟩ := step_release h
    cases h
    exact .stays (.refl _) rfl

structure Steady (s s' : Sender) (calls : Nat) : Prop where
  nextId : s'.nextId = s.nextId + calls
  policy : s'.buffer.policy = s.buffer.policy
  closed : s.closed = true → s'.closed = true
  open_ : (s.closed = false → s.retiring = none) → s'.closed = false → s'.retiring = none

theorem Frame.steady {s s' : Sender} (h : Frame s s') : Steady s s' 0 where
  nextId := h.nextId
  policy := h.policy
  closed hc := h.closed.trans hc
  open_ ho hc := h.retiring.trans (ho (h.closed.symm.trans hc))

theorem Steady.trans {s s' s'' : Sender} {n n' : Nat} (h : Steady s s' n)
    (h' : Steady s' s'' n') : Steady s s'' (n + n') where
  nextId := by rw [h'.nextId, h.nextId, Nat.add_assoc]
  policy := h'.policy.trans h.policy
  closed hc := h'.closed (h.closed hc)
  open_ ho := h'.open_ (h.open_ ho)

theorem steady_arrive (s : Sender) (id : CallId) (job : Job) : Steady s (s.arrive id job).1 0 := by
  obtain ⟨-, -, e⟩ | e := s.arrive_cases id job
  · rw [e]
    exact (turn_enter s id job).frame.steady
  · rw [e]
    exact ⟨rfl, rfl, fun h => h, fun h => h⟩

theorem steady_start (s : Sender) (op : Op) : Steady s (s.start op).1 1 := by
  have counted (tracker : Tracker) (background : Option CallId) :
      Steady s { s with nextId := s.nextId + 1, tracker, background } 1 :=
    ⟨rfl, rfl, fun h => h, fun h => h⟩
  cases s.opening_start op with
  | keeps line op_eq s₁ counted' r_eq =>
    rw [r_eq]
    exact (counted' ▸ counted s.tracker s.background).trans (s₁.undisturbed_keep _).toFrame.steady
  | answers job a awake incoming fits unkept r_eq =>
    rw [r_eq]
    exact counted ..
  | arrives job s₁ awake incoming tracker counted' r_eq =>
    rw [r_eq]
    exact (counted' ▸ counted tracker s.background).trans (steady_arrive ..)
  | wakes elapsed op_eq incoming was_open s₁ counted' r_eq =>
    rw [r_eq]
    exact (counted' ▸ counted s.tracker (some s.nextId)).trans (steady_arrive ..)
  | sleeps elapsed op_eq incoming r_eq =>
    rw [r_eq]
    exact counted ..
  | closes op_eq was_open r_eq =>
    rw [r_eq]
    exact ⟨rfl, rfl, fun _ => rfl, fun _ h => nomatch h⟩

theorem steady_step {s s' : Sender} {e : Event} {fx : List Effect}
    (h : s.step e = some (s', fx)) : Steady s s' e.calls := by
  cases e with
  | start op =>
    have := steady_start s op
    rwa [step_start h] at this
  | reply r =>
    obtain ⟨id, p, -, ⟨line, -, frame, -⟩ | turn⟩ := reply_cases h
    · exact frame.steady
    · have begun : Steady s { s with connected := r.connected } 0 :=
        ⟨rfl, rfl, fun h => h, fun h => h⟩
      exact begun.trans turn.frame.steady
  | grant =>
    obtain ⟨id, job, queue, -, -, h⟩ := step_grant h
    have turn := turn_enter { s with queue } id job
    rw [h] at turn
    have begun : Steady s { s with queue } 0 := ⟨rfl, rfl, fun h => h, fun h => h⟩
    exact begun.trans turn.frame.steady
  | retire =>
    obtain ⟨id, -, -, h⟩ := step_retire h
    have arrived := steady_arrive { s with retiring := none } id .close
    rw [h] at arrived
    have begun : Steady s { s with retiring := none } 0 := ⟨rfl, rfl, fun h => h, fun _ _ => rfl⟩
    exact begun.trans arrived
  | take => cases h; exact ⟨rfl, rfl, fun h => h, fun h => h⟩
  | markUp => cases h; exact ⟨rfl, rfl, fun h => h, fun h => h⟩
  | markDown => cases h; exact ⟨rfl, rfl, fun h => h, fun h => h⟩
  | hold => cases h; exact ⟨rfl, rfl, fun h => h, fun h => h⟩
  | release =>
    obtain ⟨-, h⟩ := step_release h
    cases h
    exact ⟨rfl, rfl, fun h => h, fun h => h⟩

end Sender

end MetricRelay
