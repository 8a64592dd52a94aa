import MetricRelay.Proofs.Buffer.Refinement
import MetricRelay.Proofs.Sender.Usable

/-!
What a sender does to its buffer. Every step goes through the acts of a buffer and nothing else, so
that whatever holds of a buffer that is put to use holds of one in a sender.
-/
namespace MetricRelay

namespace Buffer

variable {b b' b'' : Buffer}

def Becomes (b b' : Buffer) : Prop := ∃ as, (b.acts as).2 = b'

theorem Becomes.refl (b : Buffer) : b.Becomes b := ⟨[], rfl⟩

theorem Becomes.act (b : Buffer) (a : Act) : b.Becomes (b.act a).2 := ⟨[a], rfl⟩

theorem acts_append (b : Buffer) (as as' : List Act) :
    (b.acts (as ++ as')).2 = ((b.acts as).2.acts as').2 := by
  induction as generalizing b with
  | nil => rfl
  | cons a as ih => exact ih (b.act a).2

theorem Becomes.trans (h : b.Becomes b') (h' : b'.Becomes b'') : b.Becomes b'' := by
  obtain ⟨as, rfl⟩ := h
  obtain ⟨as', rfl⟩ := h'
  exact ⟨as ++ as', b.acts_append as as'⟩

theorem Becomes.pop {line : String} (h : b.pop? = some (line, b')) : b.Becomes b' := by
  have popped := Becomes.act b .pop
  rwa [Buffer.act, h] at popped

theorem Becomes.bounded (h : b.Becomes b') (bounded : Bounded b) : Bounded b' := by
  obtain ⟨as, rfl⟩ := h
  exact bounded.acts as

theorem Becomes.capacity (h : b.Becomes b') (bounded : Bounded b) : b'.capacity = b.capacity := by
  obtain ⟨as, rfl⟩ := h
  exact capacity_acts bounded as

end Buffer

namespace Sender

variable {s s' : Sender} {e : Event} {fx : List Effect}

theorem buffer_keep (s : Sender) (line : String) :
    (s.keep line).2.1.buffer = (s.buffer.push line).2 := by
  unfold keep
  rcases s.buffer.push line with ⟨outcome, b⟩
  cases outcome <;> rfl

theorem becomes_keep (s : Sender) (line : String) :
    s.buffer.Becomes (s.keep line).2.1.buffer := by
  rw [buffer_keep]
  exact .act s.buffer (.push line)

theorem becomes_keepAndFinish (s : Sender) (id : CallId) (line : String) :
    s.buffer.Becomes (s.keepAndFinish id line).1.buffer := s.becomes_keep line

theorem becomes_endDrain (s : Sender) (id : CallId) (errand : Errand) (written : Nat)
    (interrupted : Bool) :
    s.buffer.Becomes (s.endDrain id errand written interrupted).1.buffer := by
  have buffer := (s.countDrained_fields written interrupted).1
  cases errand with
  | send line =>
    cases interrupted with
    | true => exact buffer ▸ (s.countDrained written true).becomes_keepAndFinish id line
    | false => exact buffer ▸ .refl _
  | drain => exact buffer ▸ .refl _
  | probe => exact buffer ▸ .refl _

theorem becomes_pump (s : Sender) (id : CallId) (errand : Errand) (written : Nat) :
    s.buffer.Becomes (s.pump id errand written).1.buffer := by
  unfold pump
  split
  · rename_i line b hb
    exact .pop hb
  · exact s.becomes_endDrain id errand written false

theorem becomes_enter (s : Sender) (id : CallId) (job : Job) :
    s.buffer.Becomes (s.enter id job).1.buffer := by
  unfold enter
  split
  · split
    · exact s.becomes_keepAndFinish ..
    · split
      · exact .refl _
      · exact s.becomes_pump ..
  · exact s.becomes_pump ..
  · split
    · exact .refl _
    · exact .refl _
  · exact .refl _

theorem becomes_arrive (s : Sender) (id : CallId) (job : Job) :
    s.buffer.Becomes (s.arrive id job).1.buffer := by
  obtain ⟨-, -, e⟩ | e := s.arrive_cases id job
  · rw [e]
    exact s.becomes_enter id job
  · rw [e]
    exact .refl _

def revived (s : Sender) : Sender :=
  { s with
    tracker := s.tracker.markUp.2
    stats := { s.stats with
      reconnects :=
        if s.tracker.markUp.1 then s.stats.reconnects + 1 else s.stats.reconnects } }

theorem pump_of_nil {id : CallId} {errand : Errand} {written : Nat} (empty : s.buffer.toList = []) :
    s.pump id errand written = s.endDrain id errand written false := by
  rw [pump, Buffer.pop?_eq_none.2 empty]

theorem recover_eq_pump (s : Sender) (id : CallId) :
    s.recover id = s.revived.pump id .probe 0 := by
  unfold recover
  dsimp only
  split
  · rename_i empty
    have empty : s.revived.buffer.toList = [] := Buffer.isEmpty_iff.1 empty
    rw [pump_of_nil empty]
    rfl
  · rfl

theorem becomes_recover (s : Sender) (id : CallId) :
    s.buffer.Becomes (s.recover id).1.buffer := by
  rw [recover_eq_pump]
  exact s.revived.becomes_pump id .probe 0

theorem becomes_succeed (s : Sender) (id : CallId) (p : Phase) :
    s.buffer.Becomes (s.succeed id p).1.buffer := by
  cases p with
  | draining errand line written => exact s.becomes_pump id errand (written + 1)
  | checking => exact s.becomes_recover id
  | connecting => exact s.becomes_recover id
  | _ => exact .refl _

theorem becomes_fail (s : Sender) (id : CallId) (p : Phase) :
    s.buffer.Becomes (s.fail id p).1.buffer := by
  cases p with
  | draining errand line written =>
    let back := countWriteFailure { s with buffer := (s.buffer.requeue line).2 }
    exact (Buffer.Becomes.act s.buffer (.requeue line)).trans
      (back.markDown.becomes_endDrain id errand written true)
  | writing line => exact s.countWriteFailure.markDown.becomes_keepAndFinish id line
  | _ => exact .refl _

theorem becomes_screen (s : Sender) (op : Op) : s.buffer.Becomes (s.screen op).2.1.buffer := by
  cases op with
  | send line =>
    simp only [screen]
    split
    · exact becomes_keep { s with nextId := s.nextId + 1 } (terminated line)
    · exact .refl _
  | _ =>
    simp only [screen]
    split
    · exact .refl _
    · exact .refl _

theorem becomes_start (s : Sender) (op : Op) : s.buffer.Becomes (s.start op).1.buffer := by
  have admitted := s.becomes_screen op
  unfold start
  split
  · rename_i id job t _ hr
    rw [hr] at admitted
    exact admitted.trans (t.becomes_arrive id job)
  · rename_i hr
    rwa [hr] at admitted

theorem becomes_step (h : s.step e = some (s', fx)) : s.buffer.Becomes s'.buffer := by
  cases e with
  | start op =>
    have := s.becomes_start op
    rwa [step_start h] at this
  | reply r =>
    obtain ⟨id, p, -, ⟨-, h⟩ | ⟨-, h⟩⟩ := step_reply h
    · have := becomes_succeed { s with connected := r.connected } id p
      rwa [h] at this
    · have := becomes_fail { s with connected := r.connected } id p
      rwa [h] at this
  | grant =>
    obtain ⟨id, job, queue, -, -, h⟩ := step_grant h
    have := becomes_enter { s with queue } id job
    rwa [h] at this
  | retire =>
    obtain ⟨id, -, -, h⟩ := step_retire h
    have := becomes_arrive { s with retiring := none } id .close
    rwa [h] at this
  | take =>
    cases h
    exact .act s.buffer .take
  | release =>
    obtain ⟨-, h⟩ := step_release h
    cases h
    exact .refl _
  | _ =>
    cases h
    exact .refl _

theorem becomes_run {es : List Event} (h : s.run es = some (s', fx)) :
    s.buffer.Becomes s'.buffer := by
  induction es generalizing s fx with
  | nil =>
    cases h
    exact .refl _
  | cons e es ih =>
    obtain ⟨s₁, fx₁, fx₂, step, run, -⟩ := run_cons.1 h
    exact (becomes_step step).trans (ih run)

theorem bounded_of_build {config : SenderConfig} {state : LinkState} {connected : Bool}
    (h : build config state connected = .ok s) : s.buffer.Bounded := by
  unfold build at h
  split at h
  · cases h
  · rename_i created
    cases h
    exact (Buffer.bounded_of_create created).1

theorem Started.bounded (h : Started s) : s.buffer.Bounded := by
  obtain ⟨config, endpoint, reply, built⟩ | ⟨config, hasRuntime, built⟩ := h
  · obtain ⟨-, -, s₁, built', rfl⟩ := startConnected_ok built
    have bounded : s₁.buffer.Bounded := bounded_of_build built'
    exact bounded
  · exact bounded_of_build (startDisconnected_ok built).2.2

theorem Begun.bounded {first : List (Request × Reply)} (h : Begun s first) :
    s.buffer.Bounded := by
  cases h with
  | connected built => exact Started.bounded (.inl ⟨_, _, _, built⟩)
  | @disconnected config hasRuntime s is_open built =>
    have bounded := Started.bounded (.inr ⟨_, _, built⟩)
    exact bounded

theorem Begun.bounded_run {first : List (Request × Reply)} {es : List Event} (h : Begun s first)
    (run : s.run es = some (s', fx)) : s'.buffer.Bounded := (becomes_run run).bounded h.bounded

end Sender

end MetricRelay
