import Mathlib.Data.List.Forall2
import MetricRelay.Proofs.Transport.Recorded
import MetricRelay.Text.Utf8

/-!
What the connections of a link carry: each one the lines that were written on it, in order, and at
most a part of one more, after which nothing comes.
-/
namespace MetricRelay

/-- A network on which somebody listens in. -/
structure Tapped (ν : Type) where
  network : ν
  /-- How many bytes get through of a text whose writing does not end well. -/
  through : String → ν → Nat
  /-- What has been put on each connection, the newest one first. Last comes what has been put where
  there was none. -/
  carried : List Bytes

namespace Tapped

variable {ν : Type}

def start (through : String → ν → Nat) (network : ν) : Tapped ν := ⟨network, through, [[]]⟩

def sent (l : Tapped ν) (text : String) : PutResult → Bytes
  | .done => Text.bytes text
  | .timedOut => (Text.bytes text).take (l.through text l.network)
  | .failed _ => (Text.bytes text).take (l.through text l.network)

instance [Network ν] : Network (Tapped ν) where
  connect host port nodelay l :=
    let (result, network) := Network.connect host port nodelay l.network
    (result,
      { l with network, carried := if result = .opened then [] :: l.carried else l.carried })
  put text l :=
    let (result, network) := Network.put text l.network
    (result, { l with network, carried := l.carried.modifyHead (· ++ l.sent text result) })
  poll l :=
    let (result, network) := Network.poll l.network
    (result, { l with network })
  close l := { l with network := Network.close l.network }

end Tapped

namespace Tcp

structure Call where
  request : Request
  reply : Reply
  deriving DecidableEq, Repr

namespace Call

def opens (c : Call) : Bool := c.request = .connect && c.reply.fault.isNone

def Keeps (c : Call) : Prop :=
  c.opens = false ∧ c.request ≠ .shutdown ∧ c.reply.fault = none

def written (c : Call) : List String := if c.reply.fault.isNone then c.request.texts else []

def Breaks (c : Call) (line : String) : Prop :=
  c.request = .write line ∧ c.reply.fault.isSome = true ∧ c.reply.fault ≠ some .notConnected

end Call

def Standing (log : List Call) : Prop :=
  ∃ before c after, log = before ++ c :: after ∧ c.opens = true ∧ ∀ c ∈ after, c.Keeps

def Silent (calls : List Call) : Prop := ∀ c ∈ calls, c.written = []

/-- The calls that were made on a connection put these bytes on it: the lines that were written, and
perhaps a part of a line with which the connection broke. -/
def Carries (calls : List Call) (data : Bytes) : Prop :=
  ∃ part, data = (calls.flatMap Call.written).flatMap Text.bytes ++ part ∧
    (part = [] ∨ ∃ before c after line, calls = before ++ c :: after ∧ c.Breaks line ∧
      part <+: Text.bytes line ∧ Silent after)

def Continues (connected : Bool) (calls : List Call) (data : Bytes) : Prop :=
  if connected then Carries calls data else data = [] ∧ Silent calls

section

variable {c : Call} {calls log : List Call} {data part : Bytes} {line : String}

theorem standing_cons :
    Standing (c :: log) ↔ (c.opens = true ∧ ∀ c ∈ log, c.Keeps) ∨ Standing log := by
  constructor
  · rintro ⟨before, c', after, split, opens, keeps⟩
    cases before with
    | nil =>
      cases split
      exact .inl ⟨opens, keeps⟩
    | cons _ before =>
      cases split
      exact .inr ⟨before, c', after, rfl, opens, keeps⟩
  · rintro (⟨opens, keeps⟩ | ⟨before, c', after, rfl, opens, keeps⟩)
    · exact ⟨[], c, log, rfl, opens, keeps⟩
    · exact ⟨c :: before, c', after, rfl, opens, keeps⟩

namespace Call.Breaks

theorem opens (h : c.Breaks line) : c.opens = false := by simp [Call.opens, h.1]

theorem not_keeps (h : c.Breaks line) : ¬c.Keeps := by
  intro keeps
  have failed := h.2.1
  rw [keeps.2.2] at failed
  cases failed

theorem written (h : c.Breaks line) : c.written = [] := by
  have failed : c.reply.fault.isNone = false := by simpa using h.2.1
  rw [Call.written, failed]
  rfl

end Call.Breaks

theorem Silent.carries (h : Silent calls) : Carries calls [] :=
  ⟨[], by rw [List.flatMap_eq_nil_iff.2 h]; rfl, .inl rfl⟩

theorem Silent.continues (h : Silent calls) (connected : Bool) : Continues connected calls [] := by
  cases connected with
  | false => exact ⟨rfl, h⟩
  | true => exact h.carries

theorem Carries.cons (h : Carries calls data) (c : Call) :
    Carries (c :: calls) (c.written.flatMap Text.bytes ++ data) := by
  obtain ⟨part, rfl, broken⟩ := h
  refine ⟨part, by rw [List.flatMap_cons, List.flatMap_append, List.append_assoc], ?_⟩
  refine broken.imp_right ?_
  rintro ⟨before, c', after, line, rfl, breaks, within, silent⟩
  exact ⟨c :: before, c', after, line, rfl, breaks, within, silent⟩

theorem Call.Breaks.carries (h : c.Breaks line) (within : part <+: Text.bytes line)
    (silent : Silent calls) : Carries (c :: calls) part := by
  refine ⟨part, ?_, .inr ⟨[], c, calls, line, rfl, h, within, silent⟩⟩
  rw [List.flatMap_cons, h.written, List.flatMap_eq_nil_iff.2 silent]
  rfl

end

variable {ν : Type}

theorem modifyHead_append_nil (l : List Bytes) : l.modifyHead (· ++ []) = l := by
  cases l <;> simp

/-- What a call can do to a link. -/
inductive Step (c : Call) (t t' : Tcp (Tapped ν)) : Prop
  | opened (opens : c.opens = true) (after : t'.connected = true)
      (carried : t'.network.carried = [] :: t.network.carried)
  | kept (keeps : c.Keeps) (before : t.connected = true) (after : t'.connected = true)
      (carried : t'.network.carried =
        t.network.carried.modifyHead (· ++ c.written.flatMap Text.bytes))
  | lost (closed : c.opens = false) (keeps : ¬c.Keeps) (written : c.written = [])
      (after : t'.connected = false) (carried : t'.network.carried = t.network.carried)
  | broken (line : String) (part : Bytes) (breaks : c.Breaks line) (before : t.connected = true)
      (after : t'.connected = false) (within : part <+: Text.bytes line)
      (carried : t'.network.carried = t.network.carried.modifyHead (· ++ part))

variable [Network ν]

theorem carried_shutdown (t : Tcp (Tapped ν)) :
    t.shutdown.network.carried = t.network.carried := by
  unfold shutdown
  split <;> rfl

theorem step_connect (t : Tcp (Tapped ν)) : Step ⟨.connect, t.connect.1⟩ t t.connect.2 := by
  have same := t.carried_shutdown
  unfold connect
  dsimp only [Network.connect]
  generalize t.shutdown = t₁ at same
  rcases Network.connect t₁.config.host t₁.config.port t₁.config.nodelay t₁.network.network with
    ⟨result, network⟩
  cases result with
  | opened => exact .opened rfl rfl (congrArg _ same)
  | unset | timedOut | failed => exact .lost rfl (fun keeps => nomatch keeps.2.2) rfl rfl same

theorem step_check (t : Tcp (Tapped ν)) : Step ⟨.check, t.check.1⟩ t t.check.2 := by
  unfold check
  split
  · rename_i lost
    exact .lost rfl (fun keeps => nomatch keeps.2.2) rfl (by simpa using lost) rfl
  · rename_i connected
    have connected : t.connected = true := by simpa using connected
    dsimp only [Network.poll]
    rcases Network.poll t.network.network with ⟨result, network⟩
    cases result with
    | nothing | data =>
      exact .kept ⟨rfl, nofun, rfl⟩ connected connected (modifyHead_append_nil _).symm
    | ended | failed => exact .lost rfl (fun keeps => nomatch keeps.2.2) rfl rfl rfl

theorem step_write (line : String) (t : Tcp (Tapped ν)) :
    Step ⟨.write line, (t.write line).1⟩ t (t.write line).2 := by
  unfold write
  split
  · rename_i lost
    exact .lost rfl (fun keeps => nomatch keeps.2.2) rfl (by simpa using lost) rfl
  · rename_i connected
    have connected : t.connected = true := by simpa using connected
    dsimp only [Network.put]
    rcases Network.put line t.network.network with ⟨result, network⟩
    cases result with
    | done =>
      refine .kept ⟨rfl, nofun, rfl⟩ connected connected ?_
      simp [go, Call.written, Request.texts, Tapped.sent]
    | timedOut | failed =>
      exact .broken line _ ⟨rfl, rfl, nofun⟩ connected rfl (List.take_prefix ..) rfl

theorem step_serve (r : Request) (t : Tcp (Tapped ν)) :
    Step ⟨r, (Transport.serve r t).1⟩ t (Transport.serve r t).2 := by
  cases r with
  | connect => exact t.step_connect
  | check => exact t.step_check
  | write line => exact t.step_write line
  | shutdown =>
    refine .lost rfl (fun keeps => keeps.2.1 rfl) rfl ?_ t.carried_shutdown
    change t.shutdown.connected = false
    unfold shutdown
    split
    · rfl
    · rename_i lost
      simpa using lost

def serveAll : List Request → Tcp (Tapped ν) → List Call × Tcp (Tapped ν)
  | [], t => ([], t)
  | r :: rs, t =>
    let (reply, t) := Transport.serve r t
    let (log, t) := serveAll rs t
    (⟨r, reply⟩ :: log, t)

theorem connected_serveAll (rs : List Request) (t : Tcp (Tapped ν)) :
    (t.serveAll rs).2.connected = true ↔
      (t.connected = true ∧ ∀ c ∈ (t.serveAll rs).1, c.Keeps) ∨ Standing (t.serveAll rs).1 := by
  induction rs generalizing t with
  | nil =>
    have none_ : ¬Standing [] := by
      rintro ⟨before, c, after, split, -⟩
      cases before <;> cases split
    simp [serveAll, none_]
  | cons r rs ih =>
    have step := t.step_serve r
    rw [serveAll, ih, standing_cons, List.forall_mem_cons]
    generalize (⟨r, (Transport.serve r t).1⟩ : Call) = c at step
    cases step with
    | opened opens after =>
      have moved : ¬c.Keeps := fun keeps => by simp [keeps.1] at opens
      simp [after, opens, moved]
    | kept keeps before after => simp [before, after, keeps, keeps.1]
    | lost closed keeps _ after => simp [closed, keeps, after]
    | broken line part breaks before after => simp [breaks.opens, breaks.not_keeps, after]

theorem carried_serveAll {older : List Bytes} {b : Bytes} (rs : List Request)
    {t : Tcp (Tapped ν)} (h : t.network.carried = b :: older) :
    ∃ first later data rest,
      (t.serveAll rs).1.splitOnP Call.opens = first :: later ∧
      (t.serveAll rs).2.network.carried.reverse = older.reverse ++ (b ++ data) :: rest ∧
      Continues t.connected first data ∧ List.Forall₂ Carries later rest := by
  induction rs generalizing t older b with
  | nil =>
    have silent : Silent [] := List.forall_mem_nil _
    exact ⟨[], [], [], [], rfl, by simp [serveAll, h], silent.continues _, .nil⟩
  | cons r rs ih =>
    have step := t.step_serve r
    rw [serveAll]
    dsimp only
    generalize (⟨r, (Transport.serve r t).1⟩ : Call) = c at step
    rw [List.splitOnP_cons_eq_if_modifyHead]
    cases step with
    | opened opens after carried =>
      rw [h] at carried
      obtain ⟨first, later, data, rest, split, total, now, others⟩ := ih carried
      rw [after] at now
      have silent : Silent [] := List.forall_mem_nil _
      refine ⟨[], first :: later, [], data :: rest, ?_, ?_, silent.continues _, .cons now others⟩
      · rw [if_pos opens, split]
      · rw [total, List.append_nil, List.reverse_cons, List.append_assoc]
        rfl
    | kept keeps before after carried =>
      rw [h, List.modifyHead_cons] at carried
      obtain ⟨first, later, data, rest, split, total, now, others⟩ := ih carried
      rw [after] at now
      refine ⟨c :: first, later, c.written.flatMap Text.bytes ++ data, rest, ?_, ?_, ?_, others⟩
      · rw [if_neg (by simp [keeps.1]), split, List.modifyHead_cons]
      · rw [total, List.append_assoc]
      · rw [before]
        exact Carries.cons now c
    | lost closed keeps written after carried =>
      -- Nothing is put on a connection that is gone, up to the call that opens the next one.
      rw [h] at carried
      obtain ⟨first, later, data, rest, split, total, now, others⟩ := ih carried
      rw [after] at now
      obtain ⟨rfl, silent⟩ := now
      have silent : Silent (c :: first) := List.forall_mem_cons.2 ⟨written, silent⟩
      refine ⟨c :: first, later, [], rest, ?_, total, silent.continues _, others⟩
      rw [if_neg (by simp [closed]), split, List.modifyHead_cons]
    | broken line part breaks before after within carried =>
      rw [h, List.modifyHead_cons] at carried
      obtain ⟨first, later, data, rest, split, total, now, others⟩ := ih carried
      rw [after] at now
      obtain ⟨rfl, silent⟩ := now
      refine ⟨c :: first, later, part, rest, ?_, ?_, ?_, others⟩
      · rw [if_neg (by simp [breaks.opens]), split, List.modifyHead_cons]
      · rw [total, List.append_nil]
      · rw [before]
        exact breaks.carries within silent

theorem serve_of_lost {t : Tcp ν} (lost : t.connected = false) {r : Request}
    (asked : r = .check ∨ ∃ line, r = .write line) :
    Transport.serve r t = (⟨some .notConnected, false⟩, t) := by
  obtain rfl | ⟨line, rfl⟩ := asked
  · exact if_pos (by rw [lost]; rfl)
  · exact if_pos (by rw [lost]; rfl)

theorem check_eq_none_iff {t : Tcp ν} :
    t.check.1.fault = none ↔ t.connected = true ∧
      ((Network.poll t.network).1 = .nothing ∨ (Network.poll t.network).1 = .data) := by
  unfold check
  cases t.connected with
  | false => simp
  | true =>
    rcases Network.poll t.network with ⟨result, network⟩
    cases result <;> simp [go, abandon]

/-- Whatever is asked of a link and however the network behaves, the link is connected exactly if a
connection was opened and since then nothing failed and none was shut down or opened anew. Without a
connection a check or a line is refused and nothing is asked of the network. Each connection carries
the lines that were written on it, in order, and at most a part of one that could not be written, and
nothing after that; nothing is put where there is no connection. A check fails only if there is no
connection, or it has ended or failed: data to read does not matter. -/
theorem carried_of_new (config : TcpConfig) (through : String → ν → Nat) (network : ν)
    (rs : List Request) :
    let served := serveAll rs (new config (.start through network))
    let log := served.1
    let t := served.2
    (t.connected = true ↔ Standing log) ∧
      (t.connected = false → ∀ r, (r = .check ∨ ∃ line, r = .write line) →
        Transport.serve r t = (⟨some .notConnected, false⟩, t)) ∧
      (∃ connections, t.network.carried.reverse = [] :: connections ∧
        List.Forall₂ Carries (log.splitOnP Call.opens).tail connections) ∧
      ((Transport.serve .check t).1.fault = none ↔ t.connected = true ∧
        ((Network.poll t.network).1 = .nothing ∨ (Network.poll t.network).1 = .data)) := by
  intro served log t
  refine ⟨?_, fun lost r => serve_of_lost lost, ?_, check_eq_none_iff⟩
  · rw [connected_serveAll]
    exact or_iff_right fun before => nomatch before.1
  · have start : (new config (Tapped.start through network)).network.carried = [] :: [] := rfl
    obtain ⟨first, later, data, rest, split, total, now, others⟩ := carried_serveAll rs start
    obtain ⟨rfl, -⟩ := now
    exact ⟨rest, total, by rwa [split]⟩

structure Script where
  opens : List OpenResult
  puts : List PutResult
  polls : List PollResult

instance : Network Script where
  connect _ _ _ s := (s.opens.headD .opened, { s with opens := s.opens.tail })
  put _ s := (s.puts.headD .done, { s with puts := s.puts.tail })
  poll s := (s.polls.headD .nothing, { s with polls := s.polls.tail })
  close s := s

def mishaps : List Request :=
  [.write "x\n", .connect, .write "a\n", .write "bc\n", .write "d\n", .connect, .connect, .check,
    .write "e\n", .shutdown, .write "f\n"]

def mishapNetwork : Script := ⟨[.opened, .timedOut], [.done, .timedOut], [.data]⟩

theorem carried_of_new_broken :
    let served := serveAll mishaps (new .default (.start (fun _ _ => 1) mishapNetwork))
    let log := served.1
    let t := served.2
    t.network.carried.reverse = ["", "a\nb", "e\n"].map Text.bytes ∧
      List.Forall₂ Carries (log.splitOnP Call.opens).tail (["a\nb", "e\n"].map Text.bytes) ∧
      ¬Standing log ∧ Transport.serve (.write "g\n") t = (⟨some .notConnected, false⟩, t) := by
  intro served log t
  obtain ⟨standing, refused, ⟨connections, total, carries⟩, -⟩ :=
    carried_of_new .default (fun _ _ => 1) mishapNetwork mishaps
  have seen : t.network.carried.reverse = ["", "a\nb", "e\n"].map Text.bytes := by decide +kernel
  have lost : t.connected = false := by decide +kernel
  obtain ⟨-, rfl⟩ := List.cons.inj (total.symm.trans seen)
  exact ⟨seen, carries, standing.not.1 (by rw [lost]; decide), refused lost _ (.inr ⟨_, rfl⟩)⟩

end Tcp

end MetricRelay
