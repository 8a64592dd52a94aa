import Mathlib.Algebra.GroupWithZero.Nat
import MetricRelay.Proofs.Buffer

namespace MetricRelay

namespace Buffer

inductive Act
  | push (line : String)
  | requeue (line : String)
  | pop
  | take
  deriving DecidableEq, Repr

inductive Gain
  | pushed (outcome : PushOutcome)
  | requeued (gone : List String)
  | popped (line : Option String)
  | took (lines : List String)
  deriving DecidableEq, Repr

def Act.isRequeue : Act → Bool
  | requeue _ => true
  | _ => false

def Gain.isRefusal : Gain → Bool
  | pushed (.refused _) => true
  | _ => false

def act (b : Buffer) : Act → Gain × Buffer
  | .push line => (.pushed (b.push line).1, (b.push line).2)
  | .requeue line => (.requeued (b.requeue line).1, (b.requeue line).2)
  | .pop =>
    match b.pop? with
    | some (line, b) => (.popped (some line), b)
    | none => (.popped none, b)
  | .take => (.took b.takeAll.1, b.takeAll.2)

def acts (b : Buffer) : List Act → List Gain × Buffer
  | [] => ([], b)
  | a :: as => ((b.act a).1 :: ((b.act a).2.acts as).1, ((b.act a).2.acts as).2)

end Buffer

structure LineQueue where
  capacity : Nat
  policy : OverflowPolicy
  lines : List String
  deriving DecidableEq, Repr

namespace LineQueue

open Buffer (Act Gain)

def push (q : LineQueue) (line : String) : PushOutcome × LineQueue :=
  if q.lines.length < q.capacity then (.queued, { q with lines := q.lines ++ [line] })
  else
    match q.policy with
    | .rejectNewest => (.refused (.full q.capacity), q)
    | .dropOldest =>
      match q.lines with
      | [] => (.queued, { q with lines := [line] })
      | oldest :: rest => (.queuedAfterDrop oldest, { q with lines := rest ++ [line] })

def requeue (q : LineQueue) (line : String) : List String × LineQueue :=
  let lines := line :: q.lines
  if lines.length ≤ q.capacity then ([], { q with lines })
  else
    match q.policy with
    | .dropOldest => (lines.take 1, { q with lines := lines.tail })
    | .rejectNewest => (lines.getLast?.toList, { q with lines := lines.dropLast })

def act (q : LineQueue) : Act → Gain × LineQueue
  | .push line => (.pushed (q.push line).1, (q.push line).2)
  | .requeue line => (.requeued (q.requeue line).1, (q.requeue line).2)
  | .pop => (.popped q.lines.head?, { q with lines := q.lines.tail })
  | .take => (.took q.lines, { q with lines := [] })

def acts (q : LineQueue) : List Act → List Gain × LineQueue
  | [] => ([], q)
  | a :: as => ((q.act a).1 :: ((q.act a).2.acts as).1, ((q.act a).2.acts as).2)

section

variable {q : LineQueue} {line : String} {rest : List String}

theorem push_of_room (room : q.lines.length < q.capacity) :
    q.push line = (.queued, { q with lines := q.lines ++ [line] }) := if_pos room

theorem push_of_refused (full : q.capacity ≤ q.lines.length) (policy : q.policy = .rejectNewest) :
    q.push line = (.refused (.full q.capacity), q) := by
  rw [push, if_neg (Nat.not_lt_of_le full), policy]

theorem push_of_displaced {oldest : String} (full : q.capacity ≤ q.lines.length)
    (policy : q.policy = .dropOldest) (lines : q.lines = oldest :: rest) :
    q.push line = (.queuedAfterDrop oldest, { q with lines := rest ++ [line] }) := by
  rw [push, if_neg (Nat.not_lt_of_le full), policy, lines]

theorem requeue_of_room (room : q.lines.length < q.capacity) :
    q.requeue line = ([], { q with lines := line :: q.lines }) := if_pos room

theorem requeue_of_full {victim : String} (full : q.capacity ≤ q.lines.length)
    (parted : Buffer.Parted q.policy (line :: q.lines) [victim] rest) :
    q.requeue line = ([victim], { q with lines := rest }) := by
  have surplus : ¬ (line :: q.lines).length ≤ q.capacity :=
    Nat.not_le_of_lt (Nat.lt_succ_of_le full)
  rw [requeue, if_neg surplus]
  cases policy : q.policy with
  | dropOldest =>
    rw [policy] at parted
    obtain ⟨rfl, rfl⟩ := List.cons.inj parted
    rfl
  | rejectNewest =>
    rw [policy] at parted
    have parted : line :: q.lines = rest ++ [victim] := parted
    rw [parted, List.getLast?_concat, List.dropLast_concat]
    rfl

end

end LineQueue

namespace Buffer

def queue (b : Buffer) : LineQueue := ⟨b.capacity, b.policy, b.toList⟩

def volume (lines : List String) : Nat := (lines.map String.utf8ByteSize).sum

def add (b : Buffer) (line : String) : Buffer :=
  { b with
    lines := b.lines.pushBack line
    bytes := b.bytes + line.utf8ByteSize
    pushed := b.pushed + 1
    peak := max b.peak (b.lines.size + 1) }

def back (b : Buffer) (line : String) : Buffer :=
  { b with lines := b.lines.pushFront line, bytes := b.bytes + line.utf8ByteSize }

/-- The line goes for lack of room, and `rest` is what stays. -/
def shed (b : Buffer) (line : String) (rest : Deque String) : Buffer :=
  { b with lines := rest, bytes := b.bytes - line.utf8ByteSize, dropped := b.dropped + 1 }

def draw (b : Buffer) (line : String) (rest : Deque String) : Buffer :=
  { b with lines := rest, bytes := b.bytes - line.utf8ByteSize, popped := b.popped + 1 }

def frontDebit (b : Buffer) : List (Nat × Nat) :=
  b.lines.popFront?.toList.map fun r => (b.bytes, r.1.utf8ByteSize)

def evictDebits : Nat → Buffer → List (Nat × Nat)
  | 0, _ => []
  | n + 1, b =>
    match b.victim? with
    | none => []
    | some (line, rest) => (b.bytes, line.utf8ByteSize) :: evictDebits n (b.shed line rest)

/-- What an act subtracts from the bytes counted, each time beside what they are by then. -/
def debits (b : Buffer) : Act → List (Nat × Nat)
  | .push _ => if b.isFull && b.policy == .dropOldest then b.frontDebit else []
  | .requeue line => evictDebits (b.size + 1 - b.capacity) (b.back line)
  | .pop => b.frontDebit
  | .take => []

def debitsOf (b : Buffer) : List Act → List (Nat × Nat)
  | [] => []
  | a :: as => b.debits a ++ (b.act a).2.debitsOf as

variable {b : Buffer} {line : String} {rest : Deque String} {n : Nat}

@[simp] theorem toList_add (b : Buffer) (line : String) :
    (b.add line).toList = b.toList ++ [line] := Deque.toList_pushBack ..

@[simp] theorem toList_back (b : Buffer) (line : String) :
    (b.back line).toList = line :: b.toList := Deque.toList_pushFront ..

structure Bounded (b : Buffer) : Prop where
  pos : 0 < b.capacity
  le : b.size ≤ b.capacity

inductive Acting (b : Buffer) : Act → Gain × Buffer → Prop
  | queues {line : String} (room : b.size < b.capacity) :
    Acting b (.push line) (.pushed .queued, b.add line)
  | displaces {line oldest : String} {rest : Deque String} (full : b.size = b.capacity)
    (policy : b.policy = .dropOldest) (parted : Parted b.policy b.toList [oldest] rest.toList) :
    Acting b (.push line) (.pushed (.queuedAfterDrop oldest), (b.shed oldest rest).add line)
  | refuses {line : String} (full : b.size = b.capacity) (policy : b.policy = .rejectNewest) :
    Acting b (.push line)
      (.pushed (.refused (.full b.capacity)), { b with rejected := b.rejected + 1 })
  | returns {line : String} (room : b.size < b.capacity) :
    Acting b (.requeue line) (.requeued [], b.back line)
  | spills {line victim : String} {rest : Deque String} (full : b.size = b.capacity)
    (parted : Parted b.policy (b.back line).toList [victim] rest.toList) :
    Acting b (.requeue line) (.requeued [victim], (b.back line).shed victim rest)
  | pops {line : String} {rest : Deque String}
    (parted : Parted .dropOldest b.toList [line] rest.toList) :
    Acting b .pop (.popped (some line), b.draw line rest)
  | misses (empty : b.toList = []) : Acting b .pop (.popped none, b)
  | takes : Acting b .take (.took b.toList, b.takeAll.2)

theorem victim?_ne_none (h : b.toList ≠ []) : b.victim? ≠ none := by
  unfold victim?
  split
  · rwa [Ne, Deque.popFront?_eq_none]
  · rwa [Ne, Deque.popBack?_eq_none]

theorem Bounded.ne_nil (h : Bounded b) (full : b.size = b.capacity) : b.toList ≠ [] := by
  have pos := h.pos
  rw [← full, size_eq_length] at pos
  exact List.ne_nil_of_length_pos pos

theorem Bounded.acting_push (h : Bounded b) (line : String) :
    Acting b (.push line) (b.act (.push line)) := by
  obtain room | full := Nat.lt_or_eq_of_le h.le
  · have unfull : ¬ b.isFull = true := by simpa [isFull] using room
    have push_eq : b.push line = (.queued, b.add line) := by simp only [push, if_neg unfull, add]
    rw [act, push_eq]
    exact .queues room
  have isFull : b.isFull = true := by simp [isFull, full]
  cases policy : b.policy with
  | rejectNewest =>
    have push_eq : b.push line =
        (.refused (.full b.capacity), { b with rejected := b.rejected + 1 }) := by
      simp only [push, if_pos isFull, policy]
    rw [act, push_eq]
    exact .refuses full policy
  | dropOldest =>
    have some_ : b.lines.popFront? ≠ none :=
      fun none => h.ne_nil full (Deque.popFront?_eq_none.1 none)
    obtain ⟨⟨oldest, rest⟩, front⟩ := Option.ne_none_iff_exists'.1 some_
    have push_eq : b.push line = (.queuedAfterDrop oldest, (b.shed oldest rest).add line) := by
      simp only [push, if_pos isFull, policy, front, add, shed]
    rw [act, push_eq]
    refine .displaces full policy ?_
    rw [policy]
    exact Deque.toList_of_popFront? front

theorem Bounded.push_ne_nil (h : Bounded b) (line : String) : (b.push line).2.toList ≠ [] := by
  have acting := h.acting_push line
  change (b.act (.push line)).2.toList ≠ []
  generalize b.act (.push line) = r at acting
  cases acting with
  | queues room => simp
  | displaces full policy parted => simp
  | refuses full policy => exact h.ne_nil full

theorem requeue_eq (b : Buffer) (line : String) :
    b.requeue line = (b.back line).evict (b.size + 1 - b.capacity) := rfl

theorem requeue_of_room (room : b.size < b.capacity) : b.requeue line = ([], b.back line) := by
  rw [requeue_eq, Nat.sub_eq_zero_of_le room]
  rfl

theorem Bounded.acting_requeue (h : Bounded b) (line : String) :
    Acting b (.requeue line) (b.act (.requeue line)) := by
  rw [act]
  obtain room | full := Nat.lt_or_eq_of_le h.le
  · rw [requeue_of_room room]
    exact .returns room
  · -- A full buffer is one line over its capacity now, so one goes and no more.
    have some_ : (b.back line).victim? ≠ none := victim?_ne_none (by simp)
    obtain ⟨⟨victim, rest⟩, found⟩ := Option.ne_none_iff_exists'.1 some_
    have evict_eq : (b.back line).evict 1 = ([victim], (b.back line).shed victim rest) := by
      simp only [evict, found, shed]
    rw [requeue_eq, full, Nat.add_sub_cancel_left, evict_eq]
    exact .spills full (victim?_eq_some found)

theorem pop?_eq_some {b' : Buffer} (h : b.pop? = some (line, b')) :
    ∃ rest, b' = b.draw line rest ∧ Parted .dropOldest b.toList [line] rest.toList := by
  obtain ⟨⟨line, rest⟩, front, eq⟩ := Option.map_eq_some_iff.1 h
  cases eq
  exact ⟨rest, rfl, Deque.toList_of_popFront? front⟩

theorem acting_pop (b : Buffer) : Acting b .pop (b.act .pop) := by
  rw [act]
  split
  · rename_i line b' hb
    obtain ⟨rest, rfl, parted⟩ := pop?_eq_some hb
    exact .pops parted
  · rename_i hb
    exact .misses (pop?_eq_none.1 hb)

theorem Bounded.acting (h : Bounded b) (a : Act) : Acting b a (b.act a) := by
  cases a with
  | push line => exact h.acting_push line
  | requeue line => exact h.acting_requeue line
  | pop => exact b.acting_pop
  | take => exact .takes

theorem Parted.length_eq {policy : OverflowPolicy} {before after : List String}
    (h : Parted policy before [line] after) : before.length = after.length + 1 := by
  cases policy with
  | dropOldest =>
    obtain rfl : before = [line] ++ after := h
    rfl
  | rejectNewest =>
    obtain rfl : before = after ++ [line].reverse := h
    rw [List.length_append, List.length_reverse, List.length_singleton]

theorem Parted.volume_eq {policy : OverflowPolicy} {before after : List String}
    (h : Parted policy before [line] after) :
    volume before = line.utf8ByteSize + volume after := by
  cases policy with
  | dropOldest =>
    obtain rfl : before = [line] ++ after := h
    simp [volume]
  | rejectNewest =>
    obtain rfl : before = after ++ [line].reverse := h
    simp [volume, Nat.add_comm]

theorem size_of_parted {policy : OverflowPolicy} (h : Parted policy b.toList [line] rest.toList) :
    b.size = rest.size + 1 := by
  rw [size_eq_length, h.length_eq, Deque.size_eq_length]

theorem Bounded.act (h : Bounded b) (a : Act) : Bounded (b.act a).2 := by
  have le := h.le
  have acting := h.acting a
  generalize b.act a = r at acting ⊢
  cases acting with
  | queues room => exact ⟨h.pos, room⟩
  | displaces full policy parted =>
    have size := size_of_parted parted
    exact ⟨h.pos, (size ▸ le : _ + 1 ≤ b.capacity)⟩
  | refuses => exact ⟨h.pos, le⟩
  | returns room => exact ⟨h.pos, room⟩
  | @spills line victim rest full parted =>
    have size : b.size + 1 = rest.size + 1 := size_of_parted parted
    have within : rest.size ≤ b.capacity := by omega
    exact ⟨h.pos, within⟩
  | @pops line rest parted =>
    have size := size_of_parted parted
    have within : rest.size ≤ b.capacity := by omega
    exact ⟨h.pos, within⟩
  | misses => exact h
  | takes => exact ⟨h.pos, Nat.zero_le _⟩

structure Tallied (n : Nat) (b : Buffer) : Prop where
  bytes : b.bytes = volume b.toList
  balance : b.pushed + n = b.popped + b.dropped + b.size

theorem Tallied.le_bytes {policy : OverflowPolicy} {after : List String} (h : Tallied n b)
    (parted : Parted policy b.toList [line] after) : line.utf8ByteSize ≤ b.bytes := by
  rw [h.bytes, parted.volume_eq]
  exact Nat.le_add_right ..

theorem Tallied.bytes_sub {policy : OverflowPolicy} {after : List String} (h : Tallied n b)
    (parted : Parted policy b.toList [line] after) :
    b.bytes - line.utf8ByteSize = volume after := by
  rw [h.bytes, parted.volume_eq, Nat.add_sub_cancel_left]

theorem Tallied.add (h : Tallied n b) (line : String) : Tallied n (b.add line) := by
  refine ⟨?_, ?_⟩
  · rw [toList_add, volume, List.map_append, List.sum_append, ← volume, ← h.bytes]
    simp [Buffer.add]
  · have := h.balance
    change b.pushed + 1 + n = b.popped + b.dropped + (b.size + 1)
    omega

theorem Tallied.back (h : Tallied n b) (line : String) : Tallied (n + 1) (b.back line) := by
  refine ⟨?_, ?_⟩
  · rw [toList_back, volume, List.map_cons, List.sum_cons, ← volume, ← h.bytes, Nat.add_comm]
    rfl
  · have := h.balance
    change b.pushed + (n + 1) = b.popped + b.dropped + (b.size + 1)
    omega

theorem Tallied.shed {policy : OverflowPolicy} (h : Tallied n b)
    (parted : Parted policy b.toList [line] rest.toList) : Tallied n (b.shed line rest) := by
  refine ⟨h.bytes_sub parted, ?_⟩
  have := h.balance
  have := size_of_parted parted
  change b.pushed + n = b.popped + (b.dropped + 1) + rest.size
  omega

theorem Tallied.draw {policy : OverflowPolicy} (h : Tallied n b)
    (parted : Parted policy b.toList [line] rest.toList) : Tallied n (b.draw line rest) := by
  refine ⟨h.bytes_sub parted, ?_⟩
  have := h.balance
  have := size_of_parted parted
  change b.pushed + n = b.popped + 1 + b.dropped + rest.size
  omega

theorem Tallied.takeAll (h : Tallied n b) : Tallied n b.takeAll.2 := by
  refine ⟨rfl, ?_⟩
  have := h.balance
  change b.pushed + n = b.popped + b.size + b.dropped + 0
  omega

theorem Tallied.act (h : Tallied n b) (bounded : Bounded b) (a : Act) :
    Tallied (n + if a.isRequeue then 1 else 0) (b.act a).2 := by
  have acting := bounded.acting a
  generalize b.act a = r at acting ⊢
  cases acting with
  | queues room => exact h.add _
  | displaces full policy parted => exact (h.shed parted).add _
  | refuses => exact ⟨h.bytes, h.balance⟩
  | returns room => exact h.back _
  | spills full parted => exact (h.back _).shed parted
  | pops parted => exact h.draw parted
  | misses => exact h
  | takes => exact h.takeAll

theorem capacity_act (bounded : Bounded b) (a : Act) : (b.act a).2.capacity = b.capacity := by
  have acting := bounded.acting a
  generalize b.act a = r at acting ⊢
  cases acting <;> rfl

theorem rejected_act (bounded : Bounded b) (a : Act) :
    (b.act a).2.rejected = b.rejected + if (b.act a).1.isRefusal then 1 else 0 := by
  have acting := bounded.acting a
  generalize b.act a = r at acting ⊢
  cases acting <;> rfl

theorem queue_add (b : Buffer) (line : String) :
    (b.add line).queue = { b.queue with lines := b.toList ++ [line] } := by
  rw [queue, toList_add]
  rfl

theorem queue_act (bounded : Bounded b) (a : Act) :
    b.queue.act a = ((b.act a).1, (b.act a).2.queue) := by
  have acting := bounded.acting a
  generalize b.act a = r at acting ⊢
  cases acting with
  | queues room =>
    rw [size_eq_length] at room
    rw [LineQueue.act, LineQueue.push_of_room room, queue_add]
    rfl
  | displaces full policy parted =>
    rw [size_eq_length] at full
    have lines : b.toList = _ :: _ := policy ▸ parted
    rw [LineQueue.act, LineQueue.push_of_displaced (q := b.queue) (Nat.le_of_eq full.symm) policy
      lines, queue_add]
    rfl
  | refuses full policy =>
    rw [size_eq_length] at full
    rw [LineQueue.act, LineQueue.push_of_refused (Nat.le_of_eq full.symm) policy]
    rfl
  | returns room =>
    rw [size_eq_length] at room
    rw [LineQueue.act, LineQueue.requeue_of_room room]
    rfl
  | spills full parted =>
    rw [size_eq_length] at full
    rw [LineQueue.act, LineQueue.requeue_of_full (Nat.le_of_eq full.symm) parted]
    rfl
  | pops parted =>
    have lines : b.toList = _ :: _ := parted
    rw [LineQueue.act, queue, lines]
    rfl
  | misses empty =>
    rw [LineQueue.act, queue, empty]
    rfl
  | takes => rfl

theorem frontDebit_le (h : Tallied n b) : ∀ d ∈ b.frontDebit, d.2 ≤ d.1 := by
  intro d mem
  obtain ⟨⟨line, rest⟩, front, rfl⟩ := List.mem_map.1 mem
  have parted : Parted .dropOldest b.toList [line] rest.toList :=
    Deque.toList_of_popFront? (Option.mem_toList.1 front)
  exact h.le_bytes parted

theorem evictDebits_le (k : Nat) (h : Tallied n b) : ∀ d ∈ evictDebits k b, d.2 ≤ d.1 := by
  induction k generalizing b with
  | zero => exact List.forall_mem_nil _
  | succ k ih =>
    unfold evictDebits
    split
    · exact List.forall_mem_nil _
    · rename_i line rest found
      have parted := victim?_eq_some found
      exact List.forall_mem_cons.2 ⟨h.le_bytes parted, ih (h.shed parted)⟩

theorem debits_le (h : Tallied n b) (a : Act) : ∀ d ∈ b.debits a, d.2 ≤ d.1 := by
  cases a with
  | push line =>
    rw [debits]
    split
    · exact frontDebit_le h
    · exact List.forall_mem_nil _
  | requeue line => exact evictDebits_le _ (h.back line)
  | pop => exact frontDebit_le h
  | take => exact List.forall_mem_nil _

theorem bounded_of_create {capacity : Nat} {policy : OverflowPolicy}
    (h : create capacity policy = .ok b) :
    Bounded b ∧ Tallied 0 b ∧ b.rejected = 0 ∧ b.queue = ⟨capacity, policy, []⟩ := by
  unfold create at h
  split at h
  · cases h
  · rename_i valid
    cases h
    have pos : 0 < capacity := Nat.pos_of_ne_zero fun zero => valid (.inl zero)
    exact ⟨⟨pos, Nat.zero_le _⟩, ⟨rfl, rfl⟩, rfl, rfl⟩

theorem Bounded.acts (h : Bounded b) (as : List Act) : Bounded (b.acts as).2 := by
  induction as generalizing b with
  | nil => exact h
  | cons a as ih => exact ih (h.act a)

theorem capacity_acts (bounded : Bounded b) (as : List Act) :
    (b.acts as).2.capacity = b.capacity := by
  induction as generalizing b with
  | nil => rfl
  | cons a as ih => exact (ih (bounded.act a)).trans (capacity_act bounded a)

theorem Tallied.acts (h : Tallied n b) (bounded : Bounded b) (as : List Act) :
    Tallied (n + as.countP Act.isRequeue) (b.acts as).2 := by
  induction as generalizing b n with
  | nil => exact h
  | cons a as ih =>
    rw [List.countP_cons, Nat.add_comm (as.countP _), ← Nat.add_assoc]
    exact ih (h.act bounded a) (bounded.act a)

theorem rejected_acts (bounded : Bounded b) (as : List Act) :
    (b.acts as).2.rejected = b.rejected + (b.acts as).1.countP Gain.isRefusal := by
  induction as generalizing b with
  | nil => rfl
  | cons a as ih =>
    rw [Buffer.acts, List.countP_cons, Nat.add_comm (List.countP _ _), ← Nat.add_assoc,
      ← rejected_act bounded a]
    exact ih (bounded.act a)

theorem queue_acts (bounded : Bounded b) (as : List Act) :
    b.queue.acts as = ((b.acts as).1, (b.acts as).2.queue) := by
  induction as generalizing b with
  | nil => rfl
  | cons a as ih =>
    rw [LineQueue.acts, queue_act bounded a]
    dsimp only
    rw [ih (bounded.act a)]
    rfl

theorem debitsOf_le (h : Tallied n b) (bounded : Bounded b) (as : List Act) :
    ∀ d ∈ b.debitsOf as, d.2 ≤ d.1 := by
  induction as generalizing b n with
  | nil => exact List.forall_mem_nil _
  | cons a as ih =>
    exact List.forall_mem_append.2 ⟨debits_le h a, ih (h.act bounded a) (bounded.act a)⟩

/-- Whatever is done to a buffer, each act gives back what it does on a plain list of lines, and the
lines are the same. There are never more than it has room for, the bytes counted are theirs and are
never taken below zero, each refused line is counted, and the other counters balance: what came in
or came back has gone out, was let go of or is still there. -/
theorem lineQueue_of_create {capacity : Nat} {policy : OverflowPolicy}
    (h : create capacity policy = .ok b) (as : List Act) :
    let q : LineQueue := ⟨capacity, policy, []⟩
    let after := (b.acts as).2
    ((b.acts as).1 = (q.acts as).1 ∧ after.toList = (q.acts as).2.lines) ∧
      after.metrics.size = after.toList.length ∧ after.metrics.size ≤ capacity ∧
      after.metrics.bytes = (after.toList.map String.utf8ByteSize).sum ∧
      (∀ d ∈ b.debitsOf as, d.2 ≤ d.1) ∧
      after.metrics.rejected = (b.acts as).1.countP Gain.isRefusal ∧
      after.metrics.pushed + as.countP Act.isRequeue =
        after.metrics.popped + after.metrics.dropped + after.metrics.size := by
  intro q after
  obtain ⟨bounded, tallied, rejected, start⟩ := bounded_of_create h
  have same : q.acts as = ((b.acts as).1, after.queue) := by
    rw [← queue_acts bounded as, start]
  have capacity_eq : after.capacity = capacity :=
    (capacity_acts bounded as).trans (congrArg LineQueue.capacity start)
  have end_ := tallied.acts bounded as
  rw [Nat.zero_add] at end_
  refine ⟨⟨by rw [same], by rw [same]; rfl⟩, after.size_eq_length, ?_, end_.bytes,
    debitsOf_le tallied bounded as, ?_, end_.balance⟩
  · exact capacity_eq ▸ (bounded.acts as).le
  · rw [← Nat.zero_add (List.countP _ _), ← rejected]
    exact rejected_acts bounded as

theorem lineQueue_of_create_single :
    let as : List Act := [.push "a", .push "b", .pop, .push "cd", .requeue "a"]
    ∃ b, create 1 .rejectNewest = .ok b ∧
      (b.acts as).1 = [.pushed .queued, .pushed (.refused (.full 1)), .popped (some "a"),
        .pushed .queued, .requeued ["cd"]] ∧
      (b.acts as).2.toList = ["a"] ∧ (b.acts as).2.metrics.bytes = "a".utf8ByteSize ∧
      (b.acts as).2.metrics.rejected = 1 ∧
      (b.acts as).2.metrics.pushed + 1 = (b.acts as).2.metrics.popped +
        (b.acts as).2.metrics.dropped + (b.acts as).2.metrics.size := by
  intro as
  obtain ⟨b, created⟩ : ∃ b, create 1 .rejectNewest = .ok b := ⟨_, rfl⟩
  obtain ⟨⟨gains, lines⟩, -, -, bytes, -, rejected, balance⟩ := lineQueue_of_create created as
  have gains : (b.acts as).1 = [.pushed .queued, .pushed (.refused (.full 1)), .popped (some "a"),
      .pushed .queued, .requeued ["cd"]] := gains.trans (by decide)
  have lines : (b.acts as).2.toList = ["a"] := lines.trans (by decide)
  rw [lines] at bytes
  rw [gains] at rejected
  exact ⟨b, created, gains, lines, bytes, rejected, balance⟩

end Buffer

end MetricRelay
