import MetricRelay.Proofs.Sender.Ledger

namespace MetricRelay

/-- The ledger of the past has the right lines, given what the holder of the transport has in hand,
what is in the buffer and how many lines have been delivered. `text` tells the line of each call. -/
structure Books (text : CallId → String) (policy : OverflowPolicy) (past : List Effect)
    (hand : List String) (b : Buffer) (delivered : Nat) : Prop where
  policy_eq : b.policy = policy
  written : (Ledger.of policy past).written.map text = Effect.writes past
  in_hand : (Ledger.of policy past).hand.map text = hand
  waiting : (Ledger.of policy past).waiting.map text = b.toList
  taken : (Ledger.of policy past).taken.map text = Effect.takes past
  dropped : (Ledger.of policy past).dropped.map text = Effect.discards past
  turned : (Effect.rejected past).map text = Effect.refusals past
  discarded : (Effect.discards past).length = b.dropped
  refused : (Effect.refusals past).length = b.rejected
  delivered_eq : (Effect.writes past).length = delivered

namespace Books

open Effect

variable {text : CallId → String} {policy : OverflowPolicy} {past : List Effect}
  {hand : List String} {b b' : Buffer} {line : String} {n : Nat}

theorem started (h : b.toList = [] ∧ b.dropped = 0 ∧ b.rejected = 0 ∧ b.policy = policy) :
    Books text policy [] [] b 0 :=
  ⟨h.2.2.2, rfl, rfl, h.1.symm, rfl, rfl, rfl, h.2.1.symm, h.2.2.1.symm, rfl⟩

theorem draw (h : Books text policy past [] b n) (hb : b.pop? = some (line, b'))
    (id : CallId) (errand : Errand) (written : Nat) :
    Books text policy (past ++ [.asked id (.draining errand line written)]) [line] b' n := by
  obtain ⟨lines, policy_eq, dropped, rejected⟩ := Buffer.toList_of_pop? hb
  have hand := List.map_eq_nil_iff.1 h.in_hand
  obtain ⟨first, rest, waiting, rfl, eq⟩ := List.map_eq_cons_iff.1 (h.waiting.trans lines)
  constructor <;>
    simp [Ledger.note, policy_eq, h.policy_eq, h.written, hand, waiting, eq, h.taken, h.dropped,
      h.turned, h.discarded, h.refused, h.delivered_eq, dropped, rejected]

theorem write (h : Books text policy past [line] b n) :
    Books text policy (past ++ [.accepted line]) [] b (n + 1) := by
  constructor <;>
    simp [Ledger.note, h.policy_eq, h.written, h.in_hand, h.waiting, h.taken, h.dropped,
      h.turned, h.discarded, h.refused, h.delivered_eq]

theorem writeThrough {id : CallId} (h : Books text policy past [] b n) (hid : text id = line) :
    Books text policy (past ++ [.accepted line, .returned id (.outcome .sent)]) [] b (n + 1) := by
  have hand := List.map_eq_nil_iff.1 h.in_hand
  constructor <;>
    simp [Ledger.note, h.policy_eq, h.written, hand, hid, h.waiting, h.taken, h.dropped,
      h.turned, h.discarded, h.refused, h.delivered_eq]

theorem putBack (h : Books text policy past [line] b n) (hb : b'.toList = line :: b.toList)
    (policy_eq : b'.policy = b.policy) (dropped : b'.dropped = b.dropped)
    (rejected : b'.rejected = b.rejected) :
    Books text policy (past ++ [.requeued line]) [] b' n := by
  constructor <;>
    simp [Ledger.note, policy_eq, h.policy_eq, h.written, h.in_hand, h.waiting, hb, h.taken,
      h.dropped, h.turned, h.discarded, h.refused, h.delivered_eq, dropped, rejected]

theorem discard (h : Books text policy past hand b n)
    (parted : Buffer.Parted policy b.toList [line] b'.toList) (policy_eq : b'.policy = b.policy)
    (dropped : b'.dropped = b.dropped + 1) (rejected : b'.rejected = b.rejected) :
    Books text policy (past ++ [.discarded line]) hand b' n := by
  cases policy with
  | dropOldest =>
    obtain ⟨first, rest, waiting, rfl, eq⟩ := List.map_eq_cons_iff.1 (h.waiting.trans parted)
    constructor <;>
      simp [Ledger.note, Ledger.discard, policy_eq, h.policy_eq, h.written, h.in_hand, waiting, eq,
        h.taken, h.dropped, h.turned, h.discarded, h.refused, h.delivered_eq, dropped, rejected]
  | rejectNewest =>
    obtain ⟨rest, last, waiting, eq, eq'⟩ := List.map_eq_append_iff.1 (h.waiting.trans parted)
    obtain ⟨id, rfl, rfl⟩ := List.map_eq_singleton_iff.1 eq'
    constructor <;>
      simp [Ledger.note, Ledger.discard, policy_eq, h.policy_eq, h.written, h.in_hand, waiting, eq,
        h.taken, h.dropped, h.turned, h.discarded, h.refused, h.delivered_eq, dropped, rejected]

theorem evict (n' : Nat) (h : Books text policy past hand b n) :
    Books text policy (past ++ (b.evict n').1.map .discarded) hand (b.evict n').2 n := by
  induction n' generalizing past b with
  | zero => simpa [Buffer.evict] using h
  | succ n' ih =>
    unfold Buffer.evict
    split
    · simpa using h
    · rename_i line rest hv
      have parted := h.policy_eq ▸ Buffer.victim?_eq_some hv
      let b' : Buffer :=
        { b with lines := rest, bytes := b.bytes - line.utf8ByteSize, dropped := b.dropped + 1 }
      have next : Books text policy (past ++ [.discarded line]) hand b' n :=
        h.discard parted rfl rfl rfl
      have := ih next
      rwa [List.append_assoc] at this

theorem requeue (h : Books text policy past [line] b n) :
    Books text policy (past ++ .requeued line :: (b.requeue line).1.map .discarded) []
      (b.requeue line).2 n := by
  rw [List.append_cons]
  let b' : Buffer :=
    { b with lines := b.lines.pushFront line, bytes := b.bytes + line.utf8ByteSize }
  have back : Books text policy (past ++ [.requeued line]) [] b' n :=
    h.putBack (Deque.toList_pushFront ..) rfl rfl rfl
  exact evict _ back

theorem took (h : Books text policy past hand b n) :
    Books text policy (past ++ [.took b.toList]) hand b.takeAll.2 n := by
  have policy_eq : b.takeAll.2.policy = policy := h.policy_eq
  have dropped : b.takeAll.2.dropped = b.dropped := rfl
  have rejected : b.takeAll.2.rejected = b.rejected := rfl
  constructor <;>
    simp [Ledger.note, policy_eq, h.written, h.in_hand, h.waiting, h.taken, h.dropped,
      h.turned, h.discarded, h.refused, h.delivered_eq, dropped, rejected]

theorem buffer {id : CallId} (h : Books text policy past hand b n) (hid : text id = line)
    (hb : b'.toList = b.toList ++ [line]) (policy_eq : b'.policy = b.policy)
    (dropped : b'.dropped = b.dropped) (rejected : b'.rejected = b.rejected) :
    Books text policy (past ++ [.returned id (.outcome .buffered)]) hand b' n := by
  constructor <;>
    simp [Ledger.note, policy_eq, h.policy_eq, h.written, h.in_hand, h.waiting, hid, hb, h.taken,
      h.dropped, h.turned, h.discarded, h.refused, h.delivered_eq, dropped, rejected]

theorem displace {id : CallId} {oldest : String} {rest : List String}
    (h : Books text policy past hand b n) (hid : text id = line) (drops : b.policy = .dropOldest)
    (hb : b.toList = oldest :: rest) (hb' : b'.toList = rest ++ [line])
    (policy_eq : b'.policy = b.policy) (dropped : b'.dropped = b.dropped + 1)
    (rejected : b'.rejected = b.rejected) :
    Books text policy (past ++ [.discarded oldest, .returned id (.outcome .buffered)]) hand b'
      n := by
  obtain rfl : policy = .dropOldest := h.policy_eq.symm.trans drops
  obtain ⟨first, ids, waiting, rfl, eq⟩ := List.map_eq_cons_iff.1 (h.waiting.trans hb)
  constructor <;>
    simp [Ledger.note, Ledger.discard, policy_eq, h.policy_eq, h.written, h.in_hand, waiting, eq,
      hid, hb', h.taken, h.dropped, h.turned, h.discarded, h.refused, h.delivered_eq, dropped,
      rejected]

theorem turnAway {id : CallId} (h : Books text policy past hand b n) (hid : text id = line)
    (hb : b'.toList = b.toList) (policy_eq : b'.policy = b.policy)
    (dropped : b'.dropped = b.dropped) (rejected : b'.rejected = b.rejected + 1) :
    Books text policy (past ++ [.refused line, .returned id (.outcome .rejected)]) hand b' n := by
  constructor <;>
    simp [Ledger.note, policy_eq, h.policy_eq, h.written, h.in_hand, h.waiting, hid, hb, h.taken,
      h.dropped, h.turned, h.discarded, h.refused, h.delivered_eq, dropped, rejected]

theorem still {e : Effect} (h : Books text policy past hand b n)
    (note : ∀ g, Ledger.note policy g e = g) (written : e.written = [])
    (handedOut : e.handedOut = []) (evicted : e.evicted = []) (turnedAway : e.turnedAway = [])
    (rejection : e.rejection = []) :
    Books text policy (past ++ [e]) hand b n := by
  constructor <;>
    simp [-Effect.written, -Effect.handedOut, -Effect.evicted, -Effect.turnedAway,
      -Effect.rejection, note, written, handedOut, evicted, turnedAway, rejection, h.policy_eq,
      h.written, h.in_hand, h.waiting, h.taken, h.dropped, h.turned, h.discarded, h.refused,
      h.delivered_eq]

theorem returned {a : Answer} (h : Books text policy past hand b n) (id : CallId)
    (ha : ∀ o, a ≠ .outcome o) : Books text policy (past ++ [.returned id a]) hand b n := by
  cases a with
  | outcome o => exact absurd rfl (ha o)
  | _ => exact h.still (fun g => rfl) rfl rfl rfl rfl rfl

theorem asked {p : Phase} (h : Books text policy past hand b n) (id : CallId)
    (hp : ∀ errand line written, p ≠ .draining errand line written) :
    Books text policy (past ++ [.asked id p]) hand b n := by
  refine h.still (fun g => ?_) rfl rfl rfl rfl rfl
  cases p with
  | draining errand line written => exact absurd rfl (hp errand line written)
  | _ => rfl

end Books

end MetricRelay
