import MetricRelay.Proofs.Mount
import MetricRelay.Proofs.Relay.Input
import MetricRelay.Relay.Carrier

/-!
A relay loses no line as long as it runs: whatever its carrier, each line that it has taken out of
the spool or handed over is delivered, or held by the carrier, or given up by it.
-/
namespace MetricRelay.Relay

variable {τ κ : Type}

namespace Round

def handed (r : Round τ) : List String := if r.fault.isSome then [] else r.lines

def unfinished (r : Round τ) : List String := if r.fault.isSome then r.lines else []

theorem lines_perm (rs : List (Round τ)) :
    (rs.flatMap (·.lines)).Perm (rs.flatMap handed ++ rs.flatMap unfinished) := by
  induction rs with
  | nil => exact .refl _
  | cons r rs ih =>
    simp only [List.flatMap_cons, handed, unfinished]
    split
    · exact (ih.append_left _).trans (by simpa using List.perm_append_comm_assoc ..)
    · simpa using ih.append_left _

end Round

/-- What the books of a carrier say. -/
class Audit (κ : Type) where
  /-- The books are right, and these lines have been handed to the carrier. -/
  Right : List String → κ → Prop
  Going : κ → Prop
  delivered : κ → List String
  held : κ → List String
  waived : κ → List String

class Accountable (τ κ : Type) [Carrier τ κ] [Audit κ] : Prop where
  perm {given : List String} {k : κ} : Audit.Right given k →
    given.Perm (Audit.delivered k ++ (Audit.held k ++ Audit.waived k))
  change {given : List String} {k : κ} (f : τ → τ) : Audit.Right given k → Audit.Going k →
    Audit.Right given (Carrier.change f k) ∧ Audit.Going (Carrier.change f k)
  resume {given : List String} {k : κ} (lines : List String) : Audit.Right given k → Audit.Going k →
    Audit.Right (given ++ lines.map terminated) (Carrier.resume τ lines k) ∧
      Audit.Going (Carrier.resume τ lines k)
  deliver {given : List String} {k : κ} (lines : List String) :
      Audit.Right given k → Audit.Going k →
    Audit.Right (given ++ lines.map terminated) (Carrier.deliver τ lines k).2 ∧
      ((Carrier.deliver τ lines k).1 = true → Audit.Going (Carrier.deliver τ lines k).2)
  finish {given : List String} {k : κ} : Audit.Right given k →
    (Carrier.finish τ k).1.delivered = (Audit.delivered (Carrier.finish τ k).2).length ∧
      given.Perm (Audit.delivered (Carrier.finish τ k).2 ++
        ((Carrier.finish τ k).1.undelivered ++ Audit.waived (Carrier.finish τ k).2))

variable [Carrier τ κ]

namespace Progress

def advanceAll (p : Progress κ) : List (Round τ) → Progress κ
  | [] => p
  | r :: rs => if p.ended then p else (p.advance r).advanceAll rs

def consumed (p : Progress κ) : List (Round τ) → List (Round τ)
  | [] => []
  | r :: rs => if p.ended then [] else r :: (p.advance r).consumed rs

structure Right [Audit κ] (given : List String) (p : Progress κ) : Prop where
  books : Audit.Right given p.carrier
  going : p.ended = false → Audit.Going p.carrier
  count : p.restored + p.read = given.length

theorem restored_advance (p : Progress κ) (r : Round τ) : (p.advance r).restored = p.restored := by
  unfold advance
  dsimp only
  split
  · rfl
  · split <;> rfl

theorem restored_advanceAll (p : Progress κ) (rs : List (Round τ)) :
    (p.advanceAll rs).restored = p.restored := by
  induction rs generalizing p with
  | nil => rfl
  | cons r rs ih =>
    unfold advanceAll
    split
    · rfl
    · exact (ih _).trans (p.restored_advance r)

theorem advanceAll_cons {p : Progress κ} (going : p.ended = false) (r : Round τ)
    (rs : List (Round τ)) : p.advanceAll (r :: rs) = (p.advance r).advanceAll rs :=
  if_neg (by simp [going])

theorem advanceAll_of_ended {p : Progress κ} (h : p.ended = true) (rs : List (Round τ)) :
    p.advanceAll rs = p := by
  cases rs with
  | nil => rfl
  | cons r rs => exact if_pos h

theorem advance_of_fault (p : Progress κ) {r : Round τ} (h : r.fault.isSome = true) :
    (p.advance r).ended = true ∧ (p.advance r).fault = r.fault := by
  unfold advance
  dsimp only
  rw [if_pos h]
  exact ⟨rfl, rfl⟩

theorem unfinished_of_fault {p : Progress κ} {rs : List (Round τ)}
    (h : (p.advanceAll rs).fault = none) : (p.consumed rs).flatMap Round.unfinished = [] := by
  induction rs generalizing p with
  | nil => rfl
  | cons r rs ih =>
    unfold consumed
    unfold advanceAll at h
    split
    · rfl
    · rename_i going
      rw [if_neg going] at h
      rw [List.flatMap_cons, ih h, List.append_nil]
      by_cases faulty : r.fault.isSome = true
      · obtain ⟨ended, fault⟩ := p.advance_of_fault faulty
        rw [advanceAll_of_ended ended, fault] at h
        rw [h] at faulty
        cases faulty
      · exact if_neg faulty

section

variable [Audit κ] [Accountable τ κ] {given : List String}

theorem right_changes {k : κ} (changes : List (τ → τ)) (books : Audit.Right given k)
    (going : Audit.Going k) :
    Audit.Right given (changes.foldl (fun k f => Carrier.change f k) k) ∧
      Audit.Going (changes.foldl (fun k f => Carrier.change f k) k) := by
  induction changes generalizing k with
  | nil => exact ⟨books, going⟩
  | cons f changes ih =>
    obtain ⟨books, going⟩ := Accountable.change f books going
    exact ih books going

theorem Right.advance {p : Progress κ} (h : p.Right given) (going : p.ended = false) (r : Round τ) :
    (p.advance r).Right (given ++ r.handed.map terminated) := by
  obtain ⟨books, goes⟩ := right_changes r.changes h.books (h.going going)
  unfold Progress.advance Round.handed
  dsimp only
  by_cases faulty : r.fault.isSome = true
  · rw [if_pos faulty, if_pos faulty, List.map_nil, List.append_nil]
    exact ⟨books, (nomatch ·), h.count⟩
  · rw [if_neg faulty, if_neg faulty]
    by_cases empty : r.lines.isEmpty = true
    · rw [if_pos empty, List.isEmpty_iff.1 empty, List.map_nil, List.append_nil]
      exact ⟨books, (nomatch ·), h.count⟩
    · rw [if_neg empty]
      obtain ⟨books, goesOn⟩ := Accountable.deliver (τ := τ) r.lines books goes
      refine ⟨books, fun e => goesOn ?_, ?_⟩
      · simpa using e
      · rw [List.length_append, List.length_map, ← h.count, Nat.add_assoc]

theorem Right.advanceAll {p : Progress κ} (h : p.Right given) (rs : List (Round τ)) :
    (p.advanceAll rs).Right
      (given ++ ((p.consumed rs).flatMap Round.handed).map terminated) := by
  induction rs generalizing p given with
  | nil => simpa [consumed, Progress.advanceAll] using h
  | cons r rs ih =>
    unfold Progress.advanceAll consumed
    split
    · simpa using h
    · rename_i going
      have := ih (h.advance (by simpa using going) r)
      rwa [List.append_assoc, ← List.map_append, ← List.flatMap_cons] at this

theorem right_begin {k : κ} (books : Audit.Right [] k) (going : Audit.Going k)
    (lines : List String) : (begin τ lines k).Right (lines.map terminated) := by
  obtain ⟨books, going⟩ := Accountable.resume (τ := τ) lines books going
  exact ⟨books, fun _ => going, (List.length_map ..).symm⟩

end

end Progress

namespace Reading

theorem take_of_ended {r : Reading τ κ} (h : r.progress.ended = true) (a : Arrival τ) :
    r.take a = r := if_pos h

theorem foldl_take (r : Reading τ κ) (input : List (Arrival τ)) :
    (input.foldl take r).close = r.progress.advanceAll (roundsFrom r.size r.batch input) ∧
      (input.foldl take r).spool = r.spool ∧ (input.foldl take r).notices = r.notices := by
  induction input generalizing r with
  | nil => exact ⟨rfl, rfl, rfl⟩
  | cons a input ih =>
    rw [List.foldl_cons]
    by_cases ended : r.progress.ended = true
    · rw [take_of_ended ended, Progress.advanceAll_of_ended ended]
      have := ih r
      rwa [Progress.advanceAll_of_ended ended] at this
    · unfold take roundsFrom
      rw [if_neg ended]
      cases r.batch.add a with
      | inl batch => exact ih { r with batch }
      | inr round =>
        have := ih { r with progress := r.progress.advance round, batch := .new r.size }
        rwa [← Progress.advanceAll_cons (by simpa using ended)] at this

theorem foldl_take_begin (size : Nat) (p : Progress κ) (going : p.ended = false)
    (spool : Option Spool) (notices : List Notice) (input : List (Arrival τ)) :
    let r := input.foldl take (begin size p spool notices)
    r.close = p.advanceAll (rounds size input) ∧ r.spool = spool ∧ r.notices = notices := by
  obtain ⟨close, kept⟩ := (begin size p spool notices).foldl_take input
  refine ⟨close.trans ?_, kept⟩
  unfold begin rounds
  split
  · rename_i none_
    obtain rfl := none_
    rw [Progress.advanceAll_cons going]
    exact Progress.advanceAll_of_ended rfl _
  · rfl

end Reading

def found (spool : Option Spool) : List String := (spool.map Spool.held).getD []

def panic? (τ : Type) {κ : Type} [Carrier τ κ] (size : Nat) (k : κ) (spool : Option Spool) :
    Option Panic :=
  if spool.any Spool.isOversized then some .capacityOverflow
  else
    (spool.bind fun _ => Carrier.obstacle τ k).or
      (if batchLimit < size then some .capacityOverflow else none)

/-- No memory can hold what the relay is to hold at once. -/
def Overburdened (size : Nat) (spool : Option Spool) : Prop :=
  spool.any Spool.isOversized = true ∨ batchLimit < size

instance (size : Nat) (spool : Option Spool) : Decidable (Overburdened size spool) :=
  inferInstanceAs (Decidable (_ ∨ _))

theorem panic?_of_not_obstacle {τ κ : Type} [Carrier τ κ] {k : κ}
    (free : Carrier.obstacle τ k = none) (size : Nat) (spool : Option Spool) :
    panic? τ size k spool =
      if Overburdened size spool then some .capacityOverflow else none := by
  have unhindered : (spool.bind fun _ => Carrier.obstacle τ k) = none := by
    cases spool with
    | none => rfl
    | some sp => exact free
  unfold panic? Overburdened
  rw [unhindered, Option.none_or]
  split <;> simp [*]

def consumed (size : Nat) (input : List (Arrival τ)) (k : κ) (spool : Option Spool) :
    List (Round τ) :=
  if (panic? τ size k spool).isSome then []
  else (Progress.begin τ (found spool) k).consumed (rounds size input)

def afterInput (size : Nat) (input : List (Arrival τ)) (k : κ) (spool : Option Spool) :
    Progress κ :=
  (Progress.begin τ (found spool) k).advanceAll (rounds size input)

abbrev Follows : Option Spool → Option Spool → Prop := Option.Rel Spool.Follows

theorem Follows.refl (spool : Option Spool) : Follows spool spool := by
  cases spool with
  | none => exact .none
  | some s => exact .some (.refl s)

theorem Follows.trans {spool spool' spool'' : Option Spool} (h : Follows spool spool')
    (h' : Follows spool' spool'') : Follows spool spool'' := by
  cases h with
  | none => exact h'
  | some h =>
    cases h' with
    | some h' => exact .some (h.trans h')

theorem follows_restore (spool : Option Spool) : Follows spool (restore spool).2 := by
  cases spool with
  | none => exact .none
  | some sp => exact .some (Spool.follows_restore sp)

def emptied (spool : Option Spool) : Option Spool := spool.map Spool.emptied

theorem found_emptied (spool : Option Spool) : found (emptied spool) = [] := by
  cases spool with
  | none => rfl
  | some sp => exact sp.held_emptied

theorem restore_cases (spool : Option Spool) :
    (spool.any Spool.isOversized = true ∧ (restore spool).1 = .panicked .capacityOverflow) ∨
      (spool.any Spool.isOversized = false ∧
        restore spool = (.ok (found spool), emptied spool)) := by
  cases spool with
  | none => exact .inr ⟨rfl, rfl⟩
  | some sp =>
    cases oversized : sp.isOversized with
    | true => exact .inl ⟨oversized, by rw [restore, sp.restore_eq, oversized]; rfl⟩
    | false => exact .inr ⟨oversized, by rw [restore, Spool.restore_ok oversized]; rfl⟩

theorem follows_emptied {spool : Option Spool} (h : spool.any Spool.isOversized = false) :
    Follows spool (emptied spool) := by
  obtain ⟨oversized, -⟩ | ⟨-, restored⟩ := restore_cases spool
  · cases h.symm.trans oversized
  · have := follows_restore spool
    rwa [restored] at this

theorem follows_keep (stamp : Stamp) (lines : List String) (spool : Option Spool) (s : Summary) :
    Follows spool (keep stamp lines spool s).2 := by
  unfold keep
  split
  · exact .refl _
  · split
    · exact .none
    · rename_i sp
      have follows := sp.follows_store stamp lines
      split <;> rename_i stored <;> rw [stored] at follows <;> exact .some follows

theorem keep_spec (stamp : Stamp) (lines : List String) (spool : Option Spool) {s : Summary}
    (spooled : s.spooled = 0) (lost : s.lost = 0) :
    let r := keep stamp lines spool s
    (r.1.read = s.read ∧ r.1.restored = s.restored ∧ r.1.delivered = s.delivered) ∧
      r.1.spooled + r.1.lost = lines.length ∧
      (r.1.lost = 0 → lines = [] ∨
        ∃ sp, r.2 = some sp ∧ sp.Files ⟨stamp.id, stamp.time, lines⟩) := by
  unfold keep
  split
  · rename_i empty
    rw [List.isEmpty_iff.1 empty]
    exact ⟨⟨rfl, rfl, rfl⟩, by simp [spooled, lost], fun _ => .inl rfl⟩
  · rename_i some_
    have some_ : lines ≠ [] := by simpa using some_
    split
    · exact ⟨⟨rfl, rfl, rfl⟩, by simp [spooled],
        fun none_ => .inl (List.length_eq_zero_iff.1 none_)⟩
    · split
      · rename_i stored
        obtain ⟨none_, -⟩ | ⟨-, -, stores⟩ := Spool.store_ok stored
        · exact absurd none_ some_
        · exact ⟨⟨rfl, rfl, rfl⟩, by simp [lost], fun _ => .inr ⟨_, rfl, stores.files⟩⟩
      · exact ⟨⟨rfl, rfl, rfl⟩, by simp [spooled],
          fun none_ => .inl (List.length_eq_zero_iff.1 none_)⟩

variable {size : Nat} {stamp : Stamp} {input : List (Arrival τ)} {k : κ} {spool : Option Spool}

theorem start_cases (size : Nat) (k : κ) (spool : Option Spool) :
    (∃ p k' rest notices, panic? τ size k spool = some p ∧ Follows spool rest ∧
        (k' = k ∨ k' = Carrier.resume τ (found spool) k) ∧
        Reading.start (τ := τ) size k spool = .error ⟨.panicked p, k', rest, notices⟩) ∨
      (panic? τ size k spool = none ∧ Follows spool (emptied spool) ∧
        ∃ notices, Reading.start (τ := τ) size k spool =
          .ok (.begin size (.begin τ (found spool) k) (emptied spool) notices)) := by
  unfold Reading.start panic?
  obtain ⟨oversized, stopped⟩ | ⟨sound, restored⟩ := restore_cases spool
  · have follows := follows_restore spool
    rcases hr : restore spool with ⟨r, rest⟩
    rw [hr] at stopped follows
    obtain rfl : r = .panicked .capacityOverflow := stopped
    exact .inl ⟨_, _, _, _, if_pos oversized, follows, .inl rfl, rfl⟩
  · have follows := follows_emptied sound
    rw [restored, sound, if_neg Bool.false_ne_true]
    dsimp only
    cases spool.bind fun _ => Carrier.obstacle τ k with
    | some p => exact .inl ⟨_, _, _, _, rfl, follows, .inl rfl, rfl⟩
    | none =>
      dsimp only
      rw [Option.none_or]
      split
      · exact .inl ⟨_, _, _, _, rfl, follows, .inr rfl, rfl⟩
      · exact .inr ⟨rfl, follows, _, rfl⟩

theorem relay_cases (size : Nat) (stamp : Stamp) (input : List (Arrival τ)) (k : κ)
    (spool : Option Spool) :
    (∃ p k' rest notices, panic? τ size k spool = some p ∧ Follows spool rest ∧
        (k' = k ∨ k' = Carrier.resume τ (found spool) k) ∧
        relay size stamp input k spool = ⟨.panicked p, k', rest, notices⟩) ∨
      (panic? τ size k spool = none ∧ Follows spool (emptied spool) ∧
        let p := afterInput size input k spool
        (∃ fault, p.fault = some fault ∧ ∃ notices, relay size stamp input k spool =
          ⟨.error (.input fault), p.carrier, emptied spool, notices⟩) ∨
        (p.fault = none ∧
          let d := (Carrier.finish τ p.carrier).1
          let r := keep stamp d.undelivered (emptied spool) (p.summary d)
          ∃ notices, relay size stamp input k spool =
            ⟨.ok r.1, (Carrier.finish τ p.carrier).2, r.2, notices⟩)) := by
  unfold relay
  obtain ⟨p, k', rest, notices, stops, follows, begun, e⟩ | ⟨goes, follows, notices, e⟩ :=
    start_cases (τ := τ) size k spool
  · rw [e]
    exact .inl ⟨p, k', rest, notices, stops, follows, begun, rfl⟩
  · rw [e]
    refine .inr ⟨goes, follows, ?_⟩
    obtain ⟨close, spool_eq, -⟩ := Reading.foldl_take_begin size
      (Progress.begin τ (found spool) k) rfl (emptied spool) notices input
    dsimp only
    rw [Reading.finish, close, spool_eq]
    unfold afterInput
    cases hf : ((Progress.begin τ (found spool) k).advanceAll (rounds size input)).fault with
    | some fault => exact .inl ⟨fault, rfl, _, rfl⟩
    | none => exact .inr ⟨rfl, _, rfl⟩

theorem follows_relay (size : Nat) (stamp : Stamp) (input : List (Arrival τ)) (k : κ)
    (spool : Option Spool) : Follows spool (relay size stamp input k spool).spool := by
  obtain ⟨p, k', rest, notices, -, follows, -, e⟩ |
      ⟨-, follows, ⟨fault, -, notices, e⟩ | ⟨-, notices, e⟩⟩ :=
    relay_cases size stamp input k spool
  · rw [e]
    exact follows
  · rw [e]
    exact follows
  · rw [e]
    exact follows.trans (follows_keep ..)

theorem consumed_of_none (h : panic? τ size k spool = none) :
    consumed size input k spool =
      (Progress.begin τ (found spool) k).consumed (rounds size input) := by
  rw [consumed, h]
  rfl

/-- What has become of the lines of a relay. -/
structure Account where
  read : List String
  delivered : List String
  waived : List String
  /-- What was in memory and nowhere else when the relay ended. -/
  held : List String

def Account.empty : Account := ⟨[], [], [], []⟩

variable [Audit κ]

def Account.of (size : Nat) (stamp : Stamp) (input : List (Arrival τ)) (k : κ)
    (spool : Option Spool) : Account :=
  let e := relay size stamp input k spool
  let rounds := consumed size input k spool
  { read := rounds.flatMap (·.lines)
    delivered := Audit.delivered e.carrier
    waived := Audit.waived e.carrier
    held :=
      match e.result with
      | .error _ => Audit.held e.carrier ++ (rounds.flatMap Round.unfinished).map terminated
      | _ => [] }

section

variable [Accountable τ κ]

theorem right_afterInput (goes : panic? τ size k spool = none) (input : List (Arrival τ))
    (books : Audit.Right [] k) (going : Audit.Going k) :
    (afterInput size input k spool).Right
      ((found spool ++ (consumed size input k spool).flatMap Round.handed).map terminated) := by
  rw [consumed_of_none goes, List.map_append]
  exact (Progress.right_begin books going _).advanceAll _

theorem counts_afterInput (goes : panic? τ size k spool = none) (input : List (Arrival τ))
    (books : Audit.Right [] k) (going : Audit.Going k) :
    (afterInput size input k spool).restored = (found spool).length ∧
      (afterInput size input k spool).read =
        ((consumed size input k spool).flatMap Round.handed).length := by
  have restored : (afterInput size input k spool).restored = (found spool).length :=
    Progress.restored_advanceAll ..
  have count := (right_afterInput goes input books going).count
  rw [List.length_map, List.length_append, restored] at count
  exact ⟨restored, Nat.add_left_cancel count⟩

theorem relay_ok {summary : Summary} (books : Audit.Right [] k) (going : Audit.Going k)
    (ok : (relay size stamp input k spool).result = .ok summary) :
    let a := Account.of size stamp input k spool
    summary.restored = (found spool).length ∧ summary.read = a.read.length ∧
      summary.delivered = a.delivered.length ∧
      ∃ kept, ((found spool ++ a.read).map terminated).Perm (a.delivered ++ (kept ++ a.waived)) ∧
        summary.spooled + summary.lost = kept.length ∧
        (summary.lost = 0 → kept = [] ∨ ∃ sp, (relay size stamp input k spool).spool = some sp ∧
          sp.Files ⟨stamp.id, stamp.time, kept⟩) := by
  unfold Account.of
  obtain ⟨p, k', rest, notices, -, -, -, he⟩ |
      ⟨goes, -, ⟨fault, -, notices, he⟩ | ⟨sound, notices, he⟩⟩ :=
    relay_cases size stamp input k spool
  · rw [he] at ok
    cases ok
  · rw [he] at ok
    cases ok
  · rw [he] at ok ⊢
    cases ok
    have right := right_afterInput goes input books going
    have complete : (consumed size input k spool).flatMap Round.unfinished = [] := by
      rw [consumed_of_none goes]
      exact Progress.unfinished_of_fault sound
    obtain ⟨restored, read⟩ := counts_afterInput goes input books going
    have whole : ((consumed size input k spool).flatMap (·.lines)).Perm
        ((consumed size input k spool).flatMap Round.handed) := by
      have := Round.lines_perm (consumed size input k spool)
      rwa [complete, List.append_nil] at this
    obtain ⟨delivered, perm⟩ := Accountable.finish (τ := τ) right.books
    obtain ⟨⟨read_eq, restored_eq, delivered_eq⟩, left, stored⟩ := keep_spec stamp
      (Carrier.finish τ (afterInput size input k spool).carrier).1.undelivered (emptied spool)
      (s := (afterInput size input k spool).summary
        (Carrier.finish τ (afterInput size input k spool).carrier).1) rfl rfl
    exact ⟨restored_eq.trans restored, (read_eq.trans read).trans whole.length_eq.symm,
      delivered_eq.trans delivered, _, ((whole.append_left _).map _).trans perm, left, stored⟩

theorem relay_error {cause : Error} (books : Audit.Right [] k) (going : Audit.Going k)
    (failed : (relay size stamp input k spool).result = .error cause) :
    let a := Account.of size stamp input k spool
    (∃ fault, cause = .input fault) ∧ found (relay size stamp input k spool).spool = [] ∧
      ((found spool ++ a.read).map terminated).Perm (a.delivered ++ (a.held ++ a.waived)) := by
  unfold Account.of
  obtain ⟨p, k', rest, notices, -, -, -, he⟩ |
      ⟨goes, -, ⟨fault, -, notices, he⟩ | ⟨-, notices, he⟩⟩ :=
    relay_cases size stamp input k spool
  · rw [he] at failed
    cases failed
  · rw [he] at failed ⊢
    cases failed
    refine ⟨⟨fault, rfl⟩, found_emptied spool, ?_⟩
    have right := right_afterInput goes input books going
    have perm := Accountable.perm τ right.books
    have whole := Round.lines_perm (consumed size input k spool)
    refine ((whole.append_left _).map _).trans ?_
    rw [← List.append_assoc, List.map_append]
    refine (perm.append_right _).trans (List.perm_iff_count.2 fun line => ?_)
    simp only [List.count_append]
    omega
  · rw [he] at failed
    cases failed

end

end MetricRelay.Relay
