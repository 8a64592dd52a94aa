import MetricRelay.Proofs.Relay.Carrier
import MetricRelay.Proofs.Relay.Unfailing

namespace MetricRelay.Relay

variable {τ κ : Type} [Carrier τ κ]

namespace Round

theorem flatMap_lines {rs : List (Round τ)} (complete : rs.flatMap unfinished = []) :
    rs.flatMap (·.lines) = rs.flatMap handed := by
  refine List.flatMap_congr fun r hr => ?_
  have none_ := List.flatMap_eq_nil_iff.1 complete r hr
  unfold unfinished at none_
  unfold handed
  split
  · rename_i faulty
    rwa [if_pos faulty] at none_
  · rfl

theorem changes_of_add (g : Gathering τ) (a : Arrival τ) :
    (∃ g', g.add a = .inl g' ∧ ∀ f ∈ g'.changes, f ∈ g.changes ∨ a = .change f) ∨
      ∃ r, g.add a = .inr r ∧ ∀ f ∈ r.changes, f ∈ g.changes := by
  have turned (f : τ → τ) : f ∈ g.changes.reverse → f ∈ g.changes := List.mem_reverse.1
  cases a with
  | change f' =>
    refine .inl ⟨_, rfl, fun f hf => ?_⟩
    obtain rfl | old := List.mem_cons.1 hf
    · exact .inr rfl
    · exact .inl old
  | stop => exact .inr ⟨_, rfl, turned⟩
  | failed fault => exact .inr ⟨_, rfl, turned⟩
  | line s =>
    simp only [Gathering.add]
    split
    · exact .inl ⟨g, rfl, fun f hf => .inl hf⟩
    · split
      · exact .inr ⟨_, rfl, turned⟩
      · exact .inl ⟨_, rfl, fun f hf => .inl hf⟩

theorem mem_of_mem_changes_from {size : Nat} {input : List (Arrival τ)} {g : Gathering τ}
    {r : Round τ} {f : τ → τ} (hr : r ∈ roundsFrom size g input) (hf : f ∈ r.changes) :
    f ∈ g.changes ∨ .change f ∈ input := by
  induction input generalizing g with
  | nil =>
    cases List.mem_singleton.1 hr
    exact .inl (List.mem_reverse.1 hf)
  | cons a input ih =>
    unfold roundsFrom at hr
    obtain ⟨g', added, changes⟩ | ⟨r', added, changes⟩ := changes_of_add g a
    · rw [added] at hr
      obtain new | later := ih hr
      · refine (changes f new).imp_right ?_
        rintro rfl
        exact List.mem_cons_self
      · exact .inr (List.mem_cons_of_mem _ later)
    · rw [added] at hr
      obtain rfl | hr := List.mem_cons.1 hr
      · exact .inl (changes f hf)
      · exact .inr (List.mem_cons_of_mem _ ((ih hr).resolve_left List.not_mem_nil))

theorem mem_of_mem_changes {size : Nat} {input : List (Arrival τ)} {r : Round τ} {f : τ → τ}
    (hr : r ∈ rounds size input) (hf : f ∈ r.changes) : .change f ∈ input := by
  unfold rounds at hr
  split at hr
  · cases List.mem_singleton.1 hr
    cases hf
  · exact (mem_of_mem_changes_from hr hf).resolve_left List.not_mem_nil

end Round

namespace Progress

theorem isPrefix_consumed (p : Progress κ) (rs : List (Round τ)) : p.consumed rs <+: rs := by
  induction rs generalizing p with
  | nil => exact List.prefix_rfl
  | cons r rs ih =>
    unfold consumed
    split
    · exact List.nil_prefix
    · exact List.cons_prefix_cons.2 ⟨rfl, ih _⟩

def handedOver (p : Progress κ) (rs : List (Round τ)) : List (List String) :=
  ((p.consumed rs).map Round.handed).filter (· ≠ [])

theorem flatten_handedOver (p : Progress κ) (rs : List (Round τ)) :
    (p.handedOver rs).flatten = (p.consumed rs).flatMap Round.handed := by
  rw [handedOver, List.flatMap_def]
  exact List.flatten_filter_ne_nil

section

variable {P : List (List String) → κ → Prop} {G : κ → Prop} {F : (τ → τ) → Prop}
  (change : ∀ {batches k f}, F f → P batches k → G k →
    P batches (Carrier.change f k) ∧ G (Carrier.change f k))
  (deliver : ∀ {batches k lines}, lines ≠ [] → P batches k → G k →
    P (batches ++ [lines]) (Carrier.deliver τ lines k).2 ∧
      ((Carrier.deliver τ lines k).1 = true → G (Carrier.deliver τ lines k).2))

include change deliver

theorem carried_advance {p : Progress κ} {batches : List (List String)} (h : P batches p.carrier)
    (going : G p.carrier) {r : Round τ} (fine : ∀ f ∈ r.changes, F f) :
    P (batches ++ [r.handed].filter (· ≠ [])) (p.advance r).carrier ∧
      ((p.advance r).ended = false → G (p.advance r).carrier) := by
  have met : P batches (r.changes.foldl (fun k f => Carrier.change f k) p.carrier) ∧
      G (r.changes.foldl (fun k f => Carrier.change f k) p.carrier) := by
    generalize p.carrier = k at h going
    generalize r.changes = changes at fine
    induction changes generalizing k with
    | nil => exact ⟨h, going⟩
    | cons f changes ih =>
      obtain ⟨first, others⟩ := List.forall_mem_cons.1 fine
      obtain ⟨h, going⟩ := change first h going
      exact ih _ h going others
  unfold advance Round.handed
  dsimp only
  by_cases faulty : r.fault.isSome = true
  · simpa [faulty] using met.1
  · by_cases empty : r.lines.isEmpty = true
    · simpa [faulty, List.isEmpty_iff.1 empty] using met.1
    · have some_ : r.lines ≠ [] := by simpa using empty
      obtain ⟨h, goesOn⟩ := deliver some_ met.1 met.2
      simp only [faulty, empty, if_false, Bool.false_eq_true]
      refine ⟨by simpa [some_] using h, fun e => goesOn ?_⟩
      simpa using e

theorem carried_advanceAll {p : Progress κ} {batches : List (List String)}
    (h : P batches p.carrier) (going : p.ended = false → G p.carrier) {rs : List (Round τ)}
    (fine : ∀ r ∈ rs, ∀ f ∈ r.changes, F f) :
    P (batches ++ p.handedOver rs) (p.advanceAll rs).carrier := by
  induction rs generalizing p batches with
  | nil => simpa [handedOver, consumed, advanceAll] using h
  | cons r rs ih =>
    unfold handedOver consumed advanceAll
    split
    · simpa using h
    · rename_i on
      obtain ⟨first, others⟩ := List.forall_mem_cons.1 fine
      obtain ⟨h, going⟩ := carried_advance change deliver h (going (by simpa using on)) first
      have := ih h going others
      rw [List.append_assoc] at this
      rwa [List.map_cons, ← List.singleton_append, List.filter_append]

end

theorem consumed_eq_self {T : κ → Prop}
    (deliver : ∀ {k} (lines), T k → (Carrier.deliver τ lines k).1 = true ∧
      T (Carrier.deliver τ lines k).2)
    {p : Progress κ} (h : T p.carrier) (going : p.ended = false) {full : List (List String)}
    (some_ : ∀ batch ∈ full, batch ≠ []) (last : List String) :
    p.consumed ((full ++ [last]).map (Round.of (τ := τ))) = (full ++ [last]).map Round.of := by
  induction full generalizing p with
  | nil => simp [consumed, going]
  | cons lines full ih =>
    obtain ⟨first, others⟩ := List.forall_mem_cons.1 some_
    obtain ⟨wants, next⟩ := deliver lines h
    rw [List.cons_append, List.map_cons, consumed, if_neg (by simp [going]), p.advance_of first]
    exact congrArg _ (ih next (by simp [wants]) others)

theorem fault_advanceAll {p : Progress κ} (h : p.fault = none) (batches : List (List String)) :
    (p.advanceAll (batches.map (Round.of (τ := τ)))).fault = none := by
  induction batches generalizing p with
  | nil => exact h
  | cons lines batches ih =>
    rw [List.map_cons]
    unfold advanceAll
    split
    · exact h
    · refine ih ?_
      by_cases empty : lines = []
      · obtain rfl := empty
        exact h
      · rw [p.advance_of empty]
        exact h

end Progress

section

variable {size : Nat} {k : κ} {spool : Option Spool}

theorem fault_afterInput {chunks : List Bytes} {text : String} (size_ : 0 < size)
    (text_eq : chunks.flatten = Text.bytes text) (k : κ) (spool : Option Spool) :
    (afterInput size (fed τ chunks) k spool).fault = none := by
  obtain ⟨full, last, read, -⟩ := rounds_bytes (τ := τ) size_ text_eq
  rw [afterInput, read]
  exact Progress.fault_advanceAll rfl _

theorem restore_of_goes (goes : panic? τ size k spool = none) :
    restore spool = (.ok (found spool), emptied spool) := by
  obtain ⟨oversized, -⟩ | ⟨-, restored⟩ := restore_cases spool
  · rw [panic?, if_pos oversized] at goes
    cases goes
  · exact restored

theorem completes_of_ok {stamp : Stamp} {input : List (Arrival τ)} {summary : Summary}
    (ok : (relay size stamp input k spool).result = .ok summary) :
    panic? τ size k spool = none ∧ (afterInput size input k spool).fault = none := by
  obtain ⟨p, _, _, _, -, -, -, e⟩ | ⟨goes, -, ⟨fault, -, _, e⟩ | ⟨sound, -⟩⟩ :=
    relay_cases size stamp input k spool
  · rw [e] at ok
    cases ok
  · rw [e] at ok
    cases ok
  · exact ⟨goes, sound⟩

theorem relay_eq {input : List (Arrival τ)} (goes : panic? τ size k spool = none)
    (sound : (afterInput size input k spool).fault = none) (stamp : Stamp) :
    let p := afterInput size input k spool
    let d := (Carrier.finish τ p.carrier).1
    let r := keep stamp d.undelivered (emptied spool) (p.summary d)
    ∃ notices, relay size stamp input k spool =
      ⟨.ok r.1, (Carrier.finish τ p.carrier).2, r.2, notices⟩ := by
  obtain ⟨p, -, -, -, stops, -⟩ | ⟨-, -, ⟨fault, faulty, -⟩ | ⟨-, e⟩⟩ :=
    relay_cases size stamp input k spool
  · cases goes.symm.trans stops
  · cases sound.symm.trans faulty
  · exact e

end

end MetricRelay.Relay
