import MetricRelay.Proofs.Relay.Carrier
import MetricRelay.Proofs.Relay.Input

namespace MetricRelay.Relay

variable {τ κ : Type} [Carrier τ κ] {size : Nat} {Clean : κ → Prop}
  {Passed Finished : List String → κ → Prop} {given : List String} {k : κ}

/-- A carrier, of which `Clean` says that it has met with nothing but success so far. As long as
that is so, `Passed` tells the lines that it has been handed, all of which have been delivered. -/
structure Unfailing (τ : Type) {κ : Type} [Carrier τ κ] (size : Nat) (Clean : κ → Prop)
    (Passed Finished : List String → κ → Prop) : Prop where
  clean_resume {lines : List String} {k : κ} : Clean (Carrier.resume τ lines k) → Clean k
  clean_deliver {lines : List String} {k : κ} : Clean (Carrier.deliver τ lines k).2 → Clean k
  clean_finish {k : κ} : Clean (Carrier.finish τ k).2 → Clean k
  resume {lines : List String} {k : κ} : Passed [] k → Clean (Carrier.resume τ lines k) →
    Passed lines (Carrier.resume τ lines k)
  deliver {given lines : List String} {k : κ} : lines ≠ [] → lines.length ≤ size →
    Passed given k → Clean (Carrier.deliver τ lines k).2 →
      (Carrier.deliver τ lines k).1 = true ∧ Passed (given ++ lines) (Carrier.deliver τ lines k).2
  finish {given : List String} {k : κ} : Passed given k → Clean (Carrier.finish τ k).2 →
    (Carrier.finish τ k).1.delivered = given.length ∧ (Carrier.finish τ k).1.undelivered = [] ∧
      Finished given (Carrier.finish τ k).2

def Summary.complete (read restored : Nat) : Summary := ⟨read, restored, read + restored, 0, 0⟩

theorem keep_nil (stamp : Stamp) (spool : Option Spool) (s : Summary) :
    keep stamp [] spool s = (s, spool) := rfl

namespace Progress

theorem advance_of (p : Progress κ) {lines : List String} (some_ : lines ≠ []) :
    p.advance (Round.of lines : Round τ) =
      { p with
        carrier := (Carrier.deliver τ lines p.carrier).2
        read := p.read + lines.length
        ended := !(Carrier.deliver τ lines p.carrier).1 } := by
  simp [advance, Round.of, some_]

theorem advance_of_nil (p : Progress κ) :
    p.advance (Round.of [] : Round τ) = { p with ended := true } := by
  simp [advance, Round.of]

structure Fine (Passed : List String → κ → Prop) (given : List String) (restored read : Nat)
    (p : Progress κ) : Prop where
  passed : Passed given p.carrier
  restored : p.restored = restored
  read : p.read = read
  fault : p.fault = none

end Progress

namespace Unfailing

open Progress

variable (h : Unfailing τ size Clean Passed Finished)

include h

theorem clean_advanceAll {p : Progress κ} (batches : List (List String))
    (clean : Clean (p.advanceAll (batches.map (Round.of (τ := τ)))).carrier) : Clean p.carrier := by
  induction batches generalizing p with
  | nil => exact clean
  | cons lines batches ih =>
    unfold advanceAll at clean
    rw [List.map_cons] at clean
    dsimp only at clean
    split at clean
    · exact clean
    · have clean := ih clean
      by_cases empty : lines = []
      · obtain rfl := empty
        exact clean
      · rw [p.advance_of empty] at clean
        exact h.clean_deliver clean

theorem fine_advance {restored read : Nat} {p : Progress κ} {lines : List String}
    (fine : p.Fine Passed given restored read) (some_ : lines ≠ []) (short : lines.length ≤ size)
    (clean : Clean (p.advance (Round.of lines : Round τ)).carrier) :
    (p.advance (Round.of lines : Round τ)).ended = false ∧
      (p.advance (Round.of lines : Round τ)).Fine Passed (given ++ lines) restored
        (read + lines.length) := by
  rw [p.advance_of some_] at clean ⊢
  obtain ⟨goesOn, passed⟩ := h.deliver some_ short fine.passed clean
  refine ⟨by simp [goesOn], passed, fine.restored, ?_, fine.fault⟩
  exact congrArg (· + lines.length) fine.read

theorem fine_advanceAll {restored read : Nat} {full : List (List String)} {last : List String}
    (some_ : ∀ batch ∈ full, batch ≠ []) (short : ∀ batch ∈ full ++ [last], batch.length ≤ size)
    {p : Progress κ} (fine : p.Fine Passed given restored read) (going : p.ended = false)
    (clean : Clean (p.advanceAll ((full ++ [last]).map (Round.of (τ := τ)))).carrier) :
    (p.advanceAll ((full ++ [last]).map (Round.of (τ := τ)))).Fine Passed
      (given ++ (full ++ [last]).flatten) restored (read + (full ++ [last]).flatten.length) := by
  induction full generalizing p given read with
  | nil =>
    rw [List.nil_append, List.map_singleton, advanceAll, if_neg (by simp [going])] at clean ⊢
    change Clean (p.advance (Round.of last : Round τ)).carrier at clean
    change (p.advance (Round.of last : Round τ)).Fine _ _ _ _
    by_cases empty : last = []
    · obtain rfl := empty
      rw [p.advance_of_nil]
      exact ⟨by simpa using fine.passed, fine.restored, fine.read, fine.fault⟩
    · have := h.fine_advance fine empty (short last (List.mem_singleton_self _)) clean
      simpa using this.2
  | cons lines full ih =>
    rw [List.cons_append, List.map_cons, advanceAll, if_neg (by simp [going])] at clean ⊢
    obtain ⟨going, fine⟩ := h.fine_advance fine (some_ lines (List.mem_cons_self ..))
      (short lines (List.mem_cons_self ..)) (h.clean_advanceAll _ clean)
    have := ih (fun batch hb => some_ batch (List.mem_cons_of_mem _ hb))
      (fun batch hb => short batch (List.mem_cons_of_mem _ hb)) fine going clean
    rw [List.flatten_cons, List.length_append]
    simpa [Nat.add_assoc] using this

section

variable {stamp : Stamp} {spool : Option Spool} {chunks : List Bytes} {text : String}
  (goes : panic? τ size k spool = none)

include goes

theorem clean_afterInput (clean : Clean (Relay.relay size stamp (fed τ chunks) k spool).carrier) :
    Clean (afterInput size (fed τ chunks) k spool).carrier := by
  obtain ⟨p, -, -, -, stops, -⟩ | ⟨-, -, ⟨fault, -, notices, e⟩ | ⟨-, notices, e⟩⟩ :=
    relay_cases size stamp (fed τ chunks) k spool
  · cases goes.symm.trans stops
  · rwa [e] at clean
  · rw [e] at clean
    exact h.clean_finish clean

variable (size_ : 0 < size) (read : chunks.flatten = Text.bytes text)

include size_ read

theorem clean_relay (clean : Clean (Relay.relay size stamp (fed τ chunks) k spool).carrier) :
    Clean k := by
  obtain ⟨full, last, batches, -⟩ := rounds_bytes (τ := τ) size_ read
  have met := h.clean_afterInput goes clean
  unfold afterInput at met
  rw [batches] at met
  exact h.clean_resume (h.clean_advanceAll _ met)

omit goes in
theorem fine_afterInput (start : Passed [] k)
    (clean : Clean (afterInput size (fed τ chunks) k spool).carrier) :
    (afterInput size (fed τ chunks) k spool).Fine Passed (found spool ++ inputLines text)
      (found spool).length (inputLines text).length := by
  obtain ⟨full, last, batches, some_, short, flat⟩ := rounds_bytes (τ := τ) size_ read
  unfold afterInput at clean ⊢
  rw [batches] at clean ⊢
  have begun : (begin τ (found spool) k).Fine Passed (found spool) (found spool).length 0 :=
    ⟨h.resume start (h.clean_advanceAll _ clean), rfl, rfl, rfl⟩
  have fine := h.fine_advanceAll some_ short begun rfl clean
  rwa [flat, Nat.zero_add] at fine

theorem relay (start : Passed [] k)
    (clean : Clean (Relay.relay size stamp (fed τ chunks) k spool).carrier) :
    let e := Relay.relay size stamp (fed τ chunks) k spool
    let lines := found spool ++ inputLines text
    e.result = .ok (.complete (inputLines text).length (found spool).length) ∧
      Finished lines e.carrier := by
  have fine := h.fine_afterInput size_ read start (h.clean_afterInput goes clean)
  obtain ⟨p, -, -, -, stops, -⟩ | ⟨-, -, ⟨fault, faulty, notices, e⟩ | ⟨-, notices, e⟩⟩ :=
    relay_cases size stamp (fed τ chunks) k spool
  · cases goes.symm.trans stops
  · cases fine.fault.symm.trans faulty
  · rw [e] at clean ⊢
    obtain ⟨delivered, undelivered, finished⟩ := h.finish fine.passed clean
    refine ⟨?_, finished⟩
    rw [undelivered, keep_nil, Progress.summary, fine.read, fine.restored, delivered,
      List.length_append, Nat.add_comm]
    rfl

end

end Unfailing

end MetricRelay.Relay
