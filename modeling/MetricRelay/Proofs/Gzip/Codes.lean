import Mathlib.Data.List.GetD
import MetricRelay.Gzip.Deflate
import MetricRelay.Proofs.Gzip.Bits

namespace MetricRelay.Gzip

variable {bits : List Bool} {r r' : BitReader}

namespace Huffman

def codeword? (symbols : Array Nat) : List Nat → Nat → Nat → Nat → List Bool → Option Nat
  | count :: counts, code, first, index, b :: bits =>
    let code := 2 * code + b.toNat
    let first := 2 * first
    if code < first + count then
      if bits.isEmpty then symbols[index + (code - first)]? else none
    else codeword? symbols counts code (first + count) (index + count) bits
  | _, _, _, _, _ => none

theorem symbolFrom?_of_codeword? {symbols : Array Nat} {counts : List Nat}
    {code first index s : Nat} (h : codeword? symbols counts code first index bits = some s)
    (reads : Reads bits r r') : symbolFrom? symbols counts code first index r = some (s, r') := by
  induction bits generalizing counts code first index r with
  | nil =>
    unfold codeword? at h
    split at h
    · contradiction
    · cases h
  | cons b bits ih =>
    cases counts with
    | nil => cases h
    | cons count counts =>
      obtain ⟨r₁, next, later⟩ := reads
      simp only [codeword?] at h
      simp only [symbolFrom?, next, Option.bind_eq_bind, Option.bind_some]
      split at h
      · rename_i found
        split at h
        · rename_i last
          obtain rfl := List.isEmpty_iff.1 last
          cases later
          rw [if_pos found, h]
          rfl
        · cases h
      · rename_i longer
        rw [if_neg longer]
        exact ih h later

end Huffman

theorem codeword?_fixedCode : ∀ s < 288,
    Huffman.codeword? fixedCodes.literals.symbols fixedCodes.literals.counts 0 0 0 (fixedCode s) =
      some s := by
  decide +kernel

theorem codeword?_highFirst : ∀ d < 32,
    Huffman.codeword? fixedCodes.distances.symbols fixedCodes.distances.counts 0 0 0
      (highFirst 5 d) = some d := by
  decide +kernel

theorem symbol?_fixedCode {s : Nat} (h : s < 288) (reads : Reads (fixedCode s) r r') :
    fixedCodes.literals.symbol? r = some (s, r') :=
  Huffman.symbolFrom?_of_codeword? (codeword?_fixedCode s h) reads

theorem symbol?_highFirst {d : Nat} (h : d < 32) (reads : Reads (highFirst 5 d) r r') :
    fixedCodes.distances.symbol? r = some (d, r') :=
  Huffman.symbolFrom?_of_codeword? (codeword?_highFirst d h) reads

theorem le_iff_lt_length_filter {bases : List Nat} {n i : Nat} (sorted : bases.Pairwise (· < ·))
    (h : i < bases.length) : bases[i] ≤ n ↔ i < (bases.filter (· ≤ n)).length := by
  induction bases generalizing i with
  | nil => cases h
  | cons base bases ih =>
    obtain ⟨above, sorted⟩ := List.pairwise_cons.1 sorted
    by_cases reached : base ≤ n
    · rw [List.filter_cons_of_pos (by simpa using reached), List.length_cons]
      cases i with
      | zero => simpa using reached
      | succ i =>
        rw [List.getElem_cons_succ, Nat.succ_lt_succ_iff]
        exact ih sorted (Nat.lt_of_succ_lt_succ h)
    · have none_ : bases.filter (· ≤ n) = [] := by
        refine List.filter_eq_nil_iff.2 fun other mem => ?_
        have := above other mem
        simp
        omega
      rw [List.filter_cons_of_neg (by simpa using reached), none_]
      have above_ : n < (base :: bases)[i] := by
        cases i with
        | zero => exact Nat.not_le.1 reached
        | succ i => exact Nat.lt_trans (Nat.not_le.1 reached) (above _ (List.getElem_mem _))
      simp
      omega

/-- Between a base and the next, or the limit, lies no more than the bits can tell that follow the
symbol. -/
structure Ruled (bases extra : List Nat) (limit : Nat) : Prop where
  sorted : bases.Pairwise (· < ·)
  room : ∀ i < bases.length,
    (bases ++ [limit]).getD (i + 1) 0 ≤ bases.getD i 0 + 2 ^ extra.getD i 0

theorem ruled_lengths : Ruled lengthBase lengthExtra 259 := by
  refine ⟨?_, ?_⟩ <;> decide +kernel

theorem ruled_distances : Ruled distanceBase distanceExtra 32769 := by
  refine ⟨?_, ?_⟩ <;> decide +kernel

theorem Ruled.slot {bases extra : List Nat} {limit n : Nat} (h : Ruled bases extra limit)
    (some_ : 0 < bases.length) (first : bases[0] ≤ n) (below : n < limit) :
    (slot bases n).1 < bases.length ∧
      bases.getD (slot bases n).1 0 + (slot bases n).2 = n ∧
      (slot bases n).2 < 2 ^ extra.getD (slot bases n).1 0 := by
  have reached := (le_iff_lt_length_filter h.sorted some_).1 first
  have within : (bases.filter (· ≤ n)).length ≤ bases.length := List.length_filter_le ..
  unfold Gzip.slot
  generalize hk : (bases.filter (· ≤ n)).length = k at reached within
  obtain ⟨i, rfl⟩ := Nat.exists_eq_add_of_le' reached
  dsimp only
  rw [Nat.add_sub_cancel]
  have base_le : bases.getD i 0 ≤ n := by
    rw [← List.getElem_eq_getD (h := within)]
    exact (le_iff_lt_length_filter h.sorted within).2 (by omega)
  have next : n < (bases ++ [limit]).getD (i + 1) 0 := by
    obtain inside | last := Nat.lt_or_eq_of_le within
    · rw [List.getD_append _ _ _ _ inside, ← List.getElem_eq_getD (h := inside)]
      refine Nat.not_le.1 fun low => ?_
      have := (le_iff_lt_length_filter h.sorted inside).1 low
      omega
    · rw [List.getD_append_right _ _ _ _ (Nat.le_of_eq last.symm), last, Nat.sub_self]
      exact below
  have room := h.room i within
  exact ⟨within, by omega, by omega⟩

end MetricRelay.Gzip
