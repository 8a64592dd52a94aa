import Mathlib.Algebra.GroupWithZero.Nat
import MetricRelay.Gzip.Bits

namespace MetricRelay.Gzip

/-- From `r` on the bits are read, and then `r'` is left. -/
def Reads : List Bool → BitReader → BitReader → Prop
  | [], r, r' => r' = r
  | b :: bits, r, r' => ∃ r₁, r.next? = some (b.toNat, r₁) ∧ Reads bits r₁ r'

variable {bits bits' : List Bool} {r r' r'' : BitReader}

theorem Reads.append (h : Reads bits r r') (h' : Reads bits' r' r'') :
    Reads (bits ++ bits') r r'' := by
  induction bits generalizing r with
  | nil =>
    cases h
    exact h'
  | cons b bits ih =>
    obtain ⟨r₁, first, later⟩ := h
    exact ⟨r₁, first, ih later⟩

theorem reads_append : Reads (bits ++ bits') r r'' ↔ ∃ r', Reads bits r r' ∧ Reads bits' r' r'' := by
  refine ⟨fun h => ?_, fun ⟨r', h, h'⟩ => h.append h'⟩
  induction bits generalizing r with
  | nil => exact ⟨r, rfl, h⟩
  | cons b bits ih =>
    obtain ⟨r₁, first, later⟩ := h
    obtain ⟨r', h, h'⟩ := ih later
    exact ⟨r', ⟨r₁, first, h⟩, h'⟩

theorem BitReader.remaining_next? {b : Nat} (h : r.next? = some (b, r')) (within : r.bit ≤ 7) :
    r'.bit ≤ 7 ∧ 8 * r'.data.length - r'.bit + 1 = 8 * r.data.length - r.bit := by
  obtain ⟨_ | ⟨byte, data⟩, bit⟩ := r
  · cases h
  · dsimp only at within
    simp only [next?, Option.some.injEq, Prod.mk.injEq] at h
    obtain ⟨-, rfl⟩ := h
    split
    · simp only [List.length_cons]
      omega
    · simp only [List.length_cons]
      omega

theorem Reads.remaining (h : Reads bits r r') (within : r.bit ≤ 7) :
    r'.bit ≤ 7 ∧ bits.length ≤ 8 * r.data.length - r.bit := by
  induction bits generalizing r with
  | nil =>
    cases h
    exact ⟨within, Nat.zero_le _⟩
  | cons b bits ih =>
    obtain ⟨r₁, first, later⟩ := h
    obtain ⟨within, remaining⟩ := r.remaining_next? first within
    obtain ⟨within, length_le⟩ := ih later within
    rw [List.length_cons]
    exact ⟨within, by omega⟩

theorem lowFirst_succ (width n : Nat) :
    lowFirst (width + 1) n = n.testBit 0 :: lowFirst width (n / 2) := by
  simp only [lowFirst, List.range_succ_eq_map, List.map_cons, List.map_map]
  congr 1
  refine List.map_congr_left fun i _ => ?_
  rw [Function.comp, Nat.testBit_succ]

theorem Reads.number? {width n : Nat} (h : Reads (lowFirst width n) r r') (small : n < 2 ^ width) :
    BitReader.number? width r = some (n, r') := by
  induction width generalizing n r with
  | zero =>
    obtain rfl : n = 0 := by simpa using small
    cases h
    rfl
  | succ width ih =>
    rw [lowFirst_succ] at h
    obtain ⟨r₁, first, later⟩ := h
    have rest := ih later (by omega)
    have low : (n.testBit 0).toNat + 2 * (n / 2) = n := by
      rw [Nat.toNat_testBit]
      omega
    simp only [BitReader.number?, first, rest, low, Option.bind_eq_bind, Option.bind_some,
      Option.pure_def]

def BitReader.within (byte : UInt8) (data : Bytes) (k : Nat) : BitReader :=
  if k < 8 then ⟨byte :: data, k⟩ else ofBytes data

theorem reads_within {byte : UInt8} {k : Nat} (data : Bytes) (room : k + bits.length ≤ 8)
    (h : byte.toNat / 2 ^ k = ofBits bits) :
    Reads bits (.within byte data k) (.within byte data (k + bits.length)) := by
  induction bits generalizing k with
  | nil => rfl
  | cons b bits ih =>
    rw [List.length_cons] at room ⊢
    have value : byte.toNat / 2 ^ k = b.toNat + 2 * ofBits bits := h
    have low : b.toNat ≤ 1 := b.toNat_le
    refine ⟨.within byte data (k + 1), ?_, ?_⟩
    · have first : byte.toNat / Nat.pow 2 k % 2 = b.toNat := by
        change byte.toNat / 2 ^ k % 2 = _
        omega
      simp only [BitReader.within, if_pos (show k < 8 by omega), BitReader.next?, first]
      congr 2
      by_cases last : k < 7
      · rw [if_pos last, if_pos (by omega)]
      · rw [if_neg last, if_neg (by omega)]
        rfl
    · rw [Nat.add_comm bits.length 1, ← Nat.add_assoc]
      refine ih (by omega) ?_
      rw [Nat.pow_succ, ← Nat.div_div_eq_div_mul]
      omega

theorem ofBits_lt (bits : List Bool) : ofBits bits < 2 ^ bits.length := by
  induction bits with
  | nil => exact Nat.one_pos
  | cons b bits ih =>
    have low : b.toNat ≤ 1 := b.toNat_le
    rw [ofBits, List.length_cons, Nat.pow_succ]
    omega

theorem reads_packBits (bits : List Bool) (more : Bytes) :
    ∃ r, Reads bits (.ofBytes (packBits bits ++ more)) r ∧ r.rest = more := by
  induction bits using packBits.induct with
  | case1 =>
    refine ⟨.ofBytes more, ?_, rfl⟩
    rw [packBits]
    rfl
  | case2 b rest ih =>
    let byte := (b :: rest).take 8
    have short : byte.length ≤ 8 := List.length_take_le ..
    have small : ofBits byte < 256 :=
      Nat.lt_of_lt_of_le (ofBits_lt byte) (Nat.pow_le_pow_right (by decide) short)
    have value : (UInt8.ofNat (ofBits byte)).toNat / 2 ^ 0 = ofBits byte := by
      rw [UInt8.toNat_ofNat', Nat.pow_zero, Nat.div_one, Nat.mod_eq_of_lt small]
    have first := reads_within (packBits (rest.drop 7) ++ more) (by omega) value
    rw [Nat.zero_add] at first
    have pack : packBits (b :: rest) = UInt8.ofNat (ofBits byte) :: packBits (rest.drop 7) := by
      rw [packBits]
    rw [pack]
    -- Only the last byte may be filled up with zeros.
    by_cases full : 8 ≤ (b :: rest).length
    · have eight : byte.length = 8 := by rw [List.length_take]; omega
      obtain ⟨r, later, rest_eq⟩ := ih
      rw [eight] at first
      have whole : byte ++ rest.drop 7 = b :: rest := List.take_append_drop 8 (b :: rest)
      exact ⟨r, whole ▸ first.append later, rest_eq⟩
    · rw [List.length_cons] at full
      have all : byte = b :: rest := List.take_of_length_le (by rw [List.length_cons]; omega)
      have last : rest.drop 7 = [] := List.drop_eq_nil_of_le (by omega)
      have length : byte.length = rest.length + 1 := congrArg List.length all
      refine ⟨_, (congrArg (Reads · _ _) all).mp first, ?_⟩
      rw [BitReader.within, length, if_pos (by omega), BitReader.rest, if_neg (by simp), last,
        packBits]
      rfl

end MetricRelay.Gzip
