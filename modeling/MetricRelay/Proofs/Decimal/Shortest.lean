import Mathlib.Tactic.FieldSimp
import MetricRelay.Decimal.Shortest
import MetricRelay.Proofs.Decimal.Nearest

/-!
The decimal found for a double rounds to it. The search tries a grid only for what the double's
interval holds, and its last grid has the double itself.
-/
namespace MetricRelay

def Decimal.toRat (d : Decimal) : ℚ := d.digits * 10 ^ d.shift / 10 ^ 1074

namespace Rounding

variable {r : Rounding}

theorem holds_iff {n : Nat} : r.holds n = true ↔
    (r.low ≤ n ∧ n ≤ r.high) ∧ (r.closed = false → r.low < n ∧ n < r.high) := by
  unfold holds
  cases r.closed with
  | false =>
    simp only [Bool.false_eq_true, if_false, Bool.and_eq_true, decide_eq_true_eq, forall_const]
    omega
  | true => simp

theorem holds_of_onGrid? {shift d : Nat} (value : r.holds r.value = true)
    (h : r.onGrid? shift = some d) : r.holds (d * step shift) = true := by
  unfold onGrid? at h
  dsimp only at h
  split at h
  · next exact =>
    cases h
    rwa [Nat.div_mul_cancel (Nat.dvd_of_mod_eq_zero exact)]
  · split at h
    · next down =>
      cases h
      exact (Bool.and_eq_true_iff.1 down).1
    · split at h
      · next up =>
        cases h
        exact up
      · cases h

theorem holds_search (value : r.holds r.value = true) (whole : 4 ∣ r.value) (n : Nat) :
    r.holds ((r.search n).digits * step (r.search n).shift) = true := by
  induction n with
  | zero =>
    change r.holds (r.value / 4 * 4) = true
    rwa [Nat.div_mul_cancel whole]
  | succ n ih =>
    unfold search
    split
    · next found => exact holds_of_onGrid? value found
    · exact ih

def quarters (n : Nat) : ℚ := n / (4 * 10 ^ 1074)

theorem quarters_strictMono : StrictMono quarters := fun n k h => by
  unfold quarters
  have : (n : ℚ) < k := by exact_mod_cast h
  gcongr

theorem quarters_mul_step (d : Decimal) : quarters (d.digits * step d.shift) = d.toRat := by
  have whole : ((d.digits * step d.shift : Nat) : ℚ) = 4 * (d.digits * 10 ^ d.shift) := by
    simp only [step, Nat.pow_eq]
    push_cast
    ring
  rw [quarters, whole, mul_div_mul_left _ _ (by norm_num)]
  rfl

theorem two_mul_quarters_unit (n k : Nat) :
    2 * quarters (2 * (Binary64.steps n + Binary64.steps k) * unit 0) =
      Binary64.magnitude n + Binary64.magnitude k := by
  have ten : (10 : ℚ) ^ 1074 = 2 ^ 1074 * 5 ^ 1074 := by rw [← mul_pow]; norm_num
  simp only [quarters, unit, Nat.pow_eq, Binary64.magnitude, ten, Nat.cast_mul, Nat.cast_add,
    Nat.cast_pow, Nat.cast_ofNat]
  have : (0 : ℚ) < 2 ^ 1074 := by positivity
  have : (0 : ℚ) < 5 ^ 1074 := by positivity
  generalize (2 : ℚ) ^ 1074 = two, (5 : ℚ) ^ 1074 = five, (Nat.cast (Binary64.steps n) : ℚ) = x,
    (Nat.cast (Binary64.steps k) : ℚ) = y at *
  field_simp
  ring

end Rounding

namespace Binary64

def unpack (b : UInt64) : Binary64 where
  negative := isNegative b
  mantissa := significand b
  power := exponentBits b - 1
  narrowBelow := fractionBits b == 0 && exponentBits b - 1 != 0

theorem ofBits?_of_not_isFinite {b : UInt64} (h : ¬IsFinite b) : ofBits? b = none := by
  rw [ofBits?, not_not.1 h]
  rfl

theorem ofBits?_of_isFinite {b : UInt64} (h : IsFinite b) : ofBits? b = some (unpack b) := by
  unfold IsFinite at h
  unfold ofBits? unpack significand
  split
  · contradiction
  · next e => simp [e, isNegative]
  · next e => simp [e, isNegative]

theorem narrowBelow_unpack {b : UInt64} :
    (unpack b).narrowBelow = true ↔ rank b % 2 ^ 52 = 0 ∧ rank b / 2 ^ 52 - 1 ≠ 0 := by
  rw [← fractionBits_eq, ← exponentBits_eq]
  simp [unpack]

theorem two_mul_pow_below {b : UInt64} (positive : 0 < rank b) :
    (if (unpack b).narrowBelow = true then 1 else 2) * 2 ^ (exponentBits b - 1) =
      2 * 2 ^ ((rank b - 1) / 2 ^ 52 - 1) := by
  rw [exponentBits_eq]
  split
  · next narrow =>
    have := narrowBelow_unpack.1 narrow
    rw [show rank b / 2 ^ 52 - 1 = (rank b - 1) / 2 ^ 52 - 1 + 1 by omega]
    ring
  · next even =>
    rw [narrowBelow_unpack] at even
    rw [show rank b / 2 ^ 52 - 1 = (rank b - 1) / 2 ^ 52 - 1 by omega]

end Binary64

namespace Rounding

open Binary64

theorem unit_eq (power : Nat) : unit power = 2 ^ power * unit 0 := by
  simp only [unit, Nat.pow_eq, pow_zero, one_mul]

theorem unit_pos (power : Nat) : 0 < unit power := by
  simp only [unit, Nat.pow_eq]
  positivity

variable (b : UInt64)

theorem value_ofBinary64 : (ofBinary64 (unpack b)).value = 4 * steps (rank b) * unit 0 := by
  simp only [ofBinary64, unpack]
  rw [unit_eq, ← significand_mul]
  ring

theorem high_ofBinary64 :
    (ofBinary64 (unpack b)).high = 2 * (steps (rank b) + steps (rank b + 1)) * unit 0 := by
  simp only [ofBinary64, unpack]
  rw [steps_succ, unit_eq, ← significand_mul, exponentBits_eq]
  ring

theorem low_ofBinary64 {b : UInt64} (positive : 0 < rank b) :
    (ofBinary64 (unpack b)).low = 2 * (steps (rank b - 1) + steps (rank b)) * unit 0 := by
  have below := two_mul_pow_below positive
  have previous := steps_succ (rank b - 1)
  rw [Nat.sub_add_cancel positive, ← significand_mul] at previous
  change (4 * significand b - if (unpack b).narrowBelow = true then 1 else 2) *
    unit (exponentBits b - 1) = _
  rw [unit_eq, ← mul_assoc, Nat.sub_mul, below, mul_assoc 4, ← significand_mul]
  congr 1
  omega

theorem closed_ofBinary64 : (ofBinary64 (unpack b)).closed = decide (Even (rank b)) := by
  rw [Bool.eq_iff_iff, decide_eq_true_iff, ← even_significand_iff, Nat.even_iff]
  exact beq_iff_eq

theorem holds_value {b : UInt64} (positive : 0 < rank b) :
    (ofBinary64 (unpack b)).holds (ofBinary64 (unpack b)).value = true := by
  have previous := steps_strictMono (Nat.sub_one_lt_of_lt positive)
  have next := steps_strictMono (Nat.lt_add_one (rank b))
  have low : (ofBinary64 (unpack b)).low < (ofBinary64 (unpack b)).value := by
    rw [low_ofBinary64 positive, value_ofBinary64]
    exact Nat.mul_lt_mul_of_pos_right (by omega) (unit_pos 0)
  have high : (ofBinary64 (unpack b)).value < (ofBinary64 (unpack b)).high := by
    rw [high_ofBinary64, value_ofBinary64]
    exact Nat.mul_lt_mul_of_pos_right (by omega) (unit_pos 0)
  exact holds_iff.2 ⟨⟨low.le, high.le⟩, fun _ => ⟨low, high⟩⟩

theorem rounds_shortest {b : UInt64} (positive : 0 < rank b) :
    Rounds (rank b) (ofBinary64 (unpack b)).shortest.toRat := by
  have found := holds_iff.1 (holds_search (holds_value positive)
    ⟨_, by rw [value_ofBinary64, mul_assoc]⟩ (ofBinary64 (unpack b)).coarsest)
  have uneven (odd : Odd (rank b)) : (ofBinary64 (unpack b)).closed = false := by
    rw [closed_ofBinary64, decide_eq_false_iff_not, Nat.not_even_iff_odd]
    exact odd
  unfold shortest
  generalize (ofBinary64 (unpack b)).search _ = d at found ⊢
  rw [low_ofBinary64 positive, high_ofBinary64] at found
  refine ⟨?_, ?_, fun odd => ?_, fun odd => ?_⟩ <;>
    rw [← two_mul_quarters_unit, ← quarters_mul_step]
  · linarith [quarters_strictMono.monotone found.1.1]
  · linarith [quarters_strictMono.monotone found.1.2]
  · linarith [quarters_strictMono (found.2 (uneven odd)).1]
  · linarith [quarters_strictMono (found.2 (uneven odd)).2]

end Rounding

end MetricRelay
