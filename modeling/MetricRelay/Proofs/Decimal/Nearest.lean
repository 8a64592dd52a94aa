import Mathlib.Algebra.Order.Ring.Rat
import Mathlib.Algebra.Ring.Parity
import Mathlib.Order.Monotone.Basic
import Mathlib.Tactic.Linarith
import Mathlib.Tactic.NormNum
import Mathlib.Tactic.Positivity
import Mathlib.Tactic.Ring
import MetricRelay.Decimal.Binary64

/-!
The double nearest to a number. Doubles of one sign stand in the order of their bit patterns, so the
neighbours of a double are the patterns next to its own, and the numbers that round to it end
halfway to them.
-/
namespace MetricRelay

def signed (negative : Bool) (q : ℚ) : ℚ := if negative then -q else q

theorem abs_signed_sub (s : Bool) (x q : ℚ) : |signed s x - q| = |x - signed s q| := by
  cases s with
  | false => rfl
  | true =>
    change |-x - q| = |x - -q|
    rw [← abs_neg]
    congr 1
    ring

theorem abs_signed (s : Bool) (q : ℚ) : |signed s q| = |q| := by
  cases s with
  | false => rfl
  | true => exact abs_neg q

theorem signed_signed (s t : Bool) (q : ℚ) : signed s (signed t q) = if s = t then q else -q := by
  cases s <;> cases t <;> simp [signed]

theorem signed_injective (s : Bool) {x y : ℚ} (h : signed s x = signed s y) : x = y := by
  cases s with
  | false => exact h
  | true => exact neg_injective h

namespace Binary64

def isNegative (b : UInt64) : Bool := Nat.pow 2 63 ≤ b.toNat

def IsFinite (b : UInt64) : Prop := exponentBits b ≠ 2047

def significand (b : UInt64) : Nat :=
  if exponentBits b = 0 then fractionBits b else 2 ^ 52 + fractionBits b

/-- The exact number that a finite bit pattern stands for. -/
def toRat (b : UInt64) : ℚ :=
  signed (isNegative b) (significand b * 2 ^ (exponentBits b - 1) / 2 ^ 1074)

/-- A finite double to which a number rounds: no finite double is nearer, and it is the even one if
another is as near. Numbers from halfway past the largest finite double on have none. -/
structure IsNearest (q : ℚ) (b : UInt64) : Prop where
  isFinite : IsFinite b
  inRange : |q| < 2 ^ 1024 - 2 ^ 970
  le : ∀ c, IsFinite c → |toRat b - q| ≤ |toRat c - q|
  even : ∀ c, IsFinite c → toRat c ≠ toRat b → |toRat c - q| = |toRat b - q| → Even (significand b)

def rank (b : UInt64) : Nat := b.toNat % 2 ^ 63

def steps (n : Nat) : Nat := (if n < 2 ^ 52 then n else 2 ^ 52 + n % 2 ^ 52) * 2 ^ (n / 2 ^ 52 - 1)

def magnitude (n : Nat) : ℚ := steps n / 2 ^ 1074

theorem steps_succ (n : Nat) : steps (n + 1) = steps n + 2 ^ (n / 2 ^ 52 - 1) := by
  unfold steps
  by_cases carry : (n + 1) % 2 ^ 52 = 0
  · have quotient : (n + 1) / 2 ^ 52 = n / 2 ^ 52 + 1 := by omega
    rw [quotient, if_neg (by omega), carry, Nat.add_zero, Nat.add_sub_cancel]
    cases e : n / 2 ^ 52 with
    | zero =>
      rw [if_pos (by omega), show n = 2 ^ 52 - 1 by omega]
      norm_num
    | succ e =>
      rw [if_neg (by omega), show n % 2 ^ 52 = 2 ^ 52 - 1 by omega, Nat.add_sub_cancel]
      ring
  · have quotient : (n + 1) / 2 ^ 52 = n / 2 ^ 52 := by omega
    rw [quotient]
    by_cases small : n < 2 ^ 52
    · rw [if_pos (by omega), if_pos small]
      ring
    · rw [if_neg (by omega), if_neg small, show (n + 1) % 2 ^ 52 = n % 2 ^ 52 + 1 by omega]
      ring

theorem steps_strictMono : StrictMono steps :=
  strictMono_nat_of_lt_succ fun n => by
    rw [steps_succ]
    exact Nat.lt_add_of_pos_right (Nat.two_pow_pos _)

theorem magnitude_strictMono : StrictMono magnitude := fun n k h => by
  unfold magnitude
  have : (steps n : ℚ) < steps k := by exact_mod_cast steps_strictMono h
  gcongr

theorem magnitude_zero : magnitude 0 = 0 := by
  simp [magnitude, steps]

theorem magnitude_nonneg (n : Nat) : 0 ≤ magnitude n := by
  unfold magnitude
  positivity

theorem exponentBits_eq (b : UInt64) : exponentBits b = rank b / 2 ^ 52 := by
  simp only [exponentBits, rank, Nat.pow_eq]
  omega

theorem fractionBits_eq (b : UInt64) : fractionBits b = rank b % 2 ^ 52 := by
  simp only [fractionBits, rank, Nat.pow_eq]
  omega

theorem isFinite_iff {b : UInt64} : IsFinite b ↔ rank b < 2047 * 2 ^ 52 := by
  rw [IsFinite, exponentBits_eq]
  have : rank b < 2 ^ 63 := Nat.mod_lt _ (Nat.two_pow_pos _)
  omega

theorem significand_eq (b : UInt64) :
    significand b = if rank b < 2 ^ 52 then rank b else 2 ^ 52 + rank b % 2 ^ 52 := by
  rw [significand, exponentBits_eq, fractionBits_eq]
  split <;> split <;> omega

theorem even_significand_iff {b : UInt64} : Even (significand b) ↔ Even (rank b) := by
  rw [significand_eq, Nat.even_iff, Nat.even_iff]
  split <;> omega

theorem significand_mul (b : UInt64) : significand b * 2 ^ (exponentBits b - 1) = steps (rank b) := by
  rw [significand_eq, exponentBits_eq]
  rfl

theorem toRat_eq (b : UInt64) : toRat b = signed (isNegative b) (magnitude (rank b)) := by
  rw [toRat, magnitude, ← significand_mul]
  push_cast
  rfl

theorem abs_toRat_sub (b : UInt64) (q : ℚ) :
    |toRat b - q| = |magnitude (rank b) - signed (isNegative b) q| := by
  rw [toRat_eq, abs_signed_sub]

theorem eq_of_rank_eq {b c : UInt64} (sign : isNegative b = isNegative c) (h : rank b = rank c) :
    b = c := by
  simp only [isNegative, Nat.pow_eq, decide_eq_decide] at sign
  have := b.toNat_lt
  have := c.toNat_lt
  apply UInt64.toNat_inj.1
  unfold rank at h
  omega

theorem exists_rank_eq_succ {b : UInt64} (h : rank b + 1 < 2 ^ 63) :
    ∃ c, isNegative c = isNegative b ∧ rank c = rank b + 1 := by
  have := b.toNat_lt
  refine ⟨UInt64.ofNat (b.toNat + 1), ?_⟩
  unfold rank at h
  simp only [isNegative, rank, Nat.pow_eq, decide_eq_decide, UInt64.toNat_ofNat']
  omega

theorem abs_sub_le_of_le_midpoint {x y q : ℚ} (le : x ≤ y) (h : 2 * q ≤ x + y) :
    |x - q| ≤ |y - q| := by
  rw [abs_of_nonneg (show 0 ≤ y - q by linarith)]
  exact abs_le.2 ⟨by linarith, by linarith⟩

theorem abs_sub_lt_of_lt_midpoint {x y q : ℚ} (lt : x < y) (h : 2 * q < x + y) :
    |x - q| < |y - q| := by
  rw [abs_of_nonneg (show 0 ≤ y - q by linarith)]
  exact abs_lt.2 ⟨by linarith, by linarith⟩

theorem abs_sub_le_of_midpoint_le {x y q : ℚ} (le : y ≤ x) (h : x + y ≤ 2 * q) :
    |x - q| ≤ |y - q| := by
  have := abs_sub_le_of_le_midpoint (neg_le_neg le) (show 2 * -q ≤ -x + -y by linarith)
  rwa [neg_sub_neg, neg_sub_neg, abs_sub_comm, abs_sub_comm q] at this

theorem abs_sub_lt_of_midpoint_lt {x y q : ℚ} (lt : y < x) (h : x + y < 2 * q) :
    |x - q| < |y - q| := by
  have := abs_sub_lt_of_lt_midpoint (neg_lt_neg lt) (show 2 * -q < -x + -y by linarith)
  rwa [neg_sub_neg, neg_sub_neg, abs_sub_comm, abs_sub_comm q] at this

theorem abs_sub_lt_of_between {x y z q : ℚ} (xy : x < y) (yz : y < z) (h : |x - q| = |z - q|) :
    |y - q| < |x - q| := by
  have middle : 2 * q = x + z := by
    obtain same | opposite := abs_eq_abs.1 h <;> linarith
  exact abs_sub_lt_of_midpoint_lt xy (by linarith)

/-- The numbers from halfway to the next smaller magnitude to halfway to the next larger one, the
ends included if the rank is even. -/
structure Rounds (n : Nat) (q : ℚ) : Prop where
  low : magnitude (n - 1) + magnitude n ≤ 2 * q
  high : 2 * q ≤ magnitude n + magnitude (n + 1)
  low_odd : Odd n → magnitude (n - 1) + magnitude n < 2 * q
  high_odd : Odd n → 2 * q < magnitude n + magnitude (n + 1)

namespace Rounds

variable {n k : Nat} {q : ℚ}

theorem zero : Rounds 0 0 where
  low := by simp [magnitude_zero]
  high := by simpa [magnitude_zero] using magnitude_nonneg 1
  low_odd h := absurd h (by decide)
  high_odd h := absurd h (by decide)

theorem abs_sub_le (h : Rounds n q) (k : Nat) : |magnitude n - q| ≤ |magnitude k - q| := by
  obtain lt | rfl | gt := lt_trichotomy n k
  · have next := magnitude_strictMono.monotone (Nat.succ_le_of_lt lt)
    exact abs_sub_le_of_le_midpoint (magnitude_strictMono lt).le (by linarith [h.high])
  · exact le_rfl
  · have previous := magnitude_strictMono.monotone (Nat.le_sub_one_of_lt gt)
    exact abs_sub_le_of_midpoint_le (magnitude_strictMono gt).le (by linarith [h.low])

theorem abs_sub_lt (h : Rounds n q) (odd : Odd n) (other : k ≠ n) :
    |magnitude n - q| < |magnitude k - q| := by
  obtain gt | lt := Nat.lt_or_gt_of_ne other
  · have previous := magnitude_strictMono.monotone (Nat.le_sub_one_of_lt gt)
    exact abs_sub_lt_of_midpoint_lt (magnitude_strictMono gt) (by linarith [h.low_odd odd])
  · have next := magnitude_strictMono.monotone (Nat.succ_le_of_lt lt)
    exact abs_sub_lt_of_lt_midpoint (magnitude_strictMono lt) (by linarith [h.high_odd odd])

theorem nonneg (h : Rounds n q) : 0 ≤ q := by
  linarith [h.low, magnitude_nonneg (n - 1), magnitude_nonneg n]

theorem pos (h : Rounds n q) (positive : 0 < n) : 0 < q := by
  have := magnitude_strictMono positive
  rw [magnitude_zero] at this
  linarith [h.low, magnitude_nonneg (n - 1)]

end Rounds

theorem magnitude_normal (e : Nat) {f : Nat} (h : f < 2 ^ 52) :
    magnitude ((e + 1) * 2 ^ 52 + f) = (2 ^ 52 + f) * 2 ^ e / 2 ^ 1074 := by
  have quotient : ((e + 1) * 2 ^ 52 + f) / 2 ^ 52 = e + 1 := by omega
  have rest : ((e + 1) * 2 ^ 52 + f) % 2 ^ 52 = f := by omega
  rw [magnitude, steps, if_neg (by omega), quotient, rest, Nat.add_sub_cancel]
  simp only [Nat.cast_mul, Nat.cast_add, Nat.cast_pow, Nat.cast_ofNat]

theorem magnitude_add_magnitude_last :
    magnitude (2047 * 2 ^ 52 - 1) + magnitude (2047 * 2 ^ 52) = 2 * (2 ^ 1024 - 2 ^ 970) := by
  have last := magnitude_normal 2045 (show 2 ^ 52 - 1 < 2 ^ 52 by norm_num)
  have next := magnitude_normal 2046 (show 0 < 2 ^ 52 by norm_num)
  rw [show (2045 + 1) * 2 ^ 52 + (2 ^ 52 - 1) = 2047 * 2 ^ 52 - 1 by norm_num] at last
  rw [show (2046 + 1) * 2 ^ 52 + 0 = 2047 * 2 ^ 52 by norm_num] at next
  have powers : (2 : ℚ) ^ 2045 = 2 * 2 ^ 970 * 2 ^ 1074 ∧ (2 : ℚ) ^ 2046 = 4 * 2 ^ 970 * 2 ^ 1074 ∧
      (2 : ℚ) ^ 1024 = 2 ^ 54 * 2 ^ 970 := by
    refine ⟨?_, ?_, pow_add 2 54 970⟩
    · rw [← pow_succ', ← pow_add]
    · rw [show (4 : ℚ) = 2 ^ 2 by norm_num, ← pow_add, ← pow_add]
  rw [last, next, powers.1, powers.2.1, powers.2.2, ← add_div, div_eq_iff (by positivity)]
  generalize (2 : ℚ) ^ 970 = half, (2 : ℚ) ^ 1074 = unit
  norm_num
  ring

theorem Rounds.lt {n : Nat} {q : ℚ} (h : Rounds n q) (finite : n < 2047 * 2 ^ 52) :
    q < 2 ^ 1024 - 2 ^ 970 := by
  have ending := magnitude_add_magnitude_last
  generalize (2 : ℚ) ^ 1024 - 2 ^ 970 = bound at ending ⊢
  obtain last | inner := Nat.eq_or_lt_of_le (Nat.le_sub_one_of_lt finite)
  · have high := h.high_odd (by rw [last]; decide)
    rw [last, Nat.sub_add_cancel (by decide)] at high
    linarith
  · have this := magnitude_strictMono inner
    have next := magnitude_strictMono.monotone (show n + 1 ≤ 2047 * 2 ^ 52 by omega)
    linarith [h.high]

theorem abs_magnitude_sub_le (c : UInt64) (s : Bool) {q : ℚ} (nonneg : 0 ≤ q) :
    |magnitude (rank c) - q| ≤ |toRat c - signed s q| := by
  rw [abs_toRat_sub, signed_signed]
  split
  · exact le_rfl
  · have := magnitude_nonneg (rank c)
    rw [sub_neg_eq_add, abs_of_nonneg (add_nonneg this nonneg)]
    exact abs_le.2 ⟨by linarith, by linarith⟩

theorem abs_toRat_sub_signed (b : UInt64) (q : ℚ) :
    |toRat b - signed (isNegative b) q| = |magnitude (rank b) - q| := by
  rw [abs_toRat_sub, signed_signed, if_pos rfl]

theorem Rounds.isNearest {b : UInt64} {q : ℚ} (h : Rounds (rank b) q) (finite : IsFinite b) :
    IsNearest (signed (isNegative b) q) b where
  isFinite := finite
  inRange := by
    rw [abs_signed, abs_of_nonneg h.nonneg]
    exact h.lt (isFinite_iff.1 finite)
  le c _ := by
    rw [abs_toRat_sub_signed]
    exact (h.abs_sub_le _).trans (abs_magnitude_sub_le c _ h.nonneg)
  even c _ other same := by
    rw [even_significand_iff]
    by_contra uneven
    have odd := Nat.not_even_iff_odd.1 uneven
    refine absurd same (ne_of_gt ?_)
    rw [abs_toRat_sub_signed]
    by_cases rank_eq : rank c = rank b
    · -- The double opposite, which is farther away since neither it nor the number is zero.
      have opposite : isNegative c ≠ isNegative b := fun sign =>
        other (by rw [toRat_eq, toRat_eq, sign, rank_eq])
      have positive := magnitude_strictMono odd.pos
      have := h.pos odd.pos
      rw [magnitude_zero] at positive
      rw [abs_toRat_sub, signed_signed, if_neg opposite, rank_eq, sub_neg_eq_add,
        abs_of_nonneg (by linarith : 0 ≤ magnitude (rank b) + q)]
      exact abs_lt.2 ⟨by linarith, by linarith⟩
    · exact (h.abs_sub_lt odd rank_eq).trans_le (abs_magnitude_sub_le c _ h.nonneg)

theorem IsNearest.not_rank_lt {q : ℚ} {b c : UInt64} (hb : IsNearest q b) (hc : IsNearest q c)
    (sign : isNegative b = isNegative c) : ¬rank b < rank c := by
  intro lt
  have same : |toRat b - q| = |toRat c - q| :=
    le_antisymm (hb.le c hc.isFinite) (hc.le b hb.isFinite)
  have other : toRat b ≠ toRat c := by
    rw [toRat_eq, toRat_eq, sign]
    exact fun h => (magnitude_strictMono lt).ne (signed_injective _ h)
  -- Both are even, so another double lies between them, and it is nearer.
  have evenb := even_significand_iff.1 (hb.even c hc.isFinite other.symm same.symm)
  have evenc := even_significand_iff.1 (hc.even b hb.isFinite other same)
  have finite := isFinite_iff.1 hc.isFinite
  obtain ⟨d, signd, rankd⟩ := exists_rank_eq_succ (b := b) (by omega)
  have before : rank d < rank c := by
    rw [Nat.even_iff] at evenb evenc
    omega
  have nearer : |toRat d - q| < |toRat b - q| := by
    rw [abs_toRat_sub, abs_toRat_sub, ← sign] at same
    rw [abs_toRat_sub, abs_toRat_sub, signd]
    exact abs_sub_lt_of_between (magnitude_strictMono (rankd ▸ Nat.lt_succ_self _))
      (magnitude_strictMono before) same
  exact (hb.le d (isFinite_iff.2 (before.trans finite))).not_gt nearer

theorem IsNearest.eq {q : ℚ} {b c : UInt64} (hb : IsNearest q b) (hc : IsNearest q c)
    (sign : isNegative b = isNegative c) : b = c :=
  eq_of_rank_eq sign <|
    le_antisymm (not_lt.1 (hc.not_rank_lt hb sign.symm)) (not_lt.1 (hb.not_rank_lt hc sign))

end Binary64

end MetricRelay
