import MetricRelay.Proofs.Decimal.Positional
import MetricRelay.Proofs.Decimal.Shortest

namespace MetricRelay

/-- A number without an exponent. Its whole part is not empty and has no zeros in front but a single
one before the point. -/
@[ext] structure Written where
  negative : Bool
  whole : List Char
  fraction : List Char
  isDigit_whole : ∀ c ∈ whole, c.isDigit = true
  isDigit_fraction : ∀ c ∈ fraction, c.isDigit = true
  whole_ne_nil : whole ≠ []
  fraction_ne_nil : fraction ≠ []
  eq_zero_of_head : whole.head? = some '0' → whole = ['0']

namespace Written

def digits (w : Written) : List Char := w.whole ++ '.' :: w.fraction

def text (w : Written) : List Char := if w.negative then '-' :: w.digits else w.digits

def magnitude (w : Written) : ℚ :=
  Nat.ofDigitChars 10 (w.whole ++ w.fraction) 0 / 10 ^ w.fraction.length

def toRat (w : Written) : ℚ := signed w.negative w.magnitude

theorem notMem_of_isDigit {c : Char} {s : List Char} (h : ∀ c ∈ s, c.isDigit = true)
    (other : c.isDigit = false) : c ∉ s := fun there => by
  rw [h c there] at other
  cases other

theorem digits_ne_minus (w : Written) (s : List Char) : w.digits ≠ '-' :: s := by
  intro h
  unfold digits at h
  obtain ⟨c, rest, first⟩ := List.exists_cons_of_ne_nil w.whole_ne_nil
  rw [first, List.cons_append, List.cons_eq_cons] at h
  exact notMem_of_isDigit w.isDigit_whole (c := '-') (by decide) (by simp [first, h.1])

theorem text_injective {v w : Written} (h : v.text = w.text) : v = w := by
  have same : v.negative = w.negative ∧ v.digits = w.digits := by
    unfold text at h
    cases hv : v.negative <;> cases hw : w.negative <;> simp only [hv, hw] at h
    · exact ⟨rfl, h⟩
    · exact absurd h (digits_ne_minus v _)
    · exact absurd h.symm (digits_ne_minus w _)
    · exact ⟨rfl, List.tail_eq_of_cons_eq h⟩
  have parts := (List.append_cons_inj_of_notMem
    (notMem_of_isDigit (c := '.') v.isDigit_whole (by decide))
    (notMem_of_isDigit v.isDigit_fraction (by decide))).1 same.2
  exact Written.ext same.1 parts.1 parts.2.2

end Written

namespace Decimal

theorem head?_toDigits {n : Nat} (positive : 0 < n) : (Nat.toDigits 10 n).head? ≠ some '0' := by
  induction n using Nat.strongRecOn with
  | ind n ih =>
    rw [Nat.toDigits_eq_if (by decide)]
    split
    · simpa using positive.ne'
    · rw [List.head?_append_of_ne_nil _ Nat.toDigits_ne_nil]
      exact ih (n / 10) (by omega) (by omega)

theorem ofDigitChars_append_zeros (s : List Char) (n : Nat) :
    Nat.ofDigitChars 10 (s ++ zeros n) 0 = Nat.ofDigitChars 10 s 0 * 10 ^ n := by
  rw [Nat.ofDigitChars_append, zeros, Nat.ofDigitChars_replicate_zero, Nat.mul_comm]

theorem ofDigitChars_zeros_append (s : List Char) (n : Nat) :
    Nat.ofDigitChars 10 (zeros n ++ s) 0 = Nat.ofDigitChars 10 s 0 := by
  rw [Nat.ofDigitChars_append, zeros, Nat.ofDigitChars_replicate_zero, Nat.mul_zero]

variable {digits : List Char}

theorem exists_split (s : Bool) {places : Nat} (positive : 0 < places)
    (before : places < digits.length) (isDigit : ∀ c ∈ digits, c.isDigit = true)
    (head : digits.head? = some '0' → digits.length = places + 1) :
    ∃ w : Written, w.negative = s ∧
      w.digits = digits.take (digits.length - places) ++ '.' :: digits.drop (digits.length - places) ∧
      w.magnitude = Nat.ofDigitChars 10 digits 0 / 10 ^ places := by
  refine ⟨⟨s, digits.take (digits.length - places), digits.drop (digits.length - places),
    fun c hc => isDigit c (List.mem_of_mem_take hc), fun c hc => isDigit c (List.mem_of_mem_drop hc),
    ?_, ?_, fun zero => ?_⟩, rfl, rfl, ?_⟩
  · exact List.ne_nil_of_length_pos (by rw [List.length_take]; omega)
  · exact List.ne_nil_of_length_pos (by rw [List.length_drop]; omega)
  · rw [List.head?_take, if_neg (by omega)] at zero
    obtain ⟨rest, rfl⟩ := List.head?_eq_some_iff.1 zero
    rw [head zero, Nat.add_sub_cancel_left]
    rfl
  · rw [Written.magnitude, List.take_append_drop, List.length_drop, Nat.sub_sub_self before.le]

theorem exists_pointed (s : Bool) (places : Nat) (isDigit : ∀ c ∈ digits, c.isDigit = true)
    (nonempty : digits ≠ []) (head : digits.head? ≠ some '0') :
    ∃ w : Written, w.negative = s ∧ w.digits = pointed digits places ∧
      w.magnitude = Nat.ofDigitChars 10 digits 0 / 10 ^ places := by
  unfold pointed
  split
  · next integral =>
    refine ⟨⟨s, digits, zeros 1, isDigit, isDigit_zeros 1, nonempty, by decide,
      fun h => absurd h head⟩, rfl, rfl, ?_⟩
    rw [Written.magnitude, ofDigitChars_append_zeros, integral]
    simp [zeros]
  · next fractional =>
    have length : (zeros (places + 1 - digits.length) ++ digits).length =
        max (places + 1) digits.length := by
      rw [List.length_append, zeros, List.length_replicate]
      omega
    rw [← ofDigitChars_zeros_append digits (places + 1 - digits.length)]
    refine exists_split s (Nat.pos_of_ne_zero fractional) (by omega)
      (List.forall_mem_append.2 ⟨isDigit_zeros _, isDigit⟩) fun zero => ?_
    -- The leading zero is one that was put in front.
    by_contra long
    rw [show places + 1 - digits.length = 0 by omega] at zero
    exact head zero

theorem exists_positional (s : Bool) {d : Decimal} (positive : 0 < d.digits) :
    ∃ w : Written, w.negative = s ∧ w.digits = positional d ∧ w.magnitude = d.toRat := by
  have isDigit := isDigit_toDigits d.digits
  have head := head?_toDigits positive
  unfold positional
  dsimp only
  split
  · next integral =>
    obtain ⟨w, sign, text, value⟩ := exists_pointed s 0
      (List.forall_mem_append.2 ⟨isDigit, isDigit_zeros (d.shift - 1074)⟩)
      (List.append_ne_nil_of_left_ne_nil Nat.toDigits_ne_nil _)
      (by rwa [List.head?_append_of_ne_nil _ Nat.toDigits_ne_nil])
    refine ⟨w, sign, text, ?_⟩
    obtain ⟨k, shift⟩ := Nat.exists_eq_add_of_le' integral
    rw [value, ofDigitChars_append_zeros, Nat.ofDigitChars_ten_toDigits, toRat, shift, pow_add,
      ← mul_assoc, mul_div_cancel_right₀ _ (by positivity), Nat.add_sub_cancel]
    push_cast
    rw [pow_zero, div_one]
  · next fractional =>
    obtain ⟨w, sign, text, value⟩ := exists_pointed s (1074 - d.shift) isDigit Nat.toDigits_ne_nil
      head
    refine ⟨w, sign, text, ?_⟩
    have split : (10 : ℚ) ^ 1074 = 10 ^ (1074 - d.shift) * 10 ^ d.shift := by
      rw [← pow_add, Nat.sub_add_cancel (by omega)]
    rw [value, Nat.ofDigitChars_ten_toDigits, toRat, split, mul_div_mul_right _ _ (by positivity)]

end Decimal

end MetricRelay
