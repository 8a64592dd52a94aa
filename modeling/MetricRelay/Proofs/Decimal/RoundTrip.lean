import MetricRelay.Proofs.Decimal.Written

namespace MetricRelay

open Binary64

/-- A double that a reader may take for what is written, with the sign that is written. -/
def Written.RoundsTo (w : Written) (b : UInt64) : Prop :=
  isNegative b = w.negative ∧ IsNearest w.toRat b

theorem Written.RoundsTo.eq {w : Written} {b c : UInt64} (hb : w.RoundsTo b) (hc : w.RoundsTo c) :
    b = c :=
  hb.2.eq hc.2 (hb.1.trans hc.1.symm)

namespace Binary64

instance (b : UInt64) : Decidable (IsFinite b) :=
  inferInstanceAs (Decidable (exponentBits b ≠ 2047))

theorem significand_eq_zero_iff {b : UInt64} : significand b = 0 ↔ rank b = 0 := by
  rw [significand_eq]
  split <;> omega

end Binary64

namespace Decimal

theorem exists_unsigned {b : UInt64} : ∃ w : Written, w.negative = isNegative b ∧
    w.digits = (if (unpack b).mantissa = 0 then ['0', '.', '0']
      else positional (Rounding.ofBinary64 (unpack b)).shortest) ∧
    Rounds (rank b) w.magnitude := by
  by_cases zero : rank b = 0
  · refine ⟨⟨isNegative b, zeros 1, zeros 1, isDigit_zeros 1, isDigit_zeros 1, by decide, by decide,
      by decide⟩, rfl, (if_pos (significand_eq_zero_iff.2 zero)).symm, ?_⟩
    have none : Nat.ofDigitChars 10 (zeros 1 ++ zeros 1) 0 = 0 := by decide
    rw [Written.magnitude, none, zero, Nat.cast_zero, zero_div]
    exact Rounds.zero
  · have rounds := Rounding.rounds_shortest (Nat.pos_of_ne_zero zero)
    rw [if_neg (show (unpack b).mantissa ≠ 0 from significand_eq_zero_iff.not.2 zero)]
    generalize (Rounding.ofBinary64 (unpack b)).shortest = d at rounds ⊢
    have positive : 0 < d.digits := by
      refine Nat.pos_of_ne_zero fun none => (rounds.pos (Nat.pos_of_ne_zero zero)).ne' ?_
      rw [toRat, none, Nat.cast_zero, zero_mul, zero_div]
    obtain ⟨w, sign, text, value⟩ := exists_positional (isNegative b) positive
    exact ⟨w, sign, text, value ▸ rounds⟩

theorem exists_written {b : UInt64} (finite : IsFinite b) :
    ∃ w : Written, ofBits b = w.text ∧ w.RoundsTo b := by
  obtain ⟨w, sign, digits, rounds⟩ := exists_unsigned (b := b)
  refine ⟨w, ?_, sign.symm, ?_⟩
  · rw [ofBits, ofBits?_of_isFinite finite, Written.text, sign, digits]
    rfl
  · rw [Written.toRat, sign]
    exact rounds.isNearest finite

/-- The text of a double is `NaN` or a decimal that rounds to this double and to no other. -/
theorem ofBits_roundTrip (b : UInt64) :
    (¬IsFinite b → ofBits b = ['N', 'a', 'N']) ∧
    (IsFinite b → ∃ w : Written, ofBits b = w.text ∧
      Text.Quoted.needsQuotes (ofBits b) = false ∧
      (∀ c, w.RoundsTo c ↔ c = b) ∧
      ∀ c, IsFinite c → ofBits c = ofBits b → c = b) := by
  refine ⟨fun special => ?_, fun finite => ?_⟩
  · rw [ofBits, ofBits?_of_not_isFinite special]
  · obtain ⟨w, text, rounds⟩ := exists_written finite
    refine ⟨w, text, needsQuotes_ofBits b, fun c => ⟨fun h => h.eq rounds, fun h => h ▸ rounds⟩,
      fun c other same => ?_⟩
    obtain ⟨v, read, back⟩ := exists_written other
    have alike : v = w := Written.text_injective (by rw [← read, same, text])
    exact back.eq (alike ▸ rounds)

theorem ofBits_roundTrip_ends :
    ofBits 0xFFF0000000000000 = ['N', 'a', 'N'] ∧
    (∃ w : Written, w.text = ['-', '0', '.', '0'] ∧ ∀ c, w.RoundsTo c ↔ c = 0x8000000000000000) ∧
    (∃ w : Written, ofBits 1 = w.text ∧ ∀ c, w.RoundsTo c ↔ c = 1) ∧
    ofBits 0x000FFFFFFFFFFFFF ≠ ofBits 0x0010000000000000 ∧
    ∃ w : Written, ofBits 0x7FEFFFFFFFFFFFFF = w.text ∧ w.RoundsTo 0x7FEFFFFFFFFFFFFF := by
  refine ⟨(ofBits_roundTrip _).1 (by decide), ?_, ?_, ?_, ?_⟩
  · obtain ⟨w, text, -, reads, -⟩ := (ofBits_roundTrip 0x8000000000000000).2 (by decide)
    exact ⟨w, text.symm, reads⟩
  · obtain ⟨w, text, -, reads, -⟩ := (ofBits_roundTrip 1).2 (by decide)
    exact ⟨w, text, reads⟩
  · obtain ⟨w, -, -, -, unlike⟩ := (ofBits_roundTrip 0x0010000000000000).2 (by decide)
    exact fun same => absurd (unlike 0x000FFFFFFFFFFFFF (by decide) same) (by decide)
  · obtain ⟨w, text, -, reads, -⟩ := (ofBits_roundTrip 0x7FEFFFFFFFFFFFFF).2 (by decide)
    exact ⟨w, text, (reads _).2 rfl⟩

example : ofBits 0x3FB999999999999A = ['0', '.', '1'] := by decide +kernel

end Decimal

end MetricRelay
