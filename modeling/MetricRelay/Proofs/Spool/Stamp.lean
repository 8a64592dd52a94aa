import Mathlib.Data.List.Lex
import Mathlib.Tactic.MkIffOfInductiveProp
import MetricRelay.Spool.Spool

namespace MetricRelay

theorem append_lt_append {a b : List Char} (same : a.length = b.length) (h : a < b)
    (s t : List Char) : a ++ s < b ++ t := by
  induction h with
  | nil => cases same
  | rel h => exact .rel h
  | cons _ ih => exact .cons (ih (Nat.succ.inj same))

theorem digitChar_lt {m n : Nat} (h : m < n) (hn : n < 10) : m.digitChar < n.digitChar := by
  have all : ∀ n < 10, ∀ m < n, m.digitChar < n.digitChar := by decide
  exact all n hn m h

theorem length_padded (width : Nat) {n : Nat} (h : n < Nat.pow 10 (width + 1)) :
    (padded (width + 1) n).toList.length = width + 1 := by
  have short := (Nat.length_toDigits_le_iff (by decide) width.succ_pos).2 h
  simp only [padded, String.toList_ofList, List.length_append, List.length_replicate]
  omega

theorem padded_succ (width n : Nat) :
    (padded (width + 2) n).toList =
      (padded (width + 1) (n / 10)).toList ++ [(n % 10).digitChar] := by
  simp only [padded, String.toList_ofList]
  rw [Nat.toDigits_eq_if (by decide)]
  split
  · rename_i small
    rw [Nat.div_eq_of_lt small, Nat.mod_eq_of_lt small, Nat.toDigits_zero]
    simp [List.replicate_succ']
  · simp only [List.length_append, List.length_cons, List.length_nil, List.append_assoc]
    rw [Nat.zero_add, Nat.succ_sub_succ]

theorem padded_lt (width : Nat) {m n : Nat} (h : m < n) (hn : n < Nat.pow 10 (width + 1)) :
    (padded (width + 1) m).toList < (padded (width + 1) n).toList := by
  induction width generalizing m n with
  | zero =>
    have hn : n < 10 := hn
    simp only [padded, String.toList_ofList, Nat.toDigits_of_lt_base hn,
      Nat.toDigits_of_lt_base (Nat.lt_trans h hn)]
    exact .rel (digitChar_lt h hn)
  | succ width ih =>
    have hn : n < Nat.pow 10 (width + 1) * 10 := hn
    have high : n / 10 < Nat.pow 10 (width + 1) := by omega
    rw [padded_succ, padded_succ]
    obtain less | same := Nat.lt_or_eq_of_le (Nat.div_le_div_right (c := 10) (Nat.le_of_lt h))
    · refine append_lt_append ?_ (ih less high) _ _
      rw [length_padded _ high, length_padded _ (Nat.lt_trans less high)]
    · rw [same]
      exact List.append_left_lt (.rel (digitChar_lt (by omega) (Nat.mod_lt n (by decide))))

namespace Stamp

@[mk_iff before_iff]
structure Before (s t : Stamp) : Prop where
  time : s.time ≤ t.time
  sequence : s.sequence < t.sequence

@[mk_iff fits_iff]
structure Fits (s : Stamp) : Prop where
  time : s.time < Nat.pow 10 13
  sequence : s.sequence < Nat.pow 2 64

instance (s t : Stamp) : Decidable (s.Before t) := decidable_of_iff _ (before_iff s t).symm

instance (s : Stamp) : Decidable s.Fits := decidable_of_iff _ (fits_iff s).symm

theorem id_lt {s t : Stamp} (before : s.Before t) (hs : s.Fits) (ht : t.Fits) : s.id < t.id := by
  have width {s : Stamp} (h : s.Fits) : s.sequence < Nat.pow 10 20 :=
    Nat.lt_trans h.sequence (by decide)
  rw [String.lt_iff]
  simp only [id, String.toList_append, List.append_assoc]
  obtain less | same := Nat.lt_or_eq_of_le before.time
  · refine append_lt_append ?_ (padded_lt 12 less ht.time) _ _
    rw [length_padded 12 hs.time, length_padded 12 ht.time]
  · rw [same]
    refine List.append_left_lt (List.append_left_lt ?_)
    refine append_lt_append ?_ (padded_lt 19 before.sequence (width ht)) _ _
    rw [length_padded 19 (width hs), length_padded 19 (width ht)]

end Stamp

end MetricRelay
