import Mathlib.Data.List.Lex
import MetricRelay.Text.Utf8

namespace MetricRelay.Text

theorem length_bytes (s : String) : (bytes s).length = s.utf8ByteSize := rfl

theorem decode?_bytes (s : String) : decode? (bytes s) = some s := dif_pos s.isValidUTF8

theorem bytes_eq_flatMap (s : String) : bytes s = s.toList.flatMap String.utf8EncodeChar := by
  rw [bytes, String.toUTF8_eq_toByteArray]
  conv_lhs => rw [← String.ofList_toList (s := s)]
  rw [String.toByteArray_ofList, List.utf8Encode.eq_1, List.data_toByteArray, List.toList_toArray]

theorem length_le_utf8ByteSize (s : String) : s.toList.length ≤ s.utf8ByteSize := by
  rw [← length_bytes, bytes_eq_flatMap]
  induction s.toList with
  | nil => exact Nat.le_refl _
  | cons c cs ih =>
    have := List.length_pos_iff.2 (@String.utf8EncodeChar_ne_nil c)
    simp only [List.flatMap_cons, List.length_append, List.length_cons]
    omega

theorem ofNat_cons_lt {x y : Nat} {s t : Bytes} (hx : x < 256) (hy : y < 256) :
    UInt8.ofNat x :: s < UInt8.ofNat y :: t ↔ x < y ∨ x = y ∧ s < t := by
  rw [List.cons_lt_cons_iff, UInt8.lt_iff_toNat_lt, ← UInt8.toNat_inj, UInt8.toNat_ofNat',
    UInt8.toNat_ofNat', Nat.mod_eq_of_lt hx, Nat.mod_eq_of_lt hy]

theorem utf8EncodeChar_append_lt {c d : Char} (h : c < d) (s t : Bytes) :
    String.utf8EncodeChar c ++ s < String.utf8EncodeChar d ++ t := by
  have h : c.val.toNat < d.val.toNat := h
  have bound : d.val.toNat < 1114112 := by
    have := d.valid
    simp only [UInt32.isValidChar, Nat.isValidChar] at this
    omega
  have quotient (n : Nat) : n / 4096 = n / 64 / 64 ∧ n / 262144 = n / 64 / 64 / 64 := by omega
  rw [String.utf8EncodeChar.eq_1, String.utf8EncodeChar.eq_1]
  generalize c.val.toNat = m at h
  generalize d.val.toNat = n at h bound
  rw [(quotient m).1, (quotient m).2, (quotient n).1, (quotient n).2]
  split_ifs
  all_goals
    simp (disch := omega) only [List.cons_append, List.nil_append, ofNat_cons_lt]
    omega

theorem flatMap_utf8EncodeChar_lt {a b : List Char} (h : List.Lex (· < ·) a b) :
    a.flatMap String.utf8EncodeChar < b.flatMap String.utf8EncodeChar := by
  induction h with
  | nil =>
    rename_i c b
    rw [List.flatMap_nil, List.flatMap_cons]
    obtain ⟨x, r, e⟩ := List.exists_cons_of_ne_nil (@String.utf8EncodeChar_ne_nil c)
    rw [e]
    exact List.nil_lt_cons ..
  | rel h => exact utf8EncodeChar_append_lt h ..
  | cons _ ih => exact List.append_left_lt ih

theorem bytes_lt {a b : String} (h : a < b) : bytes a < bytes b := by
  rw [bytes_eq_flatMap, bytes_eq_flatMap]
  exact flatMap_utf8EncodeChar_lt (String.lt_iff.1 h)

theorem bytes_lt_iff {a b : String} : bytes a < bytes b ↔ a < b := by
  refine ⟨fun less => ?_, bytes_lt⟩
  by_contra not_lt
  by_cases greater : b < a
  · exact List.lt_asymm less (bytes_lt greater)
  · rw [String.le_antisymm (String.not_lt.1 greater) (String.not_lt.1 not_lt)] at less
    exact List.lt_irrefl _ less

end MetricRelay.Text
