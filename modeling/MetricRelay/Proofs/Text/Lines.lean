import Mathlib.Data.List.DropRight
import MetricRelay.Proofs.Text.Utf8
import MetricRelay.Text.Lines

namespace MetricRelay.Text

section

variable {c : Char} {s : List Char}

theorem splitOn_of_notMem (h : c ∉ s) : splitOn c s = [s] := by
  induction s with
  | nil => rfl
  | cons a s ih =>
    obtain ⟨other, h⟩ := not_or.1 (mt List.mem_cons.2 h)
    rw [splitOn, if_neg fun e => other e.symm, ih h]

theorem splitOn_append (h : c ∉ s) (rest : List Char) :
    splitOn c (s ++ c :: rest) = s :: splitOn c rest := by
  induction s with
  | nil => exact if_pos rfl
  | cons a s ih =>
    obtain ⟨other, h⟩ := not_or.1 (mt List.mem_cons.2 h)
    rw [List.cons_append, splitOn, if_neg fun e => other e.symm, ih h]

end

theorem dropBlanksEnd_concat (s : List Char) {c : Char} (h : isBlankChar c = true) :
    dropBlanksEnd (s ++ [c]) = dropBlanksEnd s :=
  List.rdropWhile_concat_pos _ _ _ h

theorem length_dropBlanksEnd_le (s : List Char) : (dropBlanksEnd s).length ≤ s.length :=
  (List.rdropWhile_prefix ..).length_le

def endsBlank (s : List Char) : Bool := s.getLast?.any isBlankChar

theorem endsBlank_append {s : List Char} (some_ : s ≠ []) (front : List Char) :
    endsBlank (front ++ s) = endsBlank s := by
  rw [endsBlank, List.getLast?_append_of_ne_nil _ some_, endsBlank]

theorem endsBlank_concat (s : List Char) (c : Char) : endsBlank (s ++ [c]) = isBlankChar c := by
  rw [endsBlank, List.getLast?_concat, Option.any_some]

theorem dropBlanksEnd_eq_self_iff {s : List Char} : dropBlanksEnd s = s ↔ endsBlank s = false := by
  induction s using List.reverseRecOn with
  | nil => exact ⟨fun _ => rfl, fun _ => rfl⟩
  | append_singleton s c =>
    rw [endsBlank_concat]
    exact List.rdropWhile_eq_self_iff.trans (by simp)

theorem endsBlank_dropBlanksEnd (s : List Char) : endsBlank (dropBlanksEnd s) = false :=
  dropBlanksEnd_eq_self_iff.1 (List.rdropWhile_idempotent ..)

theorem isBlank_trimEnd (s : String) : isBlank (trimEnd s) = isBlank s := by
  rw [isBlank, isBlank, trimEnd, String.toList_ofList]
  generalize s.toList = s
  induction s using List.reverseRecOn with
  | nil => rfl
  | append_singleton s c ih =>
    cases h : isBlankChar c with
    | true =>
      rw [dropBlanksEnd_concat s h, ih]
      simp [h]
    | false => rw [dropBlanksEnd_eq_self_iff.2 ((endsBlank_concat s c).trans h)]

theorem terminated_trimEnd (s : String) : terminated (trimEnd s) = (trimEnd s).push '\n' := by
  unfold terminated
  split
  · rename_i h
    rw [String.endsWith, String.Slice.endsWith_string_iff, String.copy_toSlice] at h
    obtain ⟨front, ends⟩ := h
    have trimmed := endsBlank_dropBlanksEnd s.toList
    rw [← String.toList_ofList (l := dropBlanksEnd s.toList), ← trimEnd, ← ends] at trimmed
    cases trimmed.symm.trans (endsBlank_concat front '\n')
  · rfl

theorem terminated_ne_empty (line : String) : terminated line ≠ "" := by
  unfold terminated
  split
  · rintro rfl
    contradiction
  · exact String.push_ne_empty

theorem endsWith_terminated (line : String) : (terminated line).endsWith "\n" = true := by
  unfold terminated
  split
  · assumption
  · rw [String.endsWith, String.Slice.endsWith_string_iff, String.copy_toSlice, String.toList_push]
    exact List.suffix_append ..

theorem terminated_terminated (line : String) : terminated (terminated line) = terminated line :=
  if_pos (endsWith_terminated line)

def utf8 (s : List Char) : Bytes := s.flatMap String.utf8EncodeChar

theorem bytes_ofList (s : List Char) : bytes (String.ofList s) = utf8 s := by
  rw [bytes_eq_flatMap, String.toList_ofList, utf8]

theorem utf8_concat (s : List Char) (c : Char) :
    utf8 (s ++ [c]) = utf8 s ++ String.utf8EncodeChar c := by
  simp [utf8]

theorem utf8EncodeChar_of_mem {b : UInt8} {c : Char} (h : b ∈ String.utf8EncodeChar c)
    (small : b.toNat < 128) : String.utf8EncodeChar c = [b] ∧ c.val.toNat = b.toNat := by
  rw [String.utf8EncodeChar.eq_1] at h ⊢
  generalize c.val.toNat = n at h ⊢
  split_ifs at h ⊢
  all_goals
    simp only [List.mem_cons, List.not_mem_nil, or_false] at h
  · subst h
    refine ⟨rfl, ?_⟩
    rw [UInt8.toNat_ofNat']
    omega
  · obtain rfl | rfl := h
    all_goals
      rw [UInt8.toNat_ofNat'] at small
      omega
  · obtain rfl | rfl | rfl := h
    all_goals
      rw [UInt8.toNat_ofNat'] at small
      omega
  · obtain rfl | rfl | rfl | rfl := h
    all_goals
      rw [UInt8.toNat_ofNat'] at small
      omega

theorem eq_of_mem_utf8EncodeChar {b : UInt8} {c d : Char} (h : b ∈ String.utf8EncodeChar c)
    (hd : String.utf8EncodeChar d = [b]) (small : b.toNat < 128) : c = d := by
  have there : b ∈ String.utf8EncodeChar d := by
    rw [hd]
    exact List.mem_singleton_self _
  have same := (utf8EncodeChar_of_mem h small).2.trans (utf8EncodeChar_of_mem there small).2.symm
  exact Char.ext (UInt32.toNat_inj.1 same)

theorem getLast?_utf8 {b : UInt8} {s : List Char} {d : Char} (h : (utf8 s).getLast? = some b)
    (hd : String.utf8EncodeChar d = [b]) (small : b.toNat < 128) : ∃ s', s = s' ++ [d] := by
  obtain rfl | ⟨s', c, rfl⟩ := s.eq_nil_or_concat
  · cases h
  · rw [List.concat_eq_append] at h ⊢
    rw [utf8_concat, List.getLast?_append_of_ne_nil _ String.utf8EncodeChar_ne_nil] at h
    exact ⟨s', by rw [eq_of_mem_utf8EncodeChar (List.mem_of_getLast? h) hd small]⟩

end MetricRelay.Text
