import Mathlib.Data.List.Basic
import MetricRelay.Text.Quoted

/-!
Reading quoted fields. What comes back is the field on one line, its line breaks spelled out with a
backslash; so of two fields that are written alike one has a line break where the other has the
backslash. Outside its quotes a field never shows a separator, and it leaves no quotes open.
-/
namespace MetricRelay.Text.Quoted

def spell : Char → List Char
  | '\n' => ['\\', 'n']
  | '\r' => ['\\', 'r']
  | c => [c]

def oneLine (s : List Char) : List Char := s.flatMap spell

def undouble : List Char → List Char
  | '"' :: '"' :: s => '"' :: undouble s
  | c :: s => c :: undouble s
  | [] => []

def decode : List Char → List Char
  | '"' :: s => undouble s.dropLast
  | s => s

def HasBreak (s : List Char) : Prop := '\n' ∈ s ∨ '\r' ∈ s

theorem spell_cases (c : Char) :
    (c = '\n' ∧ spell c = ['\\', 'n']) ∨ (c = '\r' ∧ spell c = ['\\', 'r']) ∨ spell c = [c] := by
  unfold spell
  split
  · exact .inl ⟨rfl, rfl⟩
  · exact .inr (.inl ⟨rfl, rfl⟩)
  · exact .inr (.inr rfl)

theorem oneLine_cons (c : Char) (s : List Char) : oneLine (c :: s) = spell c ++ oneLine s := rfl

theorem oneLine_of_not_hasBreak {s : List Char} (h : ¬HasBreak s) : oneLine s = s := by
  induction s with
  | nil => rfl
  | cons c s ih =>
    obtain ⟨feed, ret⟩ := not_or.1 h
    rw [List.mem_cons, not_or] at feed ret
    rw [oneLine_cons, ih (not_or.2 ⟨feed.2, ret.2⟩)]
    obtain ⟨rfl, -⟩ | ⟨rfl, -⟩ | spelled := spell_cases c
    · exact absurd rfl feed.1
    · exact absurd rfl ret.1
    · rw [spelled, List.singleton_append]

theorem not_hasBreak_oneLine (s : List Char) : ¬HasBreak (oneLine s) := by
  induction s with
  | nil => simp [HasBreak, oneLine]
  | cons c s ih =>
    obtain ⟨feed, ret⟩ := not_or.1 ih
    rw [oneLine_cons, HasBreak, List.mem_append, List.mem_append]
    unfold spell
    split <;> simp_all [eq_comm]

theorem needsQuotes_eq_false {s : List Char} : needsQuotes s = false ↔ ∀ c ∈ s, c ∉ special := by
  simp [needsQuotes]

theorem not_hasBreak_of_plain {s : List Char} (h : needsQuotes s = false) : ¬HasBreak s := by
  have plain := needsQuotes_eq_false.1 h
  rintro (feed | ret)
  · exact plain _ feed (by decide)
  · exact plain _ ret (by decide)

theorem oneLine_of_plain {s : List Char} (h : needsQuotes s = false) : oneLine s = s :=
  oneLine_of_not_hasBreak (not_hasBreak_of_plain h)

theorem encode_of_plain {s : List Char} (h : needsQuotes s = false) : encode s = s := by
  rw [encode, h]
  rfl

theorem encode_of_special {s : List Char} (h : needsQuotes s = true) :
    encode s = '"' :: (s.flatMap escape ++ ['"']) := by
  rw [encode, if_pos h]

section Reading

theorem escape_cases (c : Char) :
    (c = '"' ∧ escape c = ['"', '"'] ∧ spell c = ['"']) ∨
      (c ≠ '"' ∧ escape c = spell c ∧ '"' ∉ spell c) := by
  by_cases quote : c = '"'
  · exact .inl ⟨quote, by rw [quote]; rfl, by rw [quote]; rfl⟩
  · refine .inr ⟨quote, ?_⟩
    unfold escape spell
    split <;> simp_all [eq_comm]

theorem undouble_cons {c : Char} (h : c ≠ '"') (s : List Char) :
    undouble (c :: s) = c :: undouble s := by
  rw [undouble]
  exact fun s' e => absurd e h

theorem undouble_append {t : List Char} (h : '"' ∉ t) (s : List Char) :
    undouble (t ++ s) = t ++ undouble s := by
  induction t with
  | nil => rfl
  | cons c t ih =>
    rw [List.mem_cons, not_or] at h
    rw [List.cons_append, undouble_cons (Ne.symm h.1), ih h.2, List.cons_append]

theorem undouble_escape (s : List Char) : undouble (s.flatMap escape) = oneLine s := by
  induction s with
  | nil => rfl
  | cons c s ih =>
    rw [List.flatMap_cons, oneLine_cons, ← ih]
    obtain ⟨-, escaped, spelled⟩ | ⟨-, escaped, unquoted⟩ := escape_cases c
    · rw [escaped, spelled]
      rfl
    · rw [escaped, undouble_append unquoted]

theorem decode_of_plain {s : List Char} (h : needsQuotes s = false) : decode s = s := by
  unfold decode
  split
  · exact absurd (by decide) (needsQuotes_eq_false.1 h '"' List.mem_cons_self)
  · rfl

theorem decode_encode (s : List Char) : decode (encode s) = oneLine s := by
  cases h : needsQuotes s with
  | false => rw [encode_of_plain h, decode_of_plain h, oneLine_of_plain h]
  | true => rw [encode_of_special h, decode, List.dropLast_concat, undouble_escape]

end Reading

section Alike

def double (c : Char) : List Char := if c = '"' then ['"', '"'] else [c]

theorem flatMap_escape (s : List Char) : s.flatMap escape = (oneLine s).flatMap double := by
  rw [oneLine, List.flatMap_assoc]
  refine List.flatMap_congr fun c _ => ?_
  obtain ⟨-, escaped, spelled⟩ | ⟨-, escaped, unquoted⟩ := escape_cases c
  · rw [escaped, spelled]
    rfl
  · rw [escaped]
    calc
      spell c = (spell c).flatMap List.singleton := (List.flatMap_singleton' _).symm
      _ = (spell c).flatMap double := List.flatMap_congr fun d hd => by
        rw [double, if_neg (ne_of_mem_of_not_mem hd unquoted), List.singleton]

theorem not_hasBreak_encode (s : List Char) : ¬HasBreak (encode s) := by
  cases h : needsQuotes s with
  | false =>
    rw [encode_of_plain h]
    exact not_hasBreak_of_plain h
  | true =>
    obtain ⟨feed, ret⟩ := not_or.1 (not_hasBreak_oneLine s)
    have doubled {c : Char} (hc : c ≠ '"') (h : c ∉ oneLine s) :
        c ∉ (oneLine s).flatMap double := by
      simp only [List.mem_flatMap, double]
      rintro ⟨d, hd, there⟩
      split at there <;> simp_all
    rw [encode_of_special h, flatMap_escape, HasBreak]
    simp [doubled (by decide) feed, doubled (by decide) ret]

theorem needsQuotes_iff_mem_encode {s : List Char} : needsQuotes s = true ↔ '"' ∈ encode s := by
  cases h : needsQuotes s with
  | false =>
    rw [encode_of_plain h]
    exact ⟨(nomatch ·), fun quote => absurd (by decide) (needsQuotes_eq_false.1 h '"' quote)⟩
  | true =>
    rw [encode_of_special h]
    exact ⟨fun _ => List.mem_cons_self, fun _ => rfl⟩

theorem encode_congr {s t : List Char} (quotes : needsQuotes s = needsQuotes t)
    (same : oneLine s = oneLine t) : encode s = encode t := by
  cases h : needsQuotes s with
  | false =>
    have ht := quotes.symm.trans h
    rwa [encode_of_plain h, encode_of_plain ht, ← oneLine_of_plain h, ← oneLine_of_plain ht]
  | true =>
    rw [encode_of_special h, encode_of_special (quotes.symm.trans h), flatMap_escape, same,
      flatMap_escape]

def unspell : List Char → List Char
  | '\\' :: 'n' :: s => '\n' :: unspell s
  | '\\' :: 'r' :: s => '\r' :: unspell s
  | c :: s => c :: unspell s
  | [] => []

/-- There is something in the text that looks like a line break spelled out. -/
def LooksSpelled (s : List Char) : Prop := ['\\', 'n'] <:+: s ∨ ['\\', 'r'] <:+: s

theorem LooksSpelled.cons {s : List Char} (c : Char) (h : LooksSpelled s) : LooksSpelled (c :: s) :=
  h.imp (·.trans (List.suffix_cons c s).isInfix) (·.trans (List.suffix_cons c s).isInfix)

theorem cons_of_oneLine_eq_cons {c : Char} {s t : List Char} (h : oneLine s = c :: t)
    (hc : c ≠ '\\') : ∃ s', s = c :: s' := by
  cases s with
  | nil => cases h
  | cons d s =>
    rw [oneLine_cons] at h
    obtain ⟨-, spelled⟩ | ⟨-, spelled⟩ | spelled := spell_cases d
    · rw [spelled] at h
      exact absurd (List.cons.inj h).1.symm hc
    · rw [spelled] at h
      exact absurd (List.cons.inj h).1.symm hc
    · rw [spelled] at h
      exact ⟨s, by rw [(List.cons.inj h).1]⟩

theorem unspell_oneLine {s : List Char} (h : ¬LooksSpelled s) : unspell (oneLine s) = s := by
  induction s with
  | nil => rfl
  | cons c s ih =>
    have ih := ih fun h' => h (h'.cons c)
    rw [oneLine_cons]
    obtain ⟨rfl, spelled⟩ | ⟨rfl, spelled⟩ | spelled := spell_cases c
    · rw [spelled]
      exact congrArg ('\n' :: ·) ih
    · rw [spelled]
      exact congrArg ('\r' :: ·) ih
    · -- A backslash stays one, as it is not followed by a letter that would make it a line break.
      rw [spelled, List.singleton_append, unspell, ih]
      · rintro t rfl begins
        obtain ⟨s', rfl⟩ := cons_of_oneLine_eq_cons begins (by decide)
        exact h (.inl ⟨[], s', rfl⟩)
      · rintro t rfl begins
        obtain ⟨s', rfl⟩ := cons_of_oneLine_eq_cons begins (by decide)
        exact h (.inr ⟨[], s', rfl⟩)

/-- Two fields are written alike if both or neither need quotes and they are the same once line
breaks are spelled out. Then they are the same, or there is a line break in one of them and
something that looks like it in one of them. -/
theorem encode_eq_encode_iff (s t : List Char) :
    (encode s = encode t ↔ needsQuotes s = needsQuotes t ∧ oneLine s = oneLine t) ∧
      (encode s = encode t →
        s = t ∨ (HasBreak s ∨ HasBreak t) ∧ (LooksSpelled s ∨ LooksSpelled t)) := by
  have same (h : encode s = encode t) : oneLine s = oneLine t := by
    rw [← decode_encode, h, decode_encode]
  have quotes (h : encode s = encode t) : needsQuotes s = needsQuotes t :=
    Bool.eq_iff_iff.2 (by rw [needsQuotes_iff_mem_encode, needsQuotes_iff_mem_encode, h])
  refine ⟨⟨fun h => ⟨quotes h, same h⟩, fun h => encode_congr h.1 h.2⟩, fun h => ?_⟩
  by_cases breaks : HasBreak s ∨ HasBreak t
  · by_cases spelled : LooksSpelled s ∨ LooksSpelled t
    · exact .inr ⟨breaks, spelled⟩
    · obtain ⟨hs, ht⟩ := not_or.1 spelled
      exact .inl (by rw [← unspell_oneLine hs, same h, unspell_oneLine ht])
  · obtain ⟨hs, ht⟩ := not_or.1 breaks
    exact .inl (by rw [← oneLine_of_not_hasBreak hs, same h, oneLine_of_not_hasBreak ht])

theorem not_injective_encode : ¬∀ s t : List Char, encode s = encode t → s = t := by
  intro injective
  exact absurd (injective ['\n', ' '] ['\\', 'n', ' '] rfl) (by decide)

end Alike

section Separators

def toggle (c : Char) (inside : Bool) : Bool := if c = '"' then !inside else inside

/-- The parts between the occurrences of `sep` outside quotes. -/
def splitOutside (sep : Char) : Bool → List Char → List (List Char)
  | _, [] => [[]]
  | inside, c :: s =>
    if c = sep ∧ inside = false then [] :: splitOutside sep false s
    else (splitOutside sep (toggle c inside) s).modifyHead (c :: ·)

def cutOutside (sep : Char) : Bool → List Char → List Char × Option (List Char)
  | _, [] => ([], none)
  | inside, c :: s =>
    if c = sep ∧ inside = false then ([], some s)
    else
      let (before, after) := cutOutside sep (toggle c inside) s
      (c :: before, after)

/-- No `sep` stands outside quotes, and in the end they are closed. -/
def Sealed (sep : Char) : Bool → List Char → Prop
  | inside, [] => inside = false
  | inside, c :: s => ¬(c = sep ∧ inside = false) ∧ Sealed sep (toggle c inside) s

variable {sep : Char} {inside : Bool} {s t : List Char}

theorem Sealed.append (h : Sealed sep inside s) (h' : Sealed sep false t) :
    Sealed sep inside (s ++ t) := by
  induction s generalizing inside with
  | nil =>
    cases h
    exact h'
  | cons c s ih => exact ⟨h.1, ih h.2⟩

theorem sealed_of_forall (h : ∀ c ∈ s, c ≠ sep ∧ c ≠ '"') : Sealed sep false s := by
  induction s with
  | nil => rfl
  | cons c s ih =>
    obtain ⟨ne_sep, ne_quote⟩ := h c List.mem_cons_self
    refine ⟨fun e => ne_sep e.1, ?_⟩
    rw [toggle, if_neg ne_quote]
    exact ih fun d hd => h d (List.mem_cons_of_mem _ hd)

theorem sealed_inside (h : '"' ∉ t) (hs : Sealed sep true s) : Sealed sep true (t ++ s) := by
  induction t with
  | nil => exact hs
  | cons c t ih =>
    rw [List.mem_cons, not_or] at h
    refine ⟨fun e => Bool.noConfusion e.2, ?_⟩
    rw [toggle, if_neg (Ne.symm h.1)]
    exact ih h.2

theorem sealed_escape (hsep : sep ≠ '"') (s : List Char) :
    Sealed sep true (s.flatMap escape ++ ['"']) := by
  induction s with
  | nil => exact ⟨fun e => Bool.noConfusion e.2, rfl⟩
  | cons c s ih =>
    rw [List.flatMap_cons, List.append_assoc]
    obtain ⟨-, escaped, -⟩ | ⟨-, escaped, unquoted⟩ := escape_cases c
    · -- Between two quotes side by side one is outside, but nothing stands there.
      rw [escaped]
      exact ⟨fun e => Bool.noConfusion e.2, fun e => hsep e.1.symm, ih⟩
    · rw [escaped]
      exact sealed_inside unquoted ih

theorem sealed_encode (hsep : sep ∈ special) (hquote : sep ≠ '"') (s : List Char) :
    Sealed sep false (encode s) := by
  cases h : needsQuotes s with
  | false =>
    rw [encode_of_plain h]
    have plain := needsQuotes_eq_false.1 h
    refine sealed_of_forall fun c hc => ⟨?_, ?_⟩
    · rintro rfl
      exact plain c hc hsep
    · rintro rfl
      exact plain _ hc (by decide)
  | true =>
    rw [encode_of_special h]
    exact ⟨fun e => hquote e.1.symm, sealed_escape hquote s⟩

theorem splitOutside_append (h : Sealed sep inside s) (t : List Char) :
    splitOutside sep inside (s ++ t) = (splitOutside sep false t).modifyHead (s ++ ·) := by
  induction s generalizing inside with
  | nil =>
    cases h
    exact (congrFun List.modifyHead_id _).symm
  | cons c s ih =>
    rw [List.cons_append, splitOutside, if_neg h.1, ih h.2, List.modifyHead_modifyHead]
    rfl

theorem cutOutside_append (h : Sealed sep inside s) (t : List Char) :
    cutOutside sep inside (s ++ t) =
      (s ++ (cutOutside sep false t).1, (cutOutside sep false t).2) := by
  induction s generalizing inside with
  | nil =>
    cases h
    rfl
  | cons c s ih =>
    rw [List.cons_append, cutOutside, if_neg h.1, ih h.2]
    rfl

theorem splitOutside_flatMap (hs : Sealed sep false s) {parts : List (List Char)}
    (h : ∀ part ∈ parts, Sealed sep false part) :
    splitOutside sep false (s ++ parts.flatMap (sep :: ·)) = s :: parts := by
  rw [splitOutside_append hs]
  induction parts generalizing s with
  | nil => simp [splitOutside]
  | cons part parts ih =>
    obtain ⟨first, others⟩ := List.forall_mem_cons.1 h
    rw [List.flatMap_cons, List.cons_append, splitOutside, if_pos ⟨rfl, rfl⟩,
      splitOutside_append first, ih first others]
    simp

end Separators

end MetricRelay.Text.Quoted
