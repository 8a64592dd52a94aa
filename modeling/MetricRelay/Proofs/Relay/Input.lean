import MetricRelay.Proofs.Text.Lines
import MetricRelay.Relay.Input

namespace MetricRelay.Relay

open Text

variable {τ : Type}

/-- Lines as they are read: without the white space at their ends, and not the blank ones. -/
def legible (lines : List String) : List String := (lines.map trimEnd).filter fun s => !isBlank s

/-- What there is to read in a text. -/
def inputLines (text : String) : List String :=
  legible ((splitOn '\n' text.toList).map String.ofList)

theorem legible_append (lines lines' : List String) :
    legible (lines ++ lines') = legible lines ++ legible lines' := by
  simp [legible]

theorem trimEnd_ofList (s : List Char) :
    trimEnd (String.ofList s) = String.ofList (dropBlanksEnd s) := by
  rw [trimEnd, String.toList_ofList]

theorem cutLines_append (lines : List Bytes) (begun a b : Bytes) :
    cutLines lines begun (a ++ b) =
      ((cutLines lines begun a).1 ++ (cutLines [] (cutLines lines begun a).2 b).1,
        (cutLines [] (cutLines lines begun a).2 b).2) := by
  induction a generalizing lines begun with
  | nil =>
    induction b generalizing lines begun with
    | nil => simp [cutLines]
    | cons x b ih =>
      simp only [List.nil_append, cutLines] at ih ⊢
      split
      · rw [ih, ih [begun.reverse]]
        simp
      · rw [ih]
  | cons x a ih =>
    simp only [List.cons_append, cutLines]
    split <;> exact ih ..

theorem cutLines_of_notMem (begun : Bytes) {b : Bytes} (h : lineFeed ∉ b) :
    cutLines [] begun b = ([], b.reverse ++ begun) := by
  induction b generalizing begun with
  | nil => rfl
  | cons x b ih =>
    obtain ⟨other, h⟩ := not_or.1 (mt List.mem_cons.2 h)
    rw [cutLines, if_neg fun e => other e.symm, ih _ h, List.reverse_cons, List.append_assoc]
    rfl

theorem arrivals_singleton (begun b : Bytes) :
    (arrivals .eof begun [.data b] : List (Arrival τ)) =
      (cutLines [] begun b).1.map (fun line => .ofBytes (dropReturn line)) ++
        Ending.eof.arrivals (cutLines [] begun b).2 := rfl

theorem arrivals_data (begun : Bytes) (chunks : List Bytes) :
    (arrivals .eof begun (chunks.map .data) : List (Arrival τ)) =
      arrivals .eof begun [.data chunks.flatten] := by
  induction chunks generalizing begun with
  | nil => simp [arrivals, cutLines]
  | cons b chunks ih =>
    rw [List.map_cons, arrivals, List.flatten_cons, arrivals_singleton, cutLines_append]
    dsimp only
    rw [ih, arrivals_singleton, List.map_append, List.append_assoc]

theorem arrivals_lineFeed (begun b : Bytes) :
    (arrivals .eof begun [.data (lineFeed :: b)] : List (Arrival τ)) =
      .ofBytes (dropReturn begun.reverse) :: arrivals .eof [] [.data b] := by
  rw [arrivals_singleton, ← List.singleton_append, cutLines_append]
  rfl

theorem arrivals_of_notMem (begun : Bytes) {a : Bytes} (h : lineFeed ∉ a) (b : Bytes) :
    (arrivals .eof begun [.data (a ++ b)] : List (Arrival τ)) =
      arrivals .eof (a.reverse ++ begun) [.data b] := by
  rw [arrivals_singleton, cutLines_append, cutLines_of_notMem begun h]
  rfl

theorem ofBytes_utf8 (s : List Char) :
    (Arrival.ofBytes (utf8 s) : Arrival τ) = .line (String.ofList s) := by
  rw [Arrival.ofBytes, ← bytes_ofList, decode?_bytes]

theorem dropReturn_utf8 (s : List Char) :
    ∃ s', dropReturn (utf8 s) = utf8 s' ∧ dropBlanksEnd s' = dropBlanksEnd s := by
  unfold dropReturn
  split
  · rename_i last
    obtain ⟨s', rfl⟩ := getLast?_utf8 last (d := '\r') (by decide) (by decide)
    refine ⟨s', ?_, (dropBlanksEnd_concat s' (by decide)).symm⟩
    rw [utf8_concat]
    exact List.dropLast_concat
  · exact ⟨s, rfl, rfl⟩

theorem legible_cons_congr {line line' : String} (lines : List String)
    (h : trimEnd line = trimEnd line') : legible (line :: lines) = legible (line' :: lines) := by
  rw [legible, legible, List.map_cons, List.map_cons, h]

theorem arrivals_utf8 {begun : List Char} (unbroken : '\n' ∉ begun) (s : List Char) :
    ∃ lines, (arrivals .eof (utf8 begun).reverse [.data (utf8 s)] : List (Arrival τ)) =
        lines.map .line ∧
      legible lines = legible ((splitOn '\n' (begun ++ s)).map String.ofList) := by
  induction s generalizing begun with
  | nil =>
    rw [List.append_nil, splitOn_of_notMem unbroken, arrivals_singleton]
    simp only [utf8, List.flatMap_nil, cutLines, List.reverse_nil, List.map_nil, List.nil_append,
      Ending.arrivals]
    split
    · rename_i empty
      have empty : begun = [] :=
        List.eq_nil_iff_forall_not_mem.2 (by simpa [String.utf8EncodeChar_ne_nil] using empty)
      exact ⟨[], rfl, by rw [empty]; decide⟩
    · refine ⟨[String.ofList begun], ?_, rfl⟩
      rw [List.reverse_reverse, ← utf8, ofBytes_utf8, List.map_singleton]
  | cons c s ih =>
    by_cases feed : c = '\n'
    · obtain rfl := feed
      obtain ⟨lines, arrive, same⟩ := ih List.not_mem_nil
      obtain ⟨line, dropped, trimmed⟩ := dropReturn_utf8 begun
      have alike : trimEnd (String.ofList line) = trimEnd (String.ofList begun) := by
        rw [trimEnd_ofList, trimEnd_ofList, trimmed]
      refine ⟨String.ofList line :: lines, ?_, ?_⟩
      · change arrivals .eof _ [.data (lineFeed :: utf8 s)] = _
        rw [arrivals_lineFeed, List.reverse_reverse, dropped, ofBytes_utf8, List.map_cons]
        exact congrArg _ arrive
      · rw [splitOn_append unbroken, List.map_cons, legible_cons_congr _ alike,
          ← List.singleton_append, legible_append, same, ← legible_append]
        rfl
    · -- No byte of another character is that of a line feed.
      have whole : lineFeed ∉ String.utf8EncodeChar c := fun there =>
        feed (eq_of_mem_utf8EncodeChar there (by decide) (by decide))
      have unbroken : '\n' ∉ begun ++ [c] := by
        simpa [unbroken] using fun e => feed e.symm
      obtain ⟨lines, arrive, same⟩ := ih unbroken
      refine ⟨lines, ?_, by rw [same, List.append_assoc, List.singleton_append]⟩
      rw [← arrive, utf8_concat, List.reverse_append]
      exact arrivals_of_notMem _ whole _

/-- An input of which some bytes come in at a time. -/
def fed (τ : Type) (chunks : List Bytes) : List (Arrival τ) := arrivals .eof [] (chunks.map .data)

theorem fed_bytes {chunks : List Bytes} {text : String} (h : chunks.flatten = bytes text) :
    ∃ lines, fed τ chunks = lines.map .line ∧ legible lines = inputLines text := by
  obtain ⟨lines, arrive, same⟩ := arrivals_utf8 (τ := τ) List.not_mem_nil text.toList
  refine ⟨lines, ?_, same⟩
  rw [fed, arrivals_data, h, bytes_eq_flatMap]
  exact arrive

def roundsFrom (size : Nat) (g : Gathering τ) : List (Arrival τ) → List (Round τ)
  | [] => [g.round none]
  | a :: rest =>
    match g.add a with
    | .inl g => roundsFrom size g rest
    | .inr r => r :: roundsFrom size (.new size) rest

/-- All batches. If they have no room then there is one, with nothing in it. -/
def rounds (size : Nat) (input : List (Arrival τ)) : List (Round τ) :=
  if size = 0 then [(Gathering.new 0).round none] else roundsFrom size (.new size) input

def Round.of (lines : List String) : Round τ := ⟨[], lines, none, false⟩

theorem roundsFrom_lines {size : Nat} (size_ : 0 < size) (lines : List String) {g : Gathering τ}
    (undisturbed : g.changes = []) (room : 0 < g.room) (count : g.lines.length + g.room = size) :
    ∃ full last, roundsFrom size g (lines.map .line) = (full ++ [last]).map .of ∧
      (∀ batch ∈ full, batch ≠ []) ∧ (∀ batch ∈ full ++ [last], batch.length ≤ size) ∧
      (full ++ [last]).flatten = g.lines.reverse ++ legible lines := by
  induction lines generalizing g with
  | nil =>
    refine ⟨[], g.lines.reverse, ?_, List.forall_mem_nil _, ?_, by simp [legible]⟩
    · simp [roundsFrom, Gathering.round, Round.of, undisturbed]
    · refine List.forall_mem_singleton.2 ?_
      rw [List.length_reverse]
      omega
  | cons line lines ih =>
    rw [List.map_cons, roundsFrom, Gathering.add]
    dsimp only
    by_cases blank : isBlank (trimEnd line) = true
    · rw [if_pos blank]
      obtain ⟨full, last, read, nonempty, short, flat⟩ := ih undisturbed room count
      exact ⟨full, last, read, nonempty, short, flat.trans (by simp [legible, blank])⟩
    · have kept : legible (line :: lines) = trimEnd line :: legible lines := by
        simp [legible, blank]
      rw [if_neg blank, kept]
      by_cases complete : g.room - 1 = 0
      · -- The batch goes out, and the next one begins without a line.
        rw [if_pos complete]
        obtain ⟨full, last, read, nonempty, short, flat⟩ :=
          ih (g := .new size) rfl size_ (Nat.zero_add _)
        refine ⟨(trimEnd line :: g.lines).reverse :: full, last, ?_, ?_, ?_, ?_⟩
        · rw [List.cons_append, List.map_cons, ← read]
          simp [Gathering.round, Round.of, undisturbed]
        · exact List.forall_mem_cons.2 ⟨by simp, nonempty⟩
        · refine List.forall_mem_cons.2 ⟨?_, short⟩
          rw [List.length_reverse, List.length_cons]
          omega
        · rw [List.cons_append, List.flatten_cons, flat]
          simp [Gathering.new]
      · rw [if_neg complete]
        obtain ⟨full, last, read, nonempty, short, flat⟩ :=
          ih (g := ⟨g.room - 1, g.changes, trimEnd line :: g.lines⟩) undisturbed
            (Nat.pos_of_ne_zero complete) (by simp only [List.length_cons]; omega)
        exact ⟨full, last, read, nonempty, short, flat.trans (by simp)⟩

theorem rounds_bytes {size : Nat} (size_ : 0 < size) {chunks : List Bytes} {text : String}
    (h : chunks.flatten = bytes text) :
    ∃ full last, rounds size (fed τ chunks) = (full ++ [last]).map .of ∧
      (∀ batch ∈ full, batch ≠ []) ∧ (∀ batch ∈ full ++ [last], batch.length ≤ size) ∧
      (full ++ [last]).flatten = inputLines text := by
  obtain ⟨lines, arrive, same⟩ := fed_bytes (τ := τ) h
  rw [rounds, if_neg (Nat.pos_iff_ne_zero.1 size_), arrive, ← same]
  exact roundsFrom_lines size_ lines (g := .new size) rfl size_ (Nat.zero_add _)

end MetricRelay.Relay
