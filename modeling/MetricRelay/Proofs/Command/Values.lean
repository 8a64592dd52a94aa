import MetricRelay.Proofs.Command.Names

namespace MetricRelay

open Text

def Word.Names (w : Word) (n : String × String) : Prop := w.name? = some (n.1, spelled n.2)

theorem Word.names_map {α : Type} {l : List α} {f : α → Word} {g : α → String × String}
    (h : ∀ a, (f a).Names (g a)) : List.Forall₂ Names (l.map f) (l.map g) := by
  rw [List.forall₂_map_left_iff, List.forall₂_map_right_iff]
  exact List.forall₂_same.2 fun a _ => h a

namespace MultipleInsert

/-- Some metric has a value, and there is something to see in the name of each that has one. -/
structure Telling (c : MultipleInsert) : Prop where
  some_value : c.numeric.keys ≠ [] ∨ c.texts.keys ≠ []
  visible_numeric : ∀ metric ∈ c.numeric.keys, isBlank metric = false
  visible_texts : ∀ metric ∈ c.texts.keys, isBlank metric = false

end MultipleInsert

namespace Command

/-- The metrics that have values, each with the label of its value, in the order of the line. -/
def metrics : Command → List (String × String)
  | series c =>
    under "m:" [c.metric.text] ++ under "x:" (c.sample.text.toList.map fun _ => c.metric.text)
  | multipleInsert c => under "m:" c.numeric.keys ++ under "x:" c.texts.keys
  | property _ | message _ => []

structure CarriesData (c : Command) : Prop where
  some_metric : c.metrics ≠ []
  visible : ∀ n ∈ c.metrics, isBlank n.2 = false

def frontWords (c : Command) (tags : Tags) : List Word :=
  ⟨"e:", spelled c.entity, none⟩ ::
    ((c.time.toList.map fun t => ⟨"ms:", toString t, none⟩) ++ tagWords "t:" tags)

theorem label_frontWords (c : Command) (tags : Tags) :
    ∀ w ∈ c.frontWords tags, w.label ∈ ["e:", "ms:", "t:"] := by
  refine List.forall_mem_cons.2 ⟨by simp, List.forall_mem_append.2 ⟨?_, ?_⟩⟩
  · exact List.forall_mem_map.2 fun _ _ => by simp
  · exact List.forall_mem_map.2 fun _ _ => by simp

theorem label_metrics (c : Command) : ∀ n ∈ c.metrics, n.1 ∈ ["m:", "x:"] := by
  have labels (numeric texts : List String) :
      ∀ n ∈ under "m:" numeric ++ under "x:" texts, n.1 ∈ ["m:", "x:"] := by
    refine List.forall_mem_append.2 ⟨fun n mem => ?_, fun n mem => ?_⟩
    · simp [(mem_under.1 mem).1]
    · simp [(mem_under.1 mem).1]
  cases c with
  | series c => exact labels _ _
  | multipleInsert c => exact labels _ _
  | property c => exact List.forall_mem_nil _
  | message c => exact List.forall_mem_nil _

theorem names_tagWords (label : String) (m : Tags) :
    List.Forall₂ Word.Names (tagWords label m) (under label m.keys) := by
  rw [under, OrderedMap.keys, List.map_map]
  exact Word.names_map fun _ => rfl

theorem words_series (c : Series) : ∃ values,
    (series c).words = (series c).frontWords c.tags ++ values ∧
      List.Forall₂ Word.Names values (series c).metrics := by
  have split : (series c).words = (series c).frontWords c.tags ++
      (numberWord c.metric.text c.sample.value ::
        c.sample.text.toList.map fun text => ⟨"x:", spelled c.metric.text, some (spelled text)⟩) := by
    simp only [words, detailWords, frontWords, List.append_assoc, List.cons_append]
  have text : List.Forall₂ Word.Names
      (c.sample.text.toList.map fun text => ⟨"x:", spelled c.metric.text, some (spelled text)⟩)
      (under "x:" (c.sample.text.toList.map fun _ => c.metric.text)) := by
    rw [under, List.map_map]
    exact Word.names_map fun _ => rfl
  exact ⟨_, split, .cons rfl text⟩

theorem words_multipleInsert (c : MultipleInsert) : ∃ values,
    (multipleInsert c).words = (multipleInsert c).frontWords c.tags ++ values ∧
      List.Forall₂ Word.Names values (multipleInsert c).metrics := by
  have split : (multipleInsert c).words = (multipleInsert c).frontWords c.tags ++
      ((c.numeric.entries.map fun e => numberWord e.1 e.2) ++ tagWords "x:" c.texts) := by
    simp only [words, detailWords, frontWords, List.append_assoc, List.cons_append]
  refine ⟨_, split, List.rel_append ?_ (names_tagWords "x:" c.texts)⟩
  rw [under, OrderedMap.keys, List.map_map]
  exact Word.names_map fun _ => rfl

theorem carriesData_series (c : Series) : (series c).CarriesData where
  some_metric := List.cons_ne_nil _ _
  visible := by
    have metric : ∀ n ∈ (series c).metrics, n.2 = c.metric.text := by
      simp [metrics, under]
    exact fun n mem => metric n mem ▸ c.metric.visible

theorem carriesData_multipleInsert (c : MultipleInsert) :
    (multipleInsert c).CarriesData ↔ c.Telling := by
  have empty : (multipleInsert c).metrics ≠ [] ↔ c.numeric.keys ≠ [] ∨ c.texts.keys ≠ [] := by
    simp [metrics, under, ← not_and_or]
  have visible : (∀ n ∈ (multipleInsert c).metrics, isBlank n.2 = false) ↔
      (∀ metric ∈ c.numeric.keys, isBlank metric = false) ∧
        ∀ metric ∈ c.texts.keys, isBlank metric = false := by
    rw [metrics, List.forall_mem_append, under, under, List.forall_mem_map, List.forall_mem_map]
  constructor
  · rintro ⟨some_metric, all_visible⟩
    obtain ⟨numeric, texts⟩ := visible.1 all_visible
    exact ⟨empty.1 some_metric, numeric, texts⟩
  · rintro ⟨some_value, numeric, texts⟩
    exact ⟨empty.2 some_value, visible.2 ⟨numeric, texts⟩⟩

theorem series_or_multipleInsert {c : Command} (h : "series".toList <+: c.compose.toList) :
    (∃ s, c = series s) ∨ ∃ i, c = multipleInsert i := by
  have name : c.name.toList <+: c.compose.toList := by
    rw [compose, line, String.toList_ofList, lineChars, List.append_assoc]
    exact List.prefix_append _ _
  have comparable := List.prefix_or_prefix_of_prefix h name
  cases c with
  | series s => exact .inl ⟨s, rfl⟩
  | multipleInsert i => exact .inr ⟨i, rfl⟩
  | property p => exact absurd comparable (by rw [Command.name]; decide)
  | message m => exact absurd comparable (by rw [Command.name]; decide)

/-- A line that begins with `series` tells the entity, the time and the tags, and after them the
values of metrics, each with a label of its own. A series always has such a value, and its metric a
name in which there is something to see; a multiple insert has if one of its maps is not empty and
no key in them is blank. -/
theorem carriesData_compose {c : Command} (h : "series".toList <+: c.compose.toList) :
    (∃ front values, (Reading.ofLine c.compose).words = front ++ values ∧
      (∀ w ∈ front, w.label ∈ ["e:", "ms:", "t:"]) ∧
      List.Forall₂ Word.Names values c.metrics ∧ ∀ n ∈ c.metrics, n.1 ∈ ["m:", "x:"]) ∧
    (c.CarriesData ↔ ∀ i, c = multipleInsert i → i.Telling) := by
  have read : (Reading.ofLine c.compose).words = c.words := by
    rw [compose, Reading.ofLine_line c.all_isAlpha_name c.regular_tokens, map_word_tokens]
  rw [read]
  obtain ⟨s, rfl⟩ | ⟨i, rfl⟩ := series_or_multipleInsert h
  · obtain ⟨values, told, named⟩ := words_series s
    refine ⟨⟨_, values, told, label_frontWords _ _, named, label_metrics _⟩, ?_⟩
    refine iff_of_true (carriesData_series s) fun i same => ?_
    cases same
  · obtain ⟨values, told, named⟩ := words_multipleInsert i
    refine ⟨⟨_, values, told, label_frontWords _ _, named, label_metrics _⟩, ?_⟩
    rw [carriesData_multipleInsert]
    constructor
    · rintro telling _ ⟨⟩
      exact telling
    · exact fun telling => telling i rfl

theorem carriesData_compose_of_blank :
    ∃ i : MultipleInsert,
      (MultipleInsert.new "e" (some 7) (.insert .empty "t" "u") .empty).map
          (fun i => (i.withText "m" "x").withText " " "y") = .ok i ∧
        (multipleInsert i).compose = "series e:e ms:7 t:t=u x:m=x x:\" \"=y\n" ∧
        ¬(multipleInsert i).CarriesData := by
  let i : MultipleInsert := ⟨⟨"e", by decide⟩, some 7, .insert .empty "t" "u", .empty,
    (OrderedMap.empty.insert "m" "x").insert " " "y"⟩
  have begins : "series".toList <+: (multipleInsert i).compose.toList := by decide +kernel
  refine ⟨i, rfl, by decide +kernel, fun carries => ?_⟩
  have telling := (carriesData_compose begins).2.1 carries i rfl
  exact absurd (telling.visible_texts " " (by decide)) (by decide)

/-- Without any values the line ends after the tags. -/
theorem not_carriesData_of_empty :
    ∃ i : MultipleInsert, MultipleInsert.new "e" none .empty .empty = .ok i ∧
      (multipleInsert i).compose = "series e:e\n" ∧
      (∀ w ∈ (Reading.ofLine (multipleInsert i).compose).words, w.label ∉ ["m:", "x:"]) ∧
      ¬(multipleInsert i).CarriesData :=
  ⟨⟨⟨"e", by decide⟩, none, .empty, .empty, .empty⟩, rfl, by decide +kernel, by decide +kernel,
    fun carries => carries.some_metric rfl⟩

end Command

end MetricRelay
