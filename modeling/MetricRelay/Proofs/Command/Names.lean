import Mathlib.Data.List.Duplicate
import Mathlib.Data.Prod.Basic
import MetricRelay.Proofs.Command.Reading

namespace MetricRelay

open Text

variable {α : Type} {l l' : List α} {a b label : String} {keys keys' : List String}

theorem duplicate_append [DecidableEq α] {x : α} (h : l.Nodup) (h' : l'.Nodup) :
    (l ++ l').Duplicate x ↔ x ∈ l ∧ x ∈ l' := by
  have once := List.nodup_iff_count_le_one.1 h x
  have once' := List.nodup_iff_count_le_one.1 h' x
  rw [List.duplicate_iff_two_le_count, List.count_append, ← List.count_pos_iff,
    ← List.count_pos_iff]
  omega

def under (label : String) (keys : List String) : List (String × String) :=
  keys.map (Prod.mk label)

theorem mem_under {n : String × String} : n ∈ under label keys ↔ n.1 = label ∧ n.2 ∈ keys := by
  obtain ⟨label', key⟩ := n
  simp only [under, List.mem_map, Prod.mk.injEq]
  constructor
  · rintro ⟨key, mem, rfl, rfl⟩
    exact ⟨rfl, mem⟩
  · rintro ⟨rfl, mem⟩
    exact ⟨key, mem, rfl, rfl⟩

theorem nodup_under (h : keys.Nodup) : (under label keys).Nodup :=
  h.map (Prod.mk_right_injective label)

theorem disjoint_under (h : a ≠ b) : (under a keys).Disjoint (under b keys') := fun _ mem mem' =>
  h ((mem_under.1 mem).1.symm.trans (mem_under.1 mem').1)

namespace Token

def name? : Token → Option (String × String)
  | pair label k _ | number label k _ => some (label, k)
  | field .. | raw .. => none

theorem names_pairs (label : String) (m : Tags) :
    (pairs label m).filterMap name? = under label m.keys := by
  rw [pairs, List.filterMap_map, under, OrderedMap.keys, List.map_map]
  exact congrFun List.filterMap_eq_map _

theorem names_numbers (label : String) (m : OrderedMap Float) :
    (numbers label m).filterMap name? = under label m.keys := by
  rw [numbers, List.filterMap_map, under, OrderedMap.keys, List.map_map]
  exact congrFun List.filterMap_eq_map _

theorem names_optional (label key : String) (v : Option String) :
    (optional label key v).filterMap name? = under label (v.toList.map fun _ => key) := by
  cases v <;> rfl

end Token

def Word.name? (w : Word) : Option (String × String) := w.value.map fun _ => (w.label, w.key)

theorem Word.name?_word (t : Token) :
    t.word.name? = t.name?.map fun n => (n.1, spelled n.2) := by
  cases t <;> rfl

def Reading.names (r : Reading) : List (String × String) := r.words.filterMap Word.name?

namespace Message

/-- The keys of a message's own tags, as far as they are set. -/
def reserved (c : Message) : List String :=
  (c.type.toList.map fun _ => "type") ++ (c.source.toList.map fun _ => "source") ++
    c.severity.toList.map fun _ => "severity"

theorem nodup_reserved (c : Message) : c.reserved.Nodup := by
  unfold reserved
  cases c.type <;> cases c.source <;> cases c.severity <;> simp

end Message

namespace Command

def names (c : Command) : List (String × String) := c.tokens.filterMap Token.name?

/-- The keys of a message's own tags that other tags have too. -/
def doubled : Command → List String
  | message c => c.reserved.filter (· ∈ c.tags.keys)
  | series _ | multipleInsert _ | property _ => []

theorem names_eq_details (c : Command) : c.names = c.details.filterMap Token.name? := by
  rw [names, tokens, List.filterMap_cons_none rfl, List.filterMap_append]
  cases c.time <;> rfl

theorem names_series (c : Series) :
    (series c).names = under "t:" c.tags.keys ++ (under "m:" [c.metric.text] ++
      under "x:" (c.sample.text.toList.map fun _ => c.metric.text)) := by
  have number : (Token.number "m:" c.metric.text c.sample.value).name? =
      some ("m:", c.metric.text) := rfl
  rw [names_eq_details, details, List.filterMap_append, Token.names_pairs,
    List.filterMap_cons_some number, Token.names_optional]
  rfl

theorem names_multipleInsert (c : MultipleInsert) :
    (multipleInsert c).names =
      under "t:" c.tags.keys ++ under "m:" c.numeric.keys ++ under "x:" c.texts.keys := by
  rw [names_eq_details, details, List.filterMap_append, List.filterMap_append, Token.names_pairs,
    Token.names_numbers, Token.names_pairs]

theorem names_property (c : Property) :
    (property c).names = under "k:" c.key.keys ++ under "v:" c.tags.keys := by
  rw [names_eq_details, details, List.filterMap_cons_none rfl, List.filterMap_append,
    Token.names_pairs, Token.names_pairs]

theorem names_message (c : Message) :
    (message c).names = under "t:" c.reserved ++ under "t:" c.tags.keys := by
  have no_name : (if c.text.isEmpty then [] else [Token.field "m:" c.text]).filterMap
      Token.name? = [] := by
    split <;> rfl
  have severity : (c.severity.map Severity.name).toList.map (fun _ => "severity") =
      c.severity.toList.map fun _ => "severity" := by
    cases c.severity <;> rfl
  rw [names_eq_details, details]
  simp only [List.filterMap_append, Token.names_optional, Token.names_pairs, no_name, severity,
    List.append_nil, under, Message.reserved, List.map_append]

theorem duplicate_names {c : Command} :
    c.names.Duplicate (a, b) ↔ a = "t:" ∧ b ∈ c.doubled := by
  have of_nodup {c : Command} (distinct : c.names.Nodup) (none_ : c.doubled = []) :
      c.names.Duplicate (a, b) ↔ a = "t:" ∧ b ∈ c.doubled := by
    rw [none_]
    exact iff_of_false (fun twice => twice.not_nodup distinct) (by simp)
  cases c with
  | series c =>
    refine of_nodup ?_ rfl
    have metric : (c.sample.text.toList.map fun _ => c.metric.text).Nodup := by
      cases c.sample.text <;> simp
    rw [names_series, List.nodup_append', List.nodup_append', List.disjoint_append_right]
    exact ⟨nodup_under c.tags.nodup_keys,
      ⟨nodup_under (List.nodup_singleton _), nodup_under metric, disjoint_under (by decide)⟩,
      disjoint_under (by decide), disjoint_under (by decide)⟩
  | multipleInsert c =>
    refine of_nodup ?_ rfl
    rw [names_multipleInsert, List.nodup_append', List.nodup_append', List.disjoint_append_left]
    exact ⟨⟨nodup_under c.tags.nodup_keys, nodup_under c.numeric.nodup_keys,
      disjoint_under (by decide)⟩, nodup_under c.texts.nodup_keys, disjoint_under (by decide),
      disjoint_under (by decide)⟩
  | property c =>
    refine of_nodup ?_ rfl
    rw [names_property]
    exact (nodup_under c.key.nodup_keys).append (nodup_under c.tags.nodup_keys)
      (disjoint_under (by decide))
  | message c =>
    rw [names_message,
      duplicate_append (nodup_under c.nodup_reserved) (nodup_under c.tags.nodup_keys),
      mem_under, mem_under, doubled, List.mem_filter, decide_eq_true_iff]
    constructor
    · rintro ⟨⟨label, own⟩, -, tag⟩
      exact ⟨label, own, tag⟩
    · rintro ⟨label, own, tag⟩
      exact ⟨⟨label, own⟩, label, tag⟩

theorem nodup_names {c : Command} : c.names.Nodup ↔ c.doubled = [] := by
  rw [List.nodup_iff_forall_not_duplicate, List.eq_nil_iff_forall_not_mem]
  constructor
  · exact fun once key mem => once _ (duplicate_names.2 ⟨rfl, mem⟩)
  · exact fun none_ n twice => none_ _ (duplicate_names.1 twice).2

theorem names_ofLine (c : Command) :
    (Reading.ofLine c.compose).names = c.names.map fun n => (n.1, spelled n.2) := by
  rw [compose, Reading.ofLine_line c.all_isAlpha_name c.regular_tokens, Reading.names,
    List.filterMap_map, names, List.map_filterMap]
  exact List.filterMap_congr fun t _ => Word.name?_word t

/-- The line of a command gives values to what the command does, in its order, with the line breaks
of the keys spelled out. A key has more than one value under its label exactly if it is that of a
tag of a message's own and other tags have it too. So no name stands on the line twice exactly if
there is no such key and no two keys under one label are spelled alike. -/
theorem names_compose (c : Command) :
    (Reading.ofLine c.compose).names = c.names.map (fun n => (n.1, spelled n.2)) ∧
      (∀ label key, c.names.Duplicate (label, key) ↔ label = "t:" ∧ key ∈ c.doubled) ∧
      ((Reading.ofLine c.compose).names.Nodup ↔ c.doubled = [] ∧
        ∀ n ∈ c.names, ∀ n' ∈ c.names, n.1 = n'.1 → spelled n.2 = spelled n'.2 → n = n') := by
  refine ⟨c.names_ofLine, fun _ _ => duplicate_names, ?_⟩
  rw [names_ofLine, ← nodup_names]
  constructor
  · intro once
    have distinct : c.names.Nodup := once.of_map
    refine ⟨distinct, fun n mem n' mem' label key => ?_⟩
    exact (List.nodup_map_iff_inj_on distinct).1 once n mem n' mem' (Prod.ext label key)
  · rintro ⟨distinct, apart⟩
    refine (List.nodup_map_iff_inj_on distinct).2 fun n mem n' mem' same => ?_
    obtain ⟨label, key⟩ := Prod.mk.inj same
    exact apart n mem n' mem' label key

/-- A message with a type takes a tag by that name too. -/
theorem not_nodup_names_of_reserved :
    ∃ c : Message,
      (Message.new "e" "x").map (fun c => (c.withType "a").withTag "type" "b") = .ok c ∧
        (message c).compose = "message e:e t:type=a t:type=b m:x\n" ∧
        ¬(Reading.ofLine (message c).compose).names.Nodup :=
  ⟨⟨⟨"e", by decide⟩, none, some "a", none, none, OrderedMap.empty.insert "type" "b", "x"⟩,
    by rfl, by decide +kernel, by decide +kernel⟩

end Command

end MetricRelay
