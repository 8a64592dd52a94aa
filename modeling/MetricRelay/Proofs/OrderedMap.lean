import Mathlib.Data.List.Nodup
import MetricRelay.OrderedMap

namespace MetricRelay.OrderedMap

variable {α : Type} {l : List (String × α)} {m : OrderedMap α}

theorem keys_insert (m : OrderedMap α) (k : String) (v : α) :
    (m.insert k v).keys = if k ∈ m.keys then m.keys else m.keys ++ [k] := keys_put ..

theorem find?_put (k k' : String) (v : α) (l : List (String × α)) :
    (put k v l).find? (fun e => e.1 = k') =
      if k' = k then some (k, v) else l.find? fun e => e.1 = k' := by
  induction l with
  | nil => by_cases same : k' = k <;> simp [put, same, eq_comm (a := k)]
  | cons e l ih =>
    by_cases here : e.1 = k
    · by_cases same : k' = k <;> simp [put, here, same, eq_comm (a := k)]
    · by_cases found : e.1 = k'
      · have other : ¬k' = k := fun same => here (found.trans same)
        simp [put, found, other]
      · simp [put, here, found, ih]

theorem get?_insert (m : OrderedMap α) (k k' : String) (v : α) :
    (m.insert k v).get? k' = if k' = k then some v else m.get? k' := by
  rw [get?, entries_insert, find?_put]
  split <;> rfl

theorem mem_entries_iff (m : OrderedMap α) (k : String) (v : α) :
    (k, v) ∈ m.entries ↔ m.get? k = some v := by
  rw [get?, Option.map_eq_some_iff]
  constructor
  · intro mem
    obtain ⟨e, found⟩ : ∃ e, m.entries.find? (fun e => e.1 = k) = some e :=
      Option.isSome_iff_exists.1 (List.find?_isSome.2 ⟨_, mem, decide_eq_true rfl⟩)
    have key : e.1 = k := by simpa using List.find?_some found
    have same : e = (k, v) :=
      List.inj_on_of_nodup_map m.nodup (List.mem_of_find?_eq_some found) mem key
    exact ⟨e, found, congrArg Prod.snd same⟩
  · rintro ⟨e, found, rfl⟩
    have key : e.1 = k := by simpa using List.find?_some found
    exact key ▸ List.mem_of_find?_eq_some found

theorem mem_keys {k : String} : k ∈ m.keys ↔ (m.get? k).isSome := by
  simp only [keys, List.mem_map, Option.isSome_iff_exists, ← mem_entries_iff]
  constructor
  · rintro ⟨e, he, rfl⟩
    exact ⟨e.2, he⟩
  · rintro ⟨v, hv⟩
    exact ⟨_, hv, rfl⟩

theorem put_of_notMem {k : String} (new : k ∉ l.map Prod.fst) (v : α) :
    put k v l = l ++ [(k, v)] := by
  induction l with
  | nil => rfl
  | cons e l ih =>
    rw [List.map_cons, List.mem_cons, not_or] at new
    rw [put, if_neg fun here => new.1 here.symm, ih new.2]
    rfl

theorem entries_ofList (h : (l.map Prod.fst).Nodup) : (ofList l).entries = l := by
  have fold (m : OrderedMap α) (hm : ((m.entries ++ l).map Prod.fst).Nodup) :
      (l.foldl (fun m e => m.insert e.1 e.2) m).entries = m.entries ++ l := by
    clear h
    induction l generalizing m with
    | nil => simp
    | cons e l ih =>
      rw [List.append_cons] at hm
      have new : e.1 ∉ m.keys := by
        intro he
        rw [List.map_append, List.map_append] at hm
        exact (List.nodup_append.1 hm.of_append_left).2.2 _ he _ (List.mem_singleton_self _) rfl
      have entries : (m.insert e.1 e.2).entries = m.entries ++ [e] := put_of_notMem new e.2
      rw [List.foldl_cons, ih _ (entries ▸ hm), entries, List.append_assoc]
      rfl
  exact fold empty h

theorem get?_erase (m : OrderedMap α) (k k' : String) :
    (m.erase k).get? k' = if k' = k then none else m.get? k' := by
  refine Option.ext fun v => ?_
  rw [← mem_entries_iff, erase, List.mem_filter, decide_eq_true_eq, mem_entries_iff]
  split_ifs with same
  · simp [same]
  · simp [same]

theorem perm_cons_erase {k : String} {v : α} (h : m.get? k = some v) :
    m.entries.Perm ((k, v) :: (m.erase k).entries) := by
  have here := (m.mem_entries_iff k v).2 h
  obtain ⟨entries, nodup⟩ := m
  simp only [erase] at here ⊢
  clear h
  induction entries with
  | nil => cases here
  | cons e entries ih =>
    obtain ⟨new, nodup⟩ := List.nodup_cons.1 nodup
    obtain rfl | there := List.mem_cons.1 here
    · have others : entries.filter (fun e => e.1 ≠ k) = entries :=
        List.filter_eq_self.2 fun e he => by
          have other : e.1 ≠ k := fun e' => new (List.mem_map.2 ⟨e, he, e'⟩)
          simpa using other
      rw [List.filter_cons_of_neg (by simp), others]
    · have other : e.1 ≠ k := fun e' => new (e' ▸ List.mem_map_of_mem there)
      rw [List.filter_cons_of_pos (by simpa using other)]
      exact ((ih nodup there).cons e).trans (.swap ..)

theorem getElem?_put {k : String} {e : String × α} {i : Nat} (h : l[i]? = some e) (other : e.1 ≠ k)
    (v : α) : (put k v l)[i]? = some e := by
  induction l generalizing i with
  | nil => cases h
  | cons e' l ih =>
    cases i with
    | zero =>
      obtain rfl : e' = e := Option.some.inj h
      simp [put, other]
    | succ i =>
      by_cases first : e'.1 = k
      · simpa [put, first] using h
      · simpa [put, first] using ih h

/-- The map is what the insertions `l` make of the empty one. -/
structure Recalls (l : List (String × α)) (m : OrderedMap α) : Prop where
  mem_keys : ∀ k, k ∈ m.keys ↔ k ∈ l.map Prod.fst
  /-- The keys stand in the order in which they came first. -/
  sorted : m.keys.Pairwise fun k k' => (l.map Prod.fst).idxOf k < (l.map Prod.fst).idxOf k'
  /-- The value is the one that came last. -/
  get? : ∀ k, m.get? k = l.reverse.lookup k

theorem recalls_empty : Recalls ([] : List (String × α)) empty :=
  ⟨fun _ => .rfl, .nil, fun _ => rfl⟩

theorem Recalls.insert (h : Recalls l m) (k : String) (v : α) :
    Recalls (l ++ [(k, v)]) (m.insert k v) where
  mem_keys k' := by
    rw [keys_insert, List.map_append, List.mem_append, ← h.mem_keys, List.map_singleton,
      List.mem_singleton]
    split
    · rename_i present
      exact ⟨.inl, fun mem => mem.elim id fun same => same ▸ present⟩
    · rw [List.mem_append, List.mem_singleton]
  sorted := by
    have known {k' : String} (mem : k' ∈ m.keys) :
        ((l ++ [(k, v)]).map Prod.fst).idxOf k' = (l.map Prod.fst).idxOf k' := by
      rw [List.map_append]
      exact List.idxOf_append_of_mem ((h.mem_keys k').1 mem)
    have still : m.keys.Pairwise fun a b =>
        ((l ++ [(k, v)]).map Prod.fst).idxOf a < ((l ++ [(k, v)]).map Prod.fst).idxOf b :=
      h.sorted.imp_of_mem fun a b lt => (known a).symm ▸ (known b).symm ▸ lt
    rw [keys_insert]
    split
    · exact still
    · rename_i absent
      refine List.pairwise_append.2 ⟨still, List.pairwise_singleton .., fun a mem b new => ?_⟩
      obtain rfl := List.mem_singleton.1 new
      have later : b ∉ l.map Prod.fst := fun there => absent ((h.mem_keys b).2 there)
      rw [known mem, List.map_append, List.idxOf_append_of_notMem later]
      exact Nat.lt_add_right _ (List.idxOf_lt_length_iff.2 ((h.mem_keys a).1 mem))
  get? k' := by
    rw [get?_insert, h.get?, List.reverse_append, List.reverse_singleton, List.singleton_append,
      List.lookup_cons]
    by_cases same : k' = k
    · simp [same]
    · simp [same, beq_eq_false_iff_ne.2 same]

theorem ofList_concat (l : List (String × α)) (k : String) (v : α) :
    ofList (l ++ [(k, v)]) = (ofList l).insert k v := List.foldl_concat ..

def replaceAll (m : OrderedMap α) : List (String × α) → List (Option α) × OrderedMap α
  | [] => ([], m)
  | (k, v) :: l =>
    let (old, m) := m.replace k v
    let (olds, m) := m.replaceAll l
    (old :: olds, m)

theorem Recalls.replaceAll (h : Recalls l m) (l' : List (String × α)) :
    Recalls (l ++ l') (m.replaceAll l').2 := by
  induction l' generalizing l m with
  | nil => rwa [List.append_nil]
  | cons e l' ih =>
    rw [List.append_cons]
    exact ih (h.insert e.1 e.2)

theorem replaceAll_snd (m : OrderedMap α) (l : List (String × α)) :
    (m.replaceAll l).2 = l.foldl (fun m e => m.insert e.1 e.2) m := by
  induction l generalizing m with
  | nil => rfl
  | cons e l ih => exact ih _

theorem Recalls.getElem?_replaced (h : Recalls l m) (before after : List (String × α))
    (e : String × α) :
    (m.replaceAll (before ++ e :: after)).1[before.length]? =
      some ((l ++ before).reverse.lookup e.1) := by
  induction before generalizing l m with
  | nil =>
    rw [List.append_nil, ← h.get?]
    rfl
  | cons e' before ih =>
    rw [List.append_cons l e' before]
    exact ih (h.insert e'.1 e'.2)

/-- After any insertions, one by one or all at once, a map holds each key that was put in once, in
the order in which the keys came first, and under it the value that came last. Each insertion gives
back the value that was there before it, and leaves all else as it is and where it is. -/
theorem recalls_ofList (l : List (String × α)) :
    (empty.replaceAll l).2 = ofList l ∧ (ofList l).keys.Nodup ∧ Recalls l (ofList l) ∧
      (∀ k v, (k, v) ∈ (ofList l).entries ↔ l.reverse.lookup k = some v) ∧
      (∀ before k v after, l = before ++ (k, v) :: after →
        (empty.replaceAll l).1[before.length]? = some (before.reverse.lookup k)) ∧
      ∀ k v, ((ofList l).replace k v).1 = l.reverse.lookup k ∧
        ((ofList l).replace k v).2 = ofList (l ++ [(k, v)]) ∧
        ∀ (i : Nat) (e : String × α), (ofList l).entries[i]? = some e → e.1 ≠ k →
          ((ofList l).replace k v).2.entries[i]? = some e := by
  have all : (empty.replaceAll l).2 = ofList l := replaceAll_snd ..
  have recalls : Recalls l (ofList l) := all ▸ recalls_empty.replaceAll l
  refine ⟨all, nodup_keys _, recalls, fun k v => ?_, ?_, fun k v => ⟨recalls.get? k, ?_, ?_⟩⟩
  · rw [mem_entries_iff, recalls.get?]
  · rintro before k v after rfl
    exact recalls_empty.getElem?_replaced before after (k, v)
  · exact (ofList_concat l k v).symm
  · intro i e there other
    exact getElem?_put there other v

example : (empty.replaceAll [("b", 1), ("a", 2), ("b", 3)]).1 = [none, none, some 1] ∧
    (ofList [("b", 1), ("a", 2), ("b", 3)]).entries = [("b", 3), ("a", 2)] := by decide

end MetricRelay.OrderedMap
