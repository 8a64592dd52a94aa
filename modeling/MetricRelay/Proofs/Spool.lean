import Mathlib.Data.List.Nodup
import Mathlib.Data.List.TakeWhile
import MetricRelay.Proofs.Spool.Folder
import MetricRelay.Spool.Spool

namespace MetricRelay.Spool

theorem fileName_injective : Function.Injective fileName := by
  intro a b h
  have h : a.toList ++ ".spool".toList = b.toList ++ ".spool".toList := by
    rw [← String.toList_append, ← String.toList_append]
    exact congrArg String.toList h
  exact String.toList_inj.1 (List.append_cancel_right h)

theorem fileName_of_idOf? {name id : String} (h : idOf? name = some id) : name = fileName id := by
  unfold idOf? at h
  split at h
  · rename_i c id' hr
    cases h
    have := congrArg List.reverse hr
    rw [List.reverse_reverse] at this
    apply String.toList_inj.1
    rw [this, fileName, String.toList_append]
    simp
  · cases h

theorem idOf?_fileName (id : String) :
    idOf? (fileName id) = if id = "" then none else some id := by
  have reversed : (fileName id).toList.reverse =
      'l' :: 'o' :: 'o' :: 'p' :: 's' :: '.' :: id.toList.reverse := by
    rw [fileName, String.toList_append, List.reverse_append]
    rfl
  unfold idOf?
  rw [reversed]
  split_ifs with empty
  · rw [empty]
    rfl
  · cases h : id.toList.reverse with
    | nil => exact absurd (String.toList_eq_nil_iff.1 (List.reverse_eq_nil_iff.1 h)) empty
    | cons c rest =>
      show some (String.ofList (c :: rest).reverse) = some id
      rw [← h, List.reverse_reverse, String.ofList_toList]

variable {s s' : Spool} {id : String} {ids : List String}

theorem nodup_list (s : Spool) : s.list.Nodup := by
  refine (List.mergeSort_perm _ _).nodup_iff.2 (s.folder.nodup_keys.filterMap ?_)
  intro name name' id h h'
  rw [fileName_of_idOf? h, fileName_of_idOf? h']

theorem sorted_list (s : Spool) : s.list.Pairwise (· ≤ ·) := by
  refine (List.pairwise_mergeSort ?_ ?_ _).imp fun h => ?_
  · intro a b c ab bc
    simp only [Bool.not_eq_true', decide_eq_false_iff_not, String.not_lt] at *
    exact String.le_trans ab bc
  · intro a b
    simp only [Bool.or_eq_true, Bool.not_eq_true', decide_eq_false_iff_not, String.not_lt]
    exact String.le_total a b
  · simpa only [Bool.not_eq_true', decide_eq_false_iff_not, String.not_lt] using h

theorem pairwise_list (s : Spool) : s.list.Pairwise (· < ·) := by
  refine (s.sorted_list.and s.nodup_list).imp fun ⟨le, ne⟩ => ?_
  by_contra not_lt
  exact ne (String.le_antisymm le (String.not_lt.1 not_lt))

theorem mem_list : id ∈ s.list ↔ id ≠ "" ∧ fileName id ∈ s.folder.keys := by
  rw [list, (List.mergeSort_perm _ _).mem_iff, List.mem_filterMap]
  constructor
  · rintro ⟨name, present, named⟩
    obtain rfl := fileName_of_idOf? named
    refine ⟨?_, present⟩
    rintro rfl
    rw [idOf?_fileName, if_pos rfl] at named
    cases named
  · rintro ⟨some_, present⟩
    exact ⟨_, present, by rw [idOf?_fileName, if_neg some_]⟩

theorem list_eq (perm : (s.folder.keys.filterMap idOf?).Perm ids) (sorted : ids.Pairwise (· < ·)) :
    s.list = ids :=
  List.Perm.eq_of_pairwise (fun _ _ _ _ le ge => String.le_antisymm le ge) s.sorted_list
    (sorted.imp fun less => String.not_lt.1 (String.lt_asymm less)) ((List.mergeSort_perm ..).trans perm)

theorem list_congr (h : ∀ name, s'.folder.get? name = s.folder.get? name) : s'.list = s.list := by
  refine List.Perm.eq_of_pairwise (fun a b _ _ le ge => String.le_antisymm le ge) (sorted_list s')
    (sorted_list s) ((List.perm_ext_iff_of_nodup s'.nodup_list s.nodup_list).2 fun id => ?_)
  rw [mem_list, mem_list, OrderedMap.mem_keys, OrderedMap.mem_keys, h]

def record? (s : Spool) (id : String) : Option SpoolRecord := (s.loadRecord id).toOption

def holds (s : Spool) (id : String) : Bool := (s.record? id).isSome

def linesOf (s : Spool) (id : String) : List String := ((s.record? id).map (·.lines)).getD []

def bursts (s : Spool) (id : String) : Bool := (s.loadRecord id).panic?.isSome

/-- The program stops when it reads all files. -/
def isOversized (s : Spool) : Bool := s.list.any s.bursts

/-- The lines in all files that can be read, in the order in which they were put away. -/
def held (s : Spool) : List String := s.list.flatMap s.linesOf

theorem loadRecord_congr (h : s'.folder.get? (fileName id) = s.folder.get? (fileName id)) :
    s'.loadRecord id = s.loadRecord id := by
  rw [loadRecord, h]
  rfl

theorem held_congr (h : ∀ name, s'.folder.get? name = s.folder.get? name) : s'.held = s.held := by
  rw [held, list_congr h]
  exact List.flatMap_congr fun id _ => by
    rw [linesOf, record?, loadRecord_congr (h _), linesOf, record?]

theorem isOversized_congr (h : ∀ name, s'.folder.get? name = s.folder.get? name) :
    s'.isOversized = s.isOversized := by
  have same : s'.bursts = s.bursts := funext fun id => by
    rw [bursts, loadRecord_congr (h _)]
    rfl
  rw [isOversized, list_congr h, same]
  rfl

theorem found?_of_record? {r : SpoolRecord} (h : s.record? id = some r) :
    ∃ e size, s.folder.get? (fileName id) = some e ∧ e ≠ .folder ∧ e.found? = some size := by
  unfold record? loadRecord recordIn at h
  rcases hf : s.folder.get? (fileName id) with - | data | - | ⟨- | size | data⟩ <;> rw [hf] at h
  · cases h
  · exact ⟨_, _, rfl, nofun, rfl⟩
  · cases h
  · cases h
  · cases h
  · exact ⟨_, _, rfl, nofun, rfl⟩

def sizeOf (s : Spool) (id : String) : Nat :=
  ((s.folder.get? (fileName id)).bind FolderEntry.found?).getD 0

def remove (s : Spool) (id : String) : Spool :=
  { s with folder := s.folder.erase (fileName id), usage := s.usage - s.sizeOf id }

def without (s : Spool) (ids : List String) : Spool := ids.foldl remove s

theorem delete_of_found? {e : FolderEntry} {size : Nat}
    (there : s.folder.get? (fileName id) = some e) (found : e.found? = some size) :
    s.delete id = (.ok (), s.remove id) := by
  unfold delete remove sizeOf
  rw [there]
  rcases e with data | - | ⟨- | n | data⟩
  · rfl
  · cases found
  · cases found
  · rfl
  · rfl

theorem delete_cases (id : String) (s : Spool) :
    (∃ e, s.delete id = (.error e, s)) ∨ s.delete id = (.ok (), s.remove id) := by
  cases there : s.folder.get? (fileName id) with
  | none => exact .inl ⟨.notFound id, by rw [delete, there]⟩
  | some e =>
    cases found : e.found? with
    | none =>
      unfold delete
      rw [there]
      rcases e with data | - | ⟨- | n | data⟩
      · cases found
      · exact .inl ⟨_, rfl⟩
      · exact .inl ⟨_, rfl⟩
      · cases found
      · cases found
    | some size => exact .inr (delete_of_found? there found)

theorem delete_of_record? {r : SpoolRecord} (h : s.record? id = some r) :
    s.delete id = (.ok (), s.remove id) := by
  obtain ⟨e, size, there, -, found⟩ := found?_of_record? h
  exact delete_of_found? there found

@[simp] theorem config_without (s : Spool) (ids : List String) :
    (s.without ids).config = s.config := by
  induction ids generalizing s with
  | nil => rfl
  | cons id ids ih => exact ih _

theorem entries_without (s : Spool) (ids : List String) :
    (s.without ids).folder.entries = s.folder.entries.filter fun e => e.1 ∉ ids.map fileName := by
  induction ids generalizing s with
  | nil => exact (List.filter_eq_self.2 fun _ _ => rfl).symm
  | cons id ids ih =>
    refine (ih (s.remove id)).trans ?_
    rw [remove, OrderedMap.erase, List.filter_filter]
    refine List.filter_congr fun e _ => ?_
    simp [Bool.and_comm]

theorem get?_without (s : Spool) (ids : List String) (name : String) :
    (s.without ids).folder.get? name =
      if name ∈ ids.map fileName then none else s.folder.get? name := by
  induction ids generalizing s with
  | nil => rfl
  | cons id ids ih =>
    refine (ih (s.remove id)).trans ?_
    rw [remove, OrderedMap.get?_erase]
    by_cases first : name = fileName id
    · simp [first]
    · simp [first]

theorem within_without (s : Spool) (ids : List String) :
    (s.without ids).folder.Within s.folder := by
  intro name e there
  rw [get?_without] at there
  split_ifs at there
  exact there

theorem mem_map_fileName : fileName id ∈ ids.map fileName ↔ id ∈ ids := by
  simp only [List.mem_map, fileName_injective.eq_iff, exists_eq_right]

theorem loadRecord_without (new : id ∉ ids) :
    (s.without ids).loadRecord id = s.loadRecord id := by
  refine loadRecord_congr ?_
  rw [get?_without, if_neg (mem_map_fileName.not.2 new)]

theorem mem_list_without : id ∈ (s.without ids).list ↔ id ∈ s.list ∧ id ∉ ids := by
  rw [mem_list, mem_list, OrderedMap.mem_keys, OrderedMap.mem_keys, get?_without]
  by_cases gone : id ∈ ids
  · rw [if_pos (mem_map_fileName.2 gone)]
    simp [gone]
  · rw [if_neg (mem_map_fileName.not.2 gone)]
    simp [gone]

theorem list_without (s : Spool) (ids : List String) :
    (s.without ids).list = s.list.filter (· ∉ ids) := by
  refine List.Perm.eq_of_pairwise (fun a b _ _ le ge => String.le_antisymm le ge) (sorted_list _)
    (s.sorted_list.filter _) ((List.perm_ext_iff_of_nodup (nodup_list _) (s.nodup_list.filter _)).2
      fun id => ?_)
  rw [mem_list_without, List.mem_filter, decide_eq_true_iff]

theorem load_cases (s : Spool) (id : String) :
    (∃ r, s.loadRecord id = .ok r ∧ s.record? id = some r ∧ s.bursts id = false) ∨
      (∃ e, s.loadRecord id = .error e ∧ s.record? id = none ∧ s.bursts id = false) ∨
      (s.loadRecord id = .panicked .capacityOverflow ∧ s.record? id = none ∧
        s.bursts id = true) := by
  have panicked {data : Bytes} {p : Panic} (h : read data = .panicked p) : p = .capacityOverflow := by
    unfold read at h
    split at h <;> cases h
    rfl
  unfold record? bursts
  cases h : s.loadRecord id with
  | ok r => exact .inl ⟨r, rfl, rfl, rfl⟩
  | error e => exact .inr (.inl ⟨e, rfl, rfl, rfl⟩)
  | panicked p =>
    refine .inr (.inr ⟨congrArg _ ?_, rfl, rfl⟩)
    unfold loadRecord recordIn at h
    split at h <;> first | exact panicked h | cases h

theorem restoreFrom_cons_of_ok {r : SpoolRecord} (h : s.loadRecord id = .ok r) :
    s.restoreFrom (id :: ids) =
      (((s.remove id).restoreFrom ids).1.map (r.lines ++ ·), ((s.remove id).restoreFrom ids).2) := by
  have deleted : s.delete id = (.ok (), s.remove id) :=
    delete_of_record? (r := r) (by rw [record?, h]; rfl)
  simp only [restoreFrom, load, h, Result.map, deleted]

theorem restoreFrom_cons_of_error {e : SpoolError} (h : s.loadRecord id = .error e) :
    s.restoreFrom (id :: ids) = s.restoreFrom ids := by
  simp only [restoreFrom, load, h, Result.map]

theorem restoreFrom_cons_of_panicked {p : Panic} (h : s.loadRecord id = .panicked p) :
    s.restoreFrom (id :: ids) = (.panicked p, s) := by
  simp only [restoreFrom, load, h, Result.map]

theorem loadRecord_remove (same : ∀ id' ∈ ids, s'.loadRecord id' = s.loadRecord id')
    (new : id ∉ ids) : ∀ id' ∈ ids, (s'.remove id).loadRecord id' = s.loadRecord id' := by
  intro id' mem
  have other : id' ∉ [id] := fun here => new (List.mem_singleton.1 here ▸ mem)
  exact (loadRecord_without other).trans (same id' mem)

theorem restoreFrom_eq (distinct : ids.Nodup)
    (same : ∀ id ∈ ids, s'.loadRecord id = s.loadRecord id) :
    s'.restoreFrom ids =
      (if ids.any s.bursts then .panicked .capacityOverflow else .ok (ids.flatMap s.linesOf),
        s'.without ((ids.takeWhile fun id => !s.bursts id).filter s.holds)) := by
  induction ids generalizing s' with
  | nil => rfl
  | cons id ids ih =>
    obtain ⟨new, distinct⟩ := List.nodup_cons.1 distinct
    obtain ⟨first, others⟩ := List.forall_mem_cons.1 same
    obtain ⟨r, loaded, record, whole⟩ | ⟨e, loaded, record, whole⟩ | ⟨loaded, record, burst⟩ :=
      s.load_cases id
    · rw [restoreFrom_cons_of_ok (first.trans loaded), ih distinct (loadRecord_remove others new)]
      simp only [List.any_cons, whole, Bool.false_or, List.flatMap_cons, linesOf, record,
        Option.map_some, Option.getD_some, List.takeWhile_cons, Bool.not_false, if_true,
        List.filter_cons, holds, Option.isSome_some, without, List.foldl_cons]
      split <;> rfl
    · rw [restoreFrom_cons_of_error (first.trans loaded), ih distinct others]
      simp [whole, record, holds, linesOf]
    · rw [restoreFrom_cons_of_panicked (first.trans loaded)]
      simp [burst, without]

def taken (s : Spool) : List String := (s.list.takeWhile fun id => !s.bursts id).filter s.holds

theorem restore_eq (s : Spool) :
    s.restore =
      (if s.isOversized then .panicked .capacityOverflow else .ok s.held, s.without s.taken) :=
  restoreFrom_eq s.nodup_list fun _ _ => rfl

theorem taken_eq (h : s.isOversized = false) : s.taken = s.list.filter s.holds := by
  rw [taken, List.takeWhile_eq_self_iff.2 fun id mem => ?_]
  simpa using List.any_eq_false.1 h id mem

def emptied (s : Spool) : Spool := s.without (s.list.filter s.holds)

theorem restore_ok (h : s.isOversized = false) : s.restore = (.ok s.held, s.emptied) := by
  rw [restore_eq, taken_eq h, h]
  rfl

theorem restore_eq_ok_iff {lines : List String} :
    s.restore = (.ok lines, s') ↔
      s.isOversized = false ∧ lines = s.held ∧ s' = s.emptied := by
  constructor
  · intro h
    cases sound : s.isOversized with
    | true =>
      rw [restore_eq, sound] at h
      cases h
    | false =>
      cases (restore_ok sound).symm.trans h
      exact ⟨rfl, rfl, rfl⟩
  · rintro ⟨sound, rfl, rfl⟩
    exact restore_ok sound

theorem held_without (s : Spool) (ids : List String) :
    (s.without ids).held = (s.list.filter (· ∉ ids)).flatMap s.linesOf := by
  rw [held, list_without]
  refine List.flatMap_congr fun id mem => ?_
  rw [linesOf, record?, loadRecord_without (of_decide_eq_true (List.mem_filter.1 mem).2)]
  rfl

theorem filter_holds_emptied (s : Spool) : s.emptied.list.filter s.emptied.holds = [] := by
  refine List.filter_eq_nil_iff.2 fun id mem => ?_
  obtain ⟨listed, stays⟩ := mem_list_without.1 mem
  rw [holds, record?, emptied, loadRecord_without stays, ← record?, ← holds]
  exact fun readable => stays (List.mem_filter.2 ⟨listed, readable⟩)

theorem held_emptied (s : Spool) : s.emptied.held = [] := by
  refine List.flatMap_eq_nil_iff.2 fun id mem => ?_
  have unread := List.filter_eq_nil_iff.1 s.filter_holds_emptied id mem
  rw [holds, Bool.not_eq_true, Option.isSome_eq_false_iff, Option.isNone_iff_eq_none] at unread
  rw [linesOf, unread]
  rfl

theorem isOversized_without (h : s.isOversized = false) (ids : List String) :
    (s.without ids).isOversized = false := by
  refine List.any_eq_false.2 fun id mem => ?_
  obtain ⟨listed, stays⟩ := mem_list_without.1 mem
  rw [bursts, loadRecord_without stays]
  exact List.any_eq_false.1 h id listed

theorem restore_emptied (h : s.isOversized = false) : s.emptied.restore = (.ok [], s.emptied) := by
  have still : s.emptied.isOversized = false := isOversized_without h _
  have nothing : s.emptied.emptied = s.emptied := by
    rw [emptied, filter_holds_emptied]
    rfl
  rw [restore_ok still, held_emptied, nothing]

def Files (s : Spool) (r : SpoolRecord) : Prop :=
  s.folder.get? (fileName r.id) = some (.file (encode s.config r))

def room (s : Spool) (stamp : Stamp) (lines : List String) : Nat :=
  (encode s.config ⟨stamp.id, stamp.time, lines⟩).length

structure Stores (s : Spool) (stamp : Stamp) (lines : List String) (s' : Spool) : Prop where
  config : s'.config = s.config
  folder : s'.folder =
    s.folder.insert (fileName stamp.id) (.file (encode s.config ⟨stamp.id, stamp.time, lines⟩))
  usage : s'.usage = s.usage + s.room stamp lines
  size : s'.usage ≤ s'.config.maxUsage
  free : s.folder.get? (fileName stamp.id) ≠ some .folder

variable {stamp : Stamp} {lines : List String}

theorem store_cases (s : Spool) (stamp : Stamp) (lines : List String) :
    (lines = [] ∧ s.store stamp lines = (.ok none, s)) ∨
      (lines ≠ [] ∧ ∃ s', s.store stamp lines = (.ok (some stamp.id), s') ∧
        s.Stores stamp lines s') ∨
      (lines ≠ [] ∧ s.config.maxUsage < s.usage + s.room stamp lines ∧
        s.store stamp lines = (.error .full, s)) ∨
      (lines ≠ [] ∧ s.usage + s.room stamp lines ≤ s.config.maxUsage ∧
        s.folder.get? (fileName stamp.id) = some .folder ∧
        s.store stamp lines = (.error .io, s)) := by
  unfold store
  dsimp only
  split_ifs with none_ full taken
  · exact .inl ⟨List.isEmpty_iff.1 none_, rfl⟩
  · exact .inr (.inr (.inl ⟨by simpa using none_, full, rfl⟩))
  · exact .inr (.inr (.inr ⟨by simpa using none_, Nat.not_lt.1 full, taken, rfl⟩))
  · exact .inr (.inl ⟨by simpa using none_, _, rfl, rfl, rfl, rfl, Nat.not_lt.1 full, taken⟩)

theorem store_ok {id : Option String} (h : s.store stamp lines = (.ok id, s')) :
    (lines = [] ∧ id = none ∧ s' = s) ∨
      (lines ≠ [] ∧ id = some stamp.id ∧ s.Stores stamp lines s') := by
  obtain ⟨none_, stored⟩ | ⟨some_, s₁, stored, stores⟩ | ⟨-, -, stored⟩ | ⟨-, -, -, stored⟩ :=
    s.store_cases stamp lines <;> cases stored.symm.trans h
  · exact .inl ⟨none_, rfl, rfl⟩
  · exact .inr ⟨some_, rfl, stores⟩

theorem Stores.files (h : s.Stores stamp lines s') : s'.Files ⟨stamp.id, stamp.time, lines⟩ := by
  rw [Files, h.folder, h.config, OrderedMap.get?_insert, if_pos rfl]

end MetricRelay.Spool
