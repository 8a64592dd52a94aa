import MetricRelay.Proofs.Spool.Record
import MetricRelay.Proofs.Spool.Stamp
import MetricRelay.Proofs.Spool.Usage

namespace MetricRelay

theorem Stamp.size_id (s : Stamp) : 32 ≤ s.id.utf8ByteSize := by
  have wide (width n : Nat) : width ≤ (padded width n).utf8ByteSize := by
    refine Nat.le_trans ?_ (Text.length_le_utf8ByteSize _)
    simp only [padded, String.toList_ofList, List.length_append, List.length_replicate]
    omega
  have time := wide 13 s.time
  have sequence := wide 20 s.sequence
  simp only [id, String.utf8ByteSize_append]
  omega

theorem Stamp.id_ne_empty (s : Stamp) : s.id ≠ "" := by
  intro empty
  have := s.size_id
  rw [empty] at this
  exact absurd this (by decide)

/-- Lines that are put away. The folder may be taken into use anew before. -/
structure Deposit where
  reopening : Option SpoolConfig
  stamp : Stamp
  lines : List String
  deriving DecidableEq, Repr

namespace Deposit

def record (d : Deposit) : SpoolRecord := ⟨d.stamp.id, d.stamp.time, d.lines⟩

@[mk_iff fits_iff]
structure Fits (d : Deposit) : Prop where
  some_ : d.lines ≠ []
  stamp : d.stamp.Fits
  record : d.record.Fits

instance (d : Deposit) : Decidable d.Fits := decidable_of_iff _ (fits_iff d).symm

end Deposit

namespace Spool

def reopened (s : Spool) : Option SpoolConfig → Spool
  | none => s
  | some config => mount config s.folder

def storeAll : List Deposit → Spool → Except SpoolError (List String) × Spool
  | [], s => (.ok [], s)
  | d :: deposits, s =>
    match (s.reopened d.reopening).store d.stamp d.lines with
    | (.error e, s) => (.error e, s)
    | (.ok id, s) =>
      let (ids, s) := storeAll deposits s
      (ids.map (id.toList ++ ·), s)

/-- The folder holds the deposits and nothing else. -/
structure Holds (s : Spool) (deposits : List Deposit) : Prop where
  keys : s.folder.keys = deposits.map fun d => fileName d.stamp.id
  record : ∀ d ∈ deposits, s.loadRecord d.stamp.id = .ok d.record
  exact_ : s.Exact

variable {s s' : Spool} {d : Deposit} {done deposits : List Deposit}

theorem holds_mount_empty (config : SpoolConfig) : (mount config .empty).Holds [] :=
  ⟨rfl, List.forall_mem_nil _, exact_mount (Folder.Plain.honest (by decide)) config⟩

theorem Holds.reopened (h : s.Holds done) (config : Option SpoolConfig) :
    (s.reopened config).Holds done := by
  cases config with
  | none => exact h
  | some config => exact ⟨h.keys, h.record, exact_mount h.exact_.honest config⟩

theorem Files.loadRecord {r : SpoolRecord} (h : s.Files r) (fits : r.Fits)
    (long : 32 ≤ r.id.utf8ByteSize) : s.loadRecord r.id = .ok r := by
  rw [Spool.loadRecord, h, recordIn, read, decode_encode s.config fits long]

theorem Holds.stores (h : s.Holds done) (fits : d.Fits)
    (new : ∀ d' ∈ done, d'.stamp.id ≠ d.stamp.id) (stores : s.Stores d.stamp d.lines s') :
    s'.Holds (done ++ [d]) := by
  have fresh : fileName d.stamp.id ∉ s.folder.keys := by
    rw [h.keys]
    intro there
    obtain ⟨d', mem, same⟩ := List.mem_map.1 there
    exact new d' mem (fileName_injective same)
  refine ⟨?_, ?_, h.exact_.stores stores fresh⟩
  · rw [List.map_append, ← h.keys, stores.folder, OrderedMap.keys_insert, if_neg fresh]
    rfl
  · refine List.forall_mem_append.2 ⟨fun d' old => ?_, List.forall_mem_singleton.2 ?_⟩
    · rw [← h.record d' old]
      refine loadRecord_congr ?_
      rw [stores.folder, OrderedMap.get?_insert,
        if_neg fun same => new d' old (fileName_injective same)]
    · exact stores.files.loadRecord fits.record d.stamp.size_id

theorem storeAll_cons {ids : List String} (h : s.storeAll (d :: deposits) = (.ok ids, s')) :
    ∃ id s₁ rest, (s.reopened d.reopening).store d.stamp d.lines = (.ok id, s₁) ∧
      s₁.storeAll deposits = (.ok rest, s') ∧ ids = id.toList ++ rest := by
  rw [storeAll] at h
  split at h
  · cases h
  · rename_i id s₁ one
    rcases rest : s₁.storeAll deposits with ⟨e | ids, s₂⟩
    · rw [rest] at h
      cases h
    · rw [rest] at h
      cases h
      exact ⟨_, _, _, one, rest, rfl⟩

theorem holds_of_storeAll {ids : List String} (h : s.Holds done) (fits : ∀ d ∈ deposits, d.Fits)
    (distinct : (done ++ deposits).Pairwise fun d d' => d.stamp.id ≠ d'.stamp.id)
    (stored : s.storeAll deposits = (.ok ids, s')) :
    ids = deposits.map (·.stamp.id) ∧ s'.Holds (done ++ deposits) := by
  induction deposits generalizing s done ids with
  | nil =>
    cases stored
    exact ⟨rfl, by rwa [List.append_nil]⟩
  | cons d deposits ih =>
    obtain ⟨first, others⟩ := List.forall_mem_cons.1 fits
    obtain ⟨id, s₁, rest, one, rest_eq, rfl⟩ := storeAll_cons stored
    have new : ∀ d' ∈ done, d'.stamp.id ≠ d.stamp.id := fun d' mem =>
      (List.pairwise_append.1 distinct).2.2 d' mem d List.mem_cons_self
    obtain ⟨none_, -⟩ | ⟨-, rfl, stores⟩ := store_ok one
    · exact absurd none_ first.some_
    · have holds := (h.reopened d.reopening).stores first new stores
      rw [List.append_cons] at distinct ⊢
      obtain ⟨rfl, holds⟩ := ih holds others distinct rest_eq
      exact ⟨rfl, holds⟩

theorem Holds.list (h : s.Holds deposits)
    (sorted : (deposits.map (·.stamp.id)).Pairwise (· < ·)) :
    s.list = deposits.map (·.stamp.id) := by
  have named : s.folder.keys.filterMap idOf? = deposits.map (·.stamp.id) := by
    rw [h.keys, List.filterMap_map, ← List.filterMap_eq_map]
    refine List.filterMap_congr fun d _ => ?_
    rw [Function.comp_apply, idOf?_fileName, if_neg d.stamp.id_ne_empty]
    rfl
  exact list_eq (.of_eq named) sorted

theorem Holds.restore (h : s.Holds deposits)
    (sorted : (deposits.map (·.stamp.id)).Pairwise (· < ·)) :
    ∃ s', s.restore = (.ok (deposits.flatMap (·.lines)), s') ∧ s'.folder.entries = [] ∧
      s'.usage = 0 := by
  have listed := h.list sorted
  have record (d : Deposit) (mem : d ∈ deposits) : s.record? d.stamp.id = some d.record := by
    rw [record?, h.record d mem]
    rfl
  have readable : s.list.filter s.holds = s.list := by
    rw [List.filter_eq_self, listed, List.forall_mem_map]
    intro d mem
    rw [holds, record d mem]
    rfl
  have sound : s.isOversized = false := by
    rw [isOversized, List.any_eq_false, listed, List.forall_mem_map]
    intro d mem
    rw [bursts, h.record d mem]
    exact Bool.false_ne_true
  have empty : s.emptied.folder.entries = [] := by
    rw [emptied, readable, entries_without, List.filter_eq_nil_iff]
    intro e mem
    have key : e.1 ∈ s.folder.keys := List.mem_map_of_mem mem
    rw [h.keys] at key
    rw [listed, List.map_map]
    simpa using key
  have usage : s.emptied.usage = 0 := by
    rw [h.exact_.emptied.usage, Folder.usage, empty, List.foldl_nil]
  refine ⟨_, (restore_ok sound).trans ?_, empty, usage⟩
  rw [held, listed, List.flatMap_map]
  congr 2
  refine List.flatMap_congr fun d mem => ?_
  rw [linesOf, record d mem]
  rfl

theorem pairwise_id (fits : ∀ d ∈ deposits, d.Fits)
    (ordered : deposits.Pairwise fun d d' => d.stamp.Before d'.stamp) :
    (deposits.map (·.stamp.id)).Pairwise (· < ·) :=
  List.pairwise_map.2 (ordered.imp_of_mem fun mem mem' before =>
    Stamp.id_lt before (fits _ mem).stamp (fits _ mem').stamp)

/-- From an empty folder on, what has been put away is found under the ids that were given out, the
ids are listed as they were given out, and taking out all lines gives them in the order in which
they were put away and leaves nothing behind. -/
theorem restore_storeAll {config : SpoolConfig} {ids : List String}
    (fits : ∀ d ∈ deposits, d.Fits)
    (ordered : deposits.Pairwise fun d d' => d.stamp.Before d'.stamp)
    (stored : (mount config .empty).storeAll deposits = (.ok ids, s)) :
    ids.map s.load = deposits.map (fun d => .ok d.lines) ∧ s.list = ids ∧
      ∃ s', s.restore = (.ok (deposits.flatMap (·.lines)), s') ∧ s'.folder.entries = [] ∧
        s'.usage = 0 := by
  have sorted := pairwise_id fits ordered
  have distinct : deposits.Pairwise fun d d' => d.stamp.id ≠ d'.stamp.id :=
    (List.pairwise_map.1 sorted).imp String.ne_of_lt
  obtain ⟨rfl, h⟩ := holds_of_storeAll (holds_mount_empty config) fits distinct stored
  refine ⟨?_, h.list sorted, h.restore sorted⟩
  rw [List.map_map]
  refine List.map_congr_left fun d mem => ?_
  rw [Function.comp_apply, load, h.record d mem]
  rfl

def switched : List Deposit :=
  let config := fun compression => { SpoolConfig.default with compression }
  [⟨some (config false), ⟨7, 0, "ffffffff-ffff-4fff-bfff-ffffffffffff"⟩, ["b\n", ""]⟩,
    ⟨some (config true), ⟨7, 1, "00000000-0000-4000-8000-000000000000"⟩, ["a\n", "a\n"]⟩,
    ⟨some (config false), ⟨1700000000000, 9, "00000000-0000-4000-8000-000000000000"⟩,
      ["\u001f\u008b"]⟩]

theorem restore_storeAll_switched :
    ∃ s s', (mount .default .empty).storeAll switched = (.ok (switched.map (·.stamp.id)), s) ∧
      s.list = switched.map (·.stamp.id) ∧
      s.restore = (.ok ["b\n", "", "a\n", "a\n", "\u001f\u008b"], s') ∧ s'.folder.entries = [] ∧
      s'.usage = 0 := by
  have fits : ∀ d ∈ switched, d.Fits := by decide +kernel
  have ordered : switched.Pairwise fun d d' => d.stamp.Before d'.stamp := by decide +kernel
  have seen : ((mount .default .empty).storeAll switched).1.toOption =
      some (switched.map (·.stamp.id)) := by
    decide +kernel
  rcases stored : (mount .default .empty).storeAll switched with ⟨e | ids, s⟩
  · rw [stored] at seen
    cases seen
  · rw [stored] at seen
    cases seen
    obtain ⟨-, listed, s', restored, empty, usage⟩ := restore_storeAll fits ordered stored
    exact ⟨s, s', rfl, listed, restored, empty, usage⟩

end Spool

end MetricRelay
