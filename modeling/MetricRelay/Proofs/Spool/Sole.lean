import MetricRelay.Proofs.Spool.Deposits
import MetricRelay.Text.Lines

namespace MetricRelay.Spool

variable {s s' again base : Spool} {stamp : Stamp} {lines : List String} {r : SpoolRecord}

@[mk_iff hasRoom_iff]
structure HasRoom (s : Spool) (stamp : Stamp) (lines : List String) : Prop where
  size : s.usage + (encode s.config ⟨stamp.id, stamp.time, lines⟩).length ≤ s.config.maxUsage
  free : s.folder.get? (fileName stamp.id) ≠ some .folder

instance (s : Spool) (stamp : Stamp) (lines : List String) : Decidable (s.HasRoom stamp lines) :=
  decidable_of_iff _ (s.hasRoom_iff stamp lines).symm

theorem HasRoom.store (h : s.HasRoom stamp lines) : ∃ id, (s.store stamp lines).1 = .ok id := by
  obtain ⟨-, stored⟩ | ⟨-, s', stored, -⟩ | ⟨-, full, -⟩ | ⟨-, -, taken, -⟩ :=
    s.store_cases stamp lines
  · exact ⟨_, congrArg Prod.fst stored⟩
  · exact ⟨_, congrArg Prod.fst stored⟩
  · exact absurd h.size (Nat.not_le.2 full)
  · exact absurd taken h.free

theorem HasRoom.within (h : s.HasRoom stamp lines) (config : s'.config = s.config)
    (inside : s'.folder.Within s.folder) (right : s.Exact) (right' : s'.Exact) :
    s'.HasRoom stamp lines := by
  refine ⟨?_, fun there => h.free (inside _ _ there)⟩
  rw [config, right'.usage]
  exact Nat.le_trans (Nat.add_le_add_right (right.usage ▸ inside.usage_le) _) h.size

structure Sole (s : Spool) (r : SpoolRecord) (again : Spool) : Prop where
  unread : s.held = []
  sound : s.isOversized = false
  file : again.Files r
  config : again.config = s.config
  others : ∀ name, name ≠ fileName r.id → again.folder.get? name = s.folder.get? name
  fits : r.Fits
  long : 32 ≤ r.id.utf8ByteSize

namespace Sole

variable {id : String}

theorem loadRecord (h : Sole s r again) : again.loadRecord r.id = .ok r :=
  h.file.loadRecord h.fits h.long

theorem record? (h : Sole s r again) : again.record? r.id = some r := by
  rw [Spool.record?, h.loadRecord]
  rfl

theorem mem_list (h : Sole s r again) : r.id ∈ again.list := by
  refine Spool.mem_list.2 ⟨fun empty => ?_, OrderedMap.mem_keys.2 (by rw [h.file]; rfl)⟩
  have long := h.long
  rw [empty] at long
  exact absurd long (by decide)

theorem of_ne (h : Sole s r again) (listed : id ∈ again.list) (other : id ≠ r.id) :
    id ∈ s.list ∧ again.loadRecord id = s.loadRecord id := by
  have same := h.others (fileName id) fun e => other (fileName_injective e)
  obtain ⟨some_, present⟩ := Spool.mem_list.1 listed
  rw [OrderedMap.mem_keys, same, ← OrderedMap.mem_keys] at present
  exact ⟨Spool.mem_list.2 ⟨some_, present⟩, loadRecord_congr same⟩

theorem isOversized (h : Sole s r again) : again.isOversized = false := by
  refine List.any_eq_false.2 fun id listed => ?_
  by_cases here : id = r.id
  · rw [here, bursts, h.loadRecord]
    exact Bool.false_ne_true
  · obtain ⟨listed, same⟩ := h.of_ne listed here
    rw [bursts, same]
    exact List.any_eq_false.1 h.sound id listed

theorem linesOf_of_ne (h : Sole s r again) (listed : id ∈ again.list) (other : id ≠ r.id) :
    again.linesOf id = [] := by
  obtain ⟨listed, same⟩ := h.of_ne listed other
  rw [linesOf, Spool.record?, same]
  exact List.flatMap_eq_nil_iff.1 h.unread id listed

theorem held (h : Sole s r again) : again.held = r.lines := by
  obtain ⟨before, after, split⟩ := List.append_of_mem h.mem_list
  have distinct := again.nodup_list
  rw [split] at distinct
  have unread (ids : List String) (within : ids ⊆ again.list) (other : r.id ∉ ids) :
      ids.flatMap again.linesOf = [] :=
    List.flatMap_eq_nil_iff.2 fun id mem =>
      h.linesOf_of_ne (within mem) fun e => other (e ▸ mem)
  have here : again.linesOf r.id = r.lines := by
    rw [linesOf, h.record?]
    rfl
  have new := List.nodup_middle.1 distinct
  rw [List.nodup_cons, List.mem_append, not_or] at new
  rw [Spool.held, split, List.flatMap_append, List.flatMap_cons, here,
    unread before (by rw [split]; simp) new.1.1, unread after (by rw [split]; simp) new.1.2]
  simp

theorem within (h : Sole s r again) : again.emptied.folder.Within s.folder := by
  intro name e there
  rw [emptied, get?_without] at there
  split at there
  · cases there
  · rename_i stays
    refine h.others name (fun here => stays (here ▸ ?_)) ▸ there
    refine mem_map_fileName.2 (List.mem_filter.2 ⟨h.mem_list, ?_⟩)
    rw [holds, h.record?]
    rfl

end Sole

structure Over (base : Spool) (lines : List String) (s : Spool) : Prop where
  exact_ : s.Exact
  sound : s.isOversized = false
  held : s.held.map terminated = lines
  config : s.config = base.config
  within : s.emptied.folder.Within base.folder

theorem Over.hasRoom (h : Over base lines s) (room : base.HasRoom stamp lines)
    (right : base.Exact) : s.emptied.HasRoom stamp lines :=
  room.within ((s.config_without _).trans h.config) h.within right h.exact_.emptied

theorem over_emptied (right : s.Exact) (sound : s.isOversized = false) :
    Over s.emptied (s.held.map terminated) s :=
  ⟨right, sound, rfl, (s.config_without _).symm, .refl _⟩

end MetricRelay.Spool
