import MetricRelay.Proofs.Spool

/-!
The usage that a spool keeps is the size of the files in its folder. It stays so if no link can be
deleted whose target has a size, which nobody has counted.
-/
namespace MetricRelay

/-- What can be deleted under the name of a file of the spool has the size for which it counts. -/
def Folder.Honest (f : Folder) : Prop :=
  ∀ e ∈ f.entries, (Spool.idOf? e.1).isSome → e.2.found?.getD 0 = e.2.size

instance (f : Folder) : Decidable f.Honest :=
  inferInstanceAs (Decidable (∀ e ∈ f.entries, _ → _))

namespace Folder

variable {f : Folder}

theorem honest_iff :
    f.Honest ↔
      ∀ id, id ≠ "" → ∀ e, f.get? (Spool.fileName id) = some e → e.found?.getD 0 = e.size := by
  constructor
  · intro honest id some_ e there
    refine honest _ ((f.mem_entries_iff _ _).2 there) ?_
    rw [Spool.idOf?_fileName, if_neg some_]
    rfl
  · rintro all ⟨name, e⟩ mem named
    obtain ⟨id, named⟩ := Option.isSome_iff_exists.1 named
    obtain rfl := Spool.fileName_of_idOf? named
    refine all id ?_ e ((f.mem_entries_iff _ _).1 mem)
    rintro rfl
    rw [Spool.idOf?_fileName, if_pos rfl] at named
    cases named

theorem Plain.honest (plain : f.Plain) : f.Honest := by
  refine honest_iff.2 fun id _ e there => ?_
  rcases e with data | - | target
  · rfl
  · rfl
  · exact absurd there (plain.get? target)

theorem Honest.erase (h : f.Honest) (name : String) : Honest (f.erase name) := by
  refine honest_iff.2 fun id some_ e there => ?_
  rw [OrderedMap.get?_erase] at there
  split at there
  · cases there
  · exact honest_iff.1 h id some_ e there

theorem Honest.insert (h : f.Honest) (name : String) (data : Bytes) :
    Honest (f.insert name (.file data)) := by
  refine honest_iff.2 fun id some_ e there => ?_
  rw [OrderedMap.get?_insert] at there
  split at there
  · cases there
    rfl
  · exact honest_iff.1 h id some_ e there

end Folder

namespace Spool

variable {s s' : Spool} {id : String} {ids lines : List String} {stamp : Stamp}

structure Exact (s : Spool) : Prop where
  usage : s.usage = s.folder.usage
  honest : s.folder.Honest

theorem exact_mount {folder : Folder} (honest : folder.Honest) (config : SpoolConfig) :
    (mount config folder).Exact := ⟨rfl, honest⟩

theorem Exact.remove (h : s.Exact) (named : id = "" → fileName id ∉ s.folder.keys) :
    (s.remove id).Exact := by
  refine ⟨?_, h.honest.erase _⟩
  unfold Spool.remove sizeOf
  cases there : s.folder.get? (fileName id) with
  | none => simpa [Folder.erase_of_get?_eq_none there] using h.usage
  | some e =>
    have some_ : id ≠ "" := fun empty => named empty (OrderedMap.mem_keys.2 (there ▸ rfl))
    have erased := Folder.usage_erase there
    have right := h.usage
    have size := Folder.honest_iff.1 h.honest id some_ e there
    simp only [Option.bind_some]
    omega

theorem Exact.sizeOf_le (h : s.Exact) (some_ : id ≠ "") : s.sizeOf id ≤ s.usage := by
  unfold sizeOf
  cases there : s.folder.get? (fileName id) with
  | none => exact Nat.zero_le _
  | some e =>
    have erased := Folder.usage_erase there
    have right := h.usage
    have size := Folder.honest_iff.1 h.honest id some_ e there
    simp only [Option.bind_some]
    omega

theorem Exact.without (h : s.Exact) (some_ : ∀ id ∈ ids, id ≠ "") : (s.without ids).Exact := by
  induction ids generalizing s with
  | nil => exact h
  | cons id ids ih =>
    obtain ⟨first, others⟩ := List.forall_mem_cons.1 some_
    exact ih (h.remove fun empty => absurd empty first) others

theorem Exact.emptied (h : s.Exact) : s.emptied.Exact :=
  h.without fun _ mem => (mem_list.1 (List.mem_filter.1 mem).1).1

theorem Stores.usage_of_notMem (h : s.Stores stamp lines s')
    (new : fileName stamp.id ∉ s.folder.keys) :
    s'.folder.usage = s.folder.usage + s.room stamp lines := by
  rw [h.folder, Folder.usage_insert new]
  rfl

theorem Exact.stores (h : s.Exact) (stores : s.Stores stamp lines s')
    (new : fileName stamp.id ∉ s.folder.keys) : s'.Exact where
  usage := by rw [stores.usage, stores.usage_of_notMem new, h.usage]
  honest := stores.folder ▸ h.honest.insert _ _

end Spool

end MetricRelay
