import Mathlib.Algebra.GroupWithZero.Nat
import Mathlib.Algebra.Order.BigOperators.Group.List
import Mathlib.Algebra.Order.Group.Nat
import Mathlib.Data.List.Perm.Subperm
import MetricRelay.Proofs.OrderedMap
import MetricRelay.Spool.Folder

namespace MetricRelay.Folder

variable {f g h : Folder} {name : String} {e : FolderEntry}

theorem usage_eq_sum (f : Folder) : f.usage = (f.entries.map (·.2.size)).sum := by
  rw [usage, List.sum_eq_foldl_nat, List.foldl_map]

theorem usage_insert (new : name ∉ f.keys) (e : FolderEntry) :
    usage (f.insert name e) = f.usage + e.size := by
  rw [usage_eq_sum, usage_eq_sum, OrderedMap.entries_insert, OrderedMap.put_of_notMem new,
    List.map_append, List.sum_append]
  rfl

theorem usage_erase (there : f.get? name = some e) : usage (f.erase name) + e.size = f.usage := by
  rw [usage_eq_sum, usage_eq_sum, ((OrderedMap.perm_cons_erase there).map _).sum_nat, List.map_cons,
    List.sum_cons, Nat.add_comm]

theorem erase_of_get?_eq_none (none_ : f.get? name = none) : f.erase name = f := by
  have absent : name ∉ f.keys := fun there => by
    rw [OrderedMap.mem_keys, none_] at there
    cases there
  have same : f.entries.filter (fun e => e.1 ≠ name) = f.entries :=
    List.filter_eq_self.2 fun e he => decide_eq_true fun here => absent (here ▸ List.mem_map_of_mem he)
  obtain ⟨entries, nodup⟩ := f
  simp only [OrderedMap.erase, same]

def Within (f g : Folder) : Prop := ∀ name e, f.get? name = some e → g.get? name = some e

theorem Within.refl (f : Folder) : f.Within f := fun _ _ => id

theorem Within.trans (fg : f.Within g) (gh : g.Within h) : f.Within h :=
  fun name e there => gh name e (fg name e there)

theorem Within.usage_le (within : f.Within g) : f.usage ≤ g.usage := by
  have inside : f.entries ⊆ g.entries := fun e he =>
    (g.mem_entries_iff e.1 e.2).2 (within e.1 e.2 ((f.mem_entries_iff e.1 e.2).1 he))
  obtain ⟨l, perm, sub⟩ := List.subperm_of_subset (List.Nodup.of_map _ f.nodup) inside
  rw [usage_eq_sum, usage_eq_sum, ← (perm.map _).sum_nat]
  exact (sub.map _).sum_le_sum fun _ _ => Nat.zero_le _

def Plain (f : Folder) : Prop := ∀ e ∈ f.entries, ∀ target, e.2 ≠ .link target

instance (f : Folder) : Decidable f.Plain :=
  decidable_of_iff (∀ e ∈ f.entries, !e.2 matches .link _) <| forall₂_congr fun e _ => by
    cases e.2 <;> simp

theorem plain_iff : f.Plain ↔ ∀ name target, f.get? name ≠ some (.link target) := by
  constructor
  · exact fun plain name target there => plain _ ((f.mem_entries_iff _ _).2 there) target rfl
  · rintro none_ ⟨name, e⟩ mem target rfl
    exact none_ name target ((f.mem_entries_iff _ _).1 mem)

theorem Plain.get? (plain : f.Plain) (target : LinkTarget) : f.get? name ≠ some (.link target) :=
  plain_iff.1 plain name target

theorem Plain.within (plain : g.Plain) (within : f.Within g) : f.Plain :=
  plain_iff.2 fun name target there => plain.get? target (within name _ there)

theorem Plain.insert (plain : f.Plain) (name : String) (data : Bytes) :
    Plain (f.insert name (.file data)) := by
  refine plain_iff.2 fun name' target there => ?_
  rw [OrderedMap.get?_insert] at there
  split at there
  · cases there
  · exact plain.get? target there

end MetricRelay.Folder
