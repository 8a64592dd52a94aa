import MetricRelay.Config.Basic
import MetricRelay.Proofs.Spool.Sole

/-!
How much a spool may hold under the limit that a user sets, in units of 2 ^ 20 bytes. In bytes the
limit is a number of 64 bits, and the program stops if it is none.
-/
namespace MetricRelay

namespace Folder

def ofSize (size : Nat) : Folder := OrderedMap.empty.insert "old" (.file (List.replicate size 0))

theorem usage_ofSize (size : Nat) : (ofSize size).usage = size := by
  rw [ofSize, usage_insert List.not_mem_nil, FolderEntry.size, List.length_replicate]
  exact Nat.zero_add size

theorem get?_ofSize (size : Nat) (name : String) : (ofSize size).get? name ≠ some .folder := by
  intro there
  rw [ofSize, OrderedMap.get?_insert] at there
  split at there <;> cases there

end Folder

theorem Spool.store_eq_ok_iff {s : Spool} {stamp : Stamp} {lines : List String} :
    (∃ id, (s.store stamp lines).1 = .ok (some id)) ↔ lines ≠ [] ∧ s.HasRoom stamp lines := by
  obtain ⟨none_, stored⟩ | ⟨some_, s', stored, stores⟩ | ⟨-, full, stored⟩ | ⟨-, -, taken, stored⟩ :=
    s.store_cases stamp lines <;> rw [stored]
  · simp [none_]
  · have size := stores.size
    rw [stores.usage, stores.config] at size
    exact iff_of_true ⟨stamp.id, rfl⟩ ⟨some_, size, stores.free⟩
  · exact iff_of_false (by simp) fun h => Nat.not_le.2 full h.2.size
  · exact iff_of_false (by simp) fun h => h.2.free taken

namespace Config

/-- The spool is in this folder, and this is its limit. -/
def limited (c : Config) (path : Path) (limit : Nat) : Config :=
  { c with spoolPath := some path, maxSpool := limit }

/-- The spool takes the lines into its folder, in which this is. -/
def Takes (c : Config) (folder : Folder) (stamp : Stamp) (lines : List String) : Prop :=
  ∃ config, c.spool = .ok (some config) ∧
    ∃ id, ((Spool.mount config folder).store stamp lines).1 = .ok (some id)

variable {c : Config} {path : Path} {limit a b : Nat} {folder : Folder} {stamp : Stamp}
  {lines : List String}

def bounded (path : Path) (limit : Nat) : SpoolConfig :=
  { SpoolConfig.default with path, maxUsage := limit * 2 ^ 20 }

theorem spool_limited (c : Config) (path : Path) (limit : Nat) :
    (c.limited path limit).spool =
      if limit < 2 ^ 44 then .ok (some (bounded path limit)) else .error .multiplyOverflow := by
  have small : limit * Nat.pow 2 20 < Nat.pow 2 64 ↔ limit < 2 ^ 44 := by
    simp only [Nat.pow_eq]
    omega
  unfold spool limited
  simp only [small]
  rfl

theorem takes_limited :
    (c.limited path limit).Takes folder stamp lines ↔
      limit < 2 ^ 44 ∧ lines ≠ [] ∧
        (Spool.mount (bounded path limit) folder).HasRoom stamp lines := by
  unfold Takes
  rw [spool_limited]
  split
  · rename_i small
    simp only [Except.ok.injEq, Option.some.injEq, exists_eq_left', Spool.store_eq_ok_iff, small,
      true_and]
  · rename_i large
    exact iff_of_false (fun ⟨_, e, _⟩ => by cases e) fun h => large h.1

theorem encode_bounded (path : Path) (limit : Nat) (r : SpoolRecord) :
    Spool.encode (bounded path limit) r = Gzip.compress r.encode := rfl

theorem length_encode_pos (path : Path) (limit : Nat) (r : SpoolRecord) :
    0 < (Spool.encode (bounded path limit) r).length := by
  rw [encode_bounded, Gzip.compress, Gzip.header]
  exact Nat.succ_pos _

theorem length_encode_le (path : Path) (limit : Nat) :
    (Spool.encode (bounded path limit) ⟨(Stamp.mk 0 0 "").id, 0, [""]⟩).length ≤ 2 ^ 20 := by
  rw [encode_bounded]
  decide +kernel

theorem takes_ofSize_iff (small : a < 2 ^ 44) (b : Nat) :
    (c.limited path a).Takes (.ofSize (b * 2 ^ 20)) ⟨0, 0, ""⟩ [""] ↔ b < a := by
  have positive := length_encode_pos path a ⟨(Stamp.mk 0 0 "").id, 0, [""]⟩
  have short := length_encode_le path a
  have usage := Folder.usage_ofSize (b * 2 ^ 20)
  rw [takes_limited]
  constructor
  · rintro ⟨-, -, size, -⟩
    simp only [Spool.mount, usage] at size
    simp only [bounded] at size positive
    omega
  · intro more
    refine ⟨small, by simp, ?_, Folder.get?_ofSize _ _⟩
    simp only [Spool.mount, usage]
    simp only [bounded] at short ⊢
    omega

/-- No check looks at the limit. It is what is set, in bytes, if that is a number of 64 bits, and
else the program stops. What the spool takes under one limit it takes under another one exactly if
that is no less and is such a number, unless it takes nothing under the first. -/
theorem takes_limited_iff (c : Config) (path : Path) (a b : Nat) :
    (∀ d, (c.limited path a).validate d = (c.limited path b).validate d) ∧
      (c.limited path a).spool =
        (if a < 2 ^ 44 then
          .ok (some { SpoolConfig.default with path, maxUsage := a * 2 ^ 20 })
        else .error .multiplyOverflow) ∧
      ((∀ folder stamp lines, (c.limited path a).Takes folder stamp lines →
          (c.limited path b).Takes folder stamp lines) ↔
        a = 0 ∨ 2 ^ 44 ≤ a ∨ (a ≤ b ∧ b < 2 ^ 44)) := by
  refine ⟨fun d => rfl, spool_limited c path a, ?_, ?_⟩
  · intro mono
    by_contra! ⟨some_, small, less⟩
    have some_ : 0 < a := Nat.pos_of_ne_zero some_
    -- What tells them apart is a folder that is full under `b`, or any if `b` is out of range.
    by_cases within : b < 2 ^ 44
    · have accepted := mono _ _ _ ((takes_ofSize_iff small b).2 (by omega))
      obtain ⟨-, -, room⟩ := takes_limited.1 accepted
      have size := room.size
      have positive := length_encode_pos path b ⟨(Stamp.mk 0 0 "").id, 0, [""]⟩
      simp only [Spool.mount, Folder.usage_ofSize] at size
      simp only [bounded] at size positive
      omega
    · have accepted := mono _ _ _ ((takes_ofSize_iff small 0).2 some_)
      exact within (takes_limited.1 accepted).1
  · intro h folder stamp lines accepted
    obtain ⟨small, some_, room⟩ := takes_limited.1 accepted
    obtain rfl | large | ⟨le, small'⟩ := h
    · have size := room.size
      have positive := length_encode_pos path 0 ⟨stamp.id, stamp.time, lines⟩
      simp only [Spool.mount] at size
      simp only [bounded] at size positive
      omega
    · exact absurd small (Nat.not_lt.2 large)
    · have size := room.size
      have free : folder.get? (Spool.fileName stamp.id) ≠ some .folder := room.free
      simp only [Spool.mount, encode_bounded] at size
      refine takes_limited.2 ⟨small', some_, ?_, free⟩
      simp only [Spool.mount, encode_bounded]
      exact Nat.le_trans size (Nat.mul_le_mul_right _ le)

/-- Under a limit of one unit the spool takes a line that it does not take under one of `2 ^ 44`. -/
theorem not_takes_of_le :
    ¬∀ (c : Config) (d : Disk) (path : Path) (a b : Nat) (folder : Folder) (stamp : Stamp)
      (lines : List String),
      (c.limited path a).validate d = .ok () → (c.limited path b).validate d = .ok () →
      a ≤ b → b < 2 ^ 64 → (c.limited path a).Takes folder stamp lines →
        (c.limited path b).Takes folder stamp lines := by
  intro mono
  have taken := mono .default (.build [] [] []) (Text.bytes "spool") 1 (2 ^ 44) (.ofSize 0)
    ⟨0, 0, ""⟩ [""] (by decide +kernel) (by decide +kernel) (by omega) (by omega)
    ((takes_ofSize_iff (by omega) 0).2 (by omega))
  exact absurd (takes_limited.1 taken).1 (by omega)

end Config

end MetricRelay
