import MetricRelay.Proofs.Relay.Agreement
import MetricRelay.Proofs.Relay.Handed
import MetricRelay.Proofs.Spool.Deposits

namespace MetricRelay

theorem Spool.Alike.refl (s : Spool) : s.Alike s := ⟨rfl, fun _ => rfl⟩

theorem Spool.Alike.trans {s s' s'' : Spool} (h : s.Alike s') (h' : s'.Alike s'') : s.Alike s'' :=
  ⟨h'.config.trans h.config, fun name => (h'.same name).trans (h.same name)⟩

namespace Relay

abbrev Alike : Option Spool → Option Spool → Prop := Option.Rel Spool.Alike

theorem Alike.refl (spool : Option Spool) : Alike spool spool := by
  cases spool with
  | none => exact .none
  | some s => exact .some (.refl s)

theorem Alike.trans {spool spool' spool'' : Option Spool} (h : Alike spool spool')
    (h' : Alike spool' spool'') : Alike spool spool'' := by
  cases h with
  | none => exact h'
  | some h =>
    cases h' with
    | some h' => exact .some (h.trans h')

/-- What becomes of the lines that are left, of which so many are put away and so many are lost, and
of the spool. -/
inductive Kept (stamp : Stamp) (left : List String) (rest : Option Spool) :
    Nat → Nat → Option Spool → Prop
  | nothing {again : Option Spool} (none_ : left = []) (same : Alike rest again) :
      Kept stamp left rest 0 0 again
  | stored {sp again : Spool} (some_ : left ≠ []) (rest_eq : rest = some sp)
      (config : again.config = sp.config) (file : again.Files ⟨stamp.id, stamp.time, left⟩)
      (others : ∀ name, name ≠ Spool.fileName stamp.id →
        again.folder.get? name = sp.folder.get? name) :
      Kept stamp left rest left.length 0 (some again)
  | lost {again : Option Spool} (some_ : left ≠ [])
      (failed : rest = none ∨ ∃ sp cause, rest = some sp ∧ (sp.store stamp left).1 = .error cause)
      (same : Alike rest again) : Kept stamp left rest 0 left.length again

variable {stamp : Stamp} {left : List String} {rest again again' : Option Spool}
  {spooled lost : Nat}

theorem Kept.sum (h : Kept stamp left rest spooled lost again) : spooled + lost = left.length := by
  cases h with
  | nothing none_ => rw [none_]; rfl
  | stored => rfl
  | lost => exact Nat.zero_add _

theorem Kept.alike (h : Kept stamp left rest spooled lost again) (same : Alike again again') :
    Kept stamp left rest spooled lost again' := by
  cases h with
  | nothing none_ same' => exact .nothing none_ (same'.trans same)
  | stored some_ rest_eq config file others =>
    cases same with
    | some same =>
      exact .stored some_ rest_eq (same.config.trans config) (same.files file)
        fun name other => (same.same name).trans (others name other)
  | lost some_ failed same' => exact .lost some_ failed (same'.trans same)

inductive Stored (stamp : Stamp) (rest : Option Spool) : List String → Option Spool → Prop
  | nothing {again : Option Spool} (same : Alike rest again) : Stored stamp rest [] again
  | file {lines : List String} {sp again : Spool} (some_ : lines ≠ []) (rest_eq : rest = some sp)
      (config : again.config = sp.config) (file : again.Files ⟨stamp.id, stamp.time, lines⟩)
      (others : ∀ name, name ≠ Spool.fileName stamp.id →
        again.folder.get? name = sp.folder.get? name) :
      Stored stamp rest lines (some again)

theorem Kept.file (h : Kept stamp left rest spooled lost again) :
    ∃ file, Stored stamp rest file again ∧ spooled = file.length ∧
      (lost = 0 → file = left) ∧ (lost ≠ 0 → file = []) := by
  cases h with
  | nothing none_ same => exact ⟨[], .nothing same, rfl, fun _ => none_.symm, fun _ => rfl⟩
  | stored some_ rest_eq config file others =>
    exact ⟨left, .file some_ rest_eq config file others, rfl, fun _ => rfl, absurd rfl⟩
  | lost some_ failed same =>
    refine ⟨[], .nothing same, rfl, fun none_ => ?_, fun _ => rfl⟩
    exact (List.length_eq_zero_iff.1 none_).symm

theorem kept_keep (stamp : Stamp) (left : List String) (rest : Option Spool) {s : Summary}
    (spooled : s.spooled = 0) (lost : s.lost = 0) :
    Kept stamp left rest (keep stamp left rest s).1.spooled (keep stamp left rest s).1.lost
      (keep stamp left rest s).2 := by
  unfold keep
  split
  · rename_i empty
    rw [spooled, lost]
    exact .nothing (List.isEmpty_iff.1 empty) (.refl rest)
  · rename_i some_
    have some_ : left ≠ [] := by simpa using some_
    split
    · dsimp only
      rw [spooled]
      exact .lost some_ (.inl rfl) (.refl none)
    · rename_i sp
      obtain ⟨none_, -⟩ | ⟨-, sp', stored, stores⟩ | ⟨-, -, failed⟩ | ⟨-, -, -, failed⟩ :=
        sp.store_cases stamp left
      · exact absurd none_ some_
      · rw [stored]
        dsimp only
        rw [lost]
        refine .stored some_ rfl stores.config stores.files fun name other => ?_
        rw [stores.folder, OrderedMap.get?_insert, if_neg other]
      all_goals
        rw [failed]
        dsimp only
        rw [spooled]
        exact .lost some_ (.inr ⟨sp, _, rfl, congrArg Prod.fst failed⟩) (.refl _)

section

variable {ν σ : Type} [Network ν] [Http.Server σ] {c : Config} {w : World ν σ}
  {mounted : Option Mounted}

theorem mount_run_posting (moves : List Move) (stamp : Stamp) (input : List (Arrival (Tcp ν)))
    {p : Posting σ} (viaHttp : c.viaHttp = true) (mounts : mount c w.disk = .ok mounted)
    (begins : Posting.new c w.server = .ok p) :
    ∃ again, mount c (run c moves stamp input w).2.disk = .ok again ∧
      Alike (relay c.batchSize stamp input p (mounted.map (·.spool))).spool
        (again.map (·.spool)) := by
  obtain ⟨again, remounts, alike⟩ := mount_unmount mounts
    (follows_relay c.batchSize stamp input p (mounted.map (·.spool)))
  refine ⟨again, ?_, alike⟩
  rw [run_server moves stamp input viaHttp mounts, begins]
  exact remounts _

theorem mount_run_plain {moves : List Move} (stamp : Stamp) (input : List (Arrival (Tcp ν)))
    {p : Plain (Tcp ν)} {link : Tcp ν} (viaHttp : c.viaHttp = false)
    (mounts : mount c w.disk = .ok mounted)
    (connects : Plain.connect c moves (Tcp.new c.tcp w.network) = (.ok p, link)) :
    ∃ again, mount c (run c moves stamp input w).2.disk = .ok again ∧
      Alike (relay c.batchSize stamp input p (mounted.map (·.spool))).spool
        (again.map (·.spool)) := by
  obtain ⟨again, remounts, alike⟩ := mount_unmount mounts
    (follows_relay c.batchSize stamp input p (mounted.map (·.spool)))
  refine ⟨again, ?_, alike⟩
  rw [run_link moves stamp input viaHttp mounts, connects]
  exact remounts _

end

end Relay

end MetricRelay
