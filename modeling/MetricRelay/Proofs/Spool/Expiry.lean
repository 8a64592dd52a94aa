import MetricRelay.Proofs.Spool.Restore

namespace MetricRelay.Spool

variable {s s' : Spool} {id : String} {ids : List String} {now : Nat} {r : SpoolRecord}

theorem isExpired_eq (s : Spool) (now : Nat) :
    s.isExpired now = fun r => decide (r.storedAt + s.config.retention < now) := by
  funext r
  rw [isExpired, Bool.eq_iff_iff, decide_eq_true_iff, decide_eq_true_iff]
  omega

theorem cleanupFrom_cons_of_expired (h : s.loadRecord id = .ok r)
    (expired : s.isExpired now r = true) :
    s.cleanupFrom now (id :: ids) =
      (((s.remove id).cleanupFrom now ids).1.map (· + 1),
        ((s.remove id).cleanupFrom now ids).2) := by
  have deleted : s.delete id = (.ok (), s.remove id) :=
    delete_of_record? (r := r) (by rw [record?, h]; rfl)
  simp only [cleanupFrom, h, expired, if_true, deleted]

theorem cleanupFrom_cons_of_kept (h : s.loadRecord id = .ok r)
    (kept : s.isExpired now r = false) :
    s.cleanupFrom now (id :: ids) = s.cleanupFrom now ids := by
  simp only [cleanupFrom, h, kept, Bool.false_eq_true, if_false]

theorem cleanupFrom_cons_of_error {e : SpoolError} (h : s.loadRecord id = .error e) :
    s.cleanupFrom now (id :: ids) = s.cleanupFrom now ids := by
  simp only [cleanupFrom, h]

theorem cleanupFrom_cons_of_panicked {p : Panic} (h : s.loadRecord id = .panicked p) :
    s.cleanupFrom now (id :: ids) = (.panicked p, s) := by
  simp only [cleanupFrom, h]

def expires (s : Spool) (now : Nat) (id : String) : Bool := (s.record? id).any (s.isExpired now)

theorem cleanupFrom_eq (distinct : ids.Nodup) (config : s'.config = s.config)
    (same : ∀ id ∈ ids, s'.loadRecord id = s.loadRecord id) :
    s'.cleanupFrom now ids =
      (if ids.any s.bursts then .panicked .capacityOverflow
        else .ok (ids.filter (s.expires now)).length,
        s'.without ((ids.takeWhile fun id => !s.bursts id).filter (s.expires now))) := by
  induction ids generalizing s' with
  | nil => rfl
  | cons id ids ih =>
    obtain ⟨new, distinct⟩ := List.nodup_cons.1 distinct
    obtain ⟨first, others⟩ := List.forall_mem_cons.1 same
    obtain ⟨r, loaded, record, whole⟩ | ⟨e, loaded, record, whole⟩ | ⟨loaded, record, burst⟩ :=
      s.load_cases id
    · have clock : s'.isExpired now r = s.isExpired now r := by
        rw [isExpired_eq, isExpired_eq, config]
      have expires_eq : s.expires now id = s.isExpired now r := by
        rw [expires, record, Option.any_some]
      cases expired : s.isExpired now r with
      | true =>
        have config : (s'.remove id).config = s.config := config
        rw [cleanupFrom_cons_of_expired (first.trans loaded) (clock.trans expired),
          ih distinct config (loadRecord_remove others new)]
        simp only [List.any_cons, whole, Bool.false_or, List.takeWhile_cons, Bool.not_false,
          if_true, List.filter_cons, expires_eq, expired, List.length_cons, without,
          List.foldl_cons]
        split <;> rfl
      | false =>
        rw [cleanupFrom_cons_of_kept (first.trans loaded) (clock.trans expired),
          ih distinct config others]
        simp [whole, expires_eq, expired]
    · rw [cleanupFrom_cons_of_error (first.trans loaded), ih distinct config others]
      simp [whole, expires, record]
    · rw [cleanupFrom_cons_of_panicked (first.trans loaded)]
      simp [burst, without]

def outdated (s : Spool) (now : Nat) : List String :=
  (s.list.takeWhile fun id => !s.bursts id).filter (s.expires now)

theorem cleanup_eq (s : Spool) (now : Nat) :
    s.cleanup now =
      (if s.isOversized then .panicked .capacityOverflow
        else .ok (s.list.filter (s.expires now)).length, s.without (s.outdated now)) :=
  cleanupFrom_eq s.nodup_list rfl fun _ _ => rfl

theorem outdated_eq (sound : s.isOversized = false) :
    s.outdated now = s.list.filter (s.expires now) := by
  rw [outdated, List.takeWhile_eq_self_iff.2 fun id mem => ?_]
  simpa using List.any_eq_false.1 sound id mem

theorem outdated_eq_map (s : Spool) (now : Nat) :
    s.outdated now =
      (((s.list.takeWhile fun id => !s.bursts id).filterMap s.file?).filter fun f =>
        f.record.storedAt + s.config.retention < now).map (·.id) := by
  have all := s.filter_record? (s.isExpired now) (s.list.takeWhile fun id => !s.bursts id)
  rw [isExpired_eq] at all
  rw [outdated, ← all, ← isExpired_eq]
  rfl

theorem held_without_outdated (sound : s.isOversized = false) :
    (s.without (s.outdated now)).held =
      (s.files.filter fun f => now ≤ f.record.storedAt + s.config.retention).flatMap
        (·.record.lines) := by
  have still : s.list.filter (· ∉ s.outdated now) = s.list.filter (!s.expires now ·) :=
    List.filter_congr fun id mem => by simp [outdated_eq sound, mem]
  have fresh : ∀ f, s.file? f.id = some f →
      (!s.expires now f.id) = decide (now ≤ f.record.storedAt + s.config.retention) := by
    intro f hf
    rw [expires, record?_eq, hf, Option.map_some, Option.any_some, isExpired_eq, ← decide_not]
    exact decide_eq_decide.2 Nat.not_lt
  rw [held_without, still, flatMap_linesOf, filterMap_file?_filter fresh]
  rfl

/-- A clean-up of a spool, whatever is in its folder, deletes the files that can be read and have
been there for longer than they are to be kept, as of now, and tells how many they were. Nothing else
has changed, the usage is less by their sizes, and the lines of the other files that can be read can
be taken out, in the order of the bytes of their ids. But if the program stops at a file, only files
that come before it are deleted. -/
theorem cleanup_mount (config : SpoolConfig) (folder : Folder) (now : Nat) :
    let s := mount config folder
    ∃ files, folder.Contents files ∧
      let expired := files.filter fun f => f.record.storedAt + config.retention < now
      let kept := files.filter fun f => now ≤ f.record.storedAt + config.retention
      ∃ gone s', s.Loses gone s' ∧
        (((∀ id, ¬folder.Bursts id) ∧ gone = expired ∧ s.cleanup now = (.ok gone.length, s') ∧
            ∃ s'', s'.restore = (.ok (kept.flatMap (·.record.lines)), s'')) ∨
          ∃ id, folder.BurstsFirst id ∧
            gone = expired.filter (fun f => Text.bytes f.id < Text.bytes id) ∧
            s.cleanup now = (.panicked .capacityOverflow, s')) := by
  intro s
  refine ⟨s.files, s.contents_files, ?_⟩
  have cleaned := s.cleanup_eq now
  have gone := s.outdated_eq_map now
  obtain ⟨whole, sound, all⟩ | ⟨id, first, oversized, before⟩ := s.looked_at
  · rw [sound, if_neg Bool.false_ne_true] at cleaned
    have count := congrArg List.length ((outdated_eq sound).symm.trans gone)
    rw [all, List.length_map] at count
    rw [all] at gone
    refine ⟨_, s.without (s.outdated now), gone ▸ loses_without rfl List.filter_sublist,
      .inl ⟨whole, rfl, cleaned.trans (by rw [count]; rfl), ?_⟩⟩
    have restored := restore_ok (isOversized_without sound (s.outdated now))
    rw [held_without_outdated sound] at restored
    exact ⟨_, restored⟩
  · rw [oversized, if_pos rfl] at cleaned
    rw [before, List.filter_comm] at gone
    rw [gone] at cleaned
    refine ⟨_, _, loses_without rfl ?_, .inr ⟨id, first, rfl, cleaned⟩⟩
    exact List.filter_sublist.trans List.filter_sublist

def aged : Folder :=
  (mixed.insert "e.spool" (.file [1, 101, 251, 132, 3, 1, 2, 101, 10])).insert "f.spool"
    (.file [1, 102, 251, 208, 7, 1, 2, 102, 10])

theorem cleanup_mount_aged :
    let s := mount { SpoolConfig.default with retention := 100 } aged
    ∃ s' s'', s.cleanup 1000 = (.ok 3, s') ∧ s'.usage + (31 + 8 + 7) = s.usage ∧
      s'.folder.keys =
        ["t.spool", "g.spool", "o.spool", "n.txt", "d.spool", ".spool", "e.spool", "f.spool"] ∧
      s'.restore = (.ok ["e\n", "f\n"], s'') := by
  intro s
  have listed : s.list = ["a", "c", "d", "e", "f", "g", "l", "o", "t"] :=
    list_eq (by decide +kernel) (by decide +kernel)
  have seen : (s.cleanup 1000).1 = .ok 3 := by
    rw [cleanup, listed]
    decide +kernel
  obtain ⟨files, -, gone, s', -, ⟨-, -, cleaned, s'', restored⟩ | ⟨id, -, -, cleaned⟩⟩ :=
    cleanup_mount { SpoolConfig.default with retention := 100 } aged 1000
  · rw [cleaned] at seen
    have left : (s.cleanupFrom 1000 ["a", "c", "d", "e", "f", "g", "l", "o", "t"]).2 = s' := by
      rw [← listed]
      exact congrArg Prod.snd cleaned
    have still : s'.list = ["d", "e", "f", "g", "o", "t"] := by
      rw [← left]
      exact list_eq (by decide +kernel) (by decide +kernel)
    have lines : s'.restore.1 = .ok ["e\n", "f\n"] := by
      rw [restore, still, ← left]
      decide +kernel
    refine ⟨s', s'', cleaned.trans (Prod.ext seen rfl), ?_, ?_, restored.trans (Prod.ext ?_ rfl)⟩
    · rw [← left]
      decide +kernel
    · rw [← left]
      decide +kernel
    · rwa [restored] at lines
  · rw [cleaned] at seen
    cases seen

theorem not_cleanup_ok_of_plain :
    ¬∀ (config : SpoolConfig) (folder : Folder) (now : Nat), folder.Plain →
      ∃ n s', (mount config folder).cleanup now = (.ok n, s') := by
  intro ok
  obtain ⟨n, s', cleaned⟩ := ok .default bursting 0 (by decide)
  have seen : ((mount .default bursting).cleanup 0).1 = .panicked .capacityOverflow := by
    rw [cleanup, list_bursting]
    decide +kernel
  rw [cleaned] at seen
  cases seen

end MetricRelay.Spool
