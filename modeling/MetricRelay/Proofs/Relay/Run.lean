import Mathlib.Data.List.Perm.Subperm
import MetricRelay.Http.Scripted
import MetricRelay.Proofs.Relay.Plain
import MetricRelay.Proofs.Relay.Posting
import MetricRelay.Proofs.Relay.Way
import MetricRelay.Transport.Peer

/-!
What a run of the program leaves behind: which lines are on the disk again, which were delivered,
and which are neither.
-/
namespace MetricRelay.Relay

open Effect

variable {ν : Type} {c : Config} {stamp : Stamp} {input : List (Arrival (Tcp ν))}

def readable (c : Config) (d : Disk) : List String :=
  match mount c d with
  | .ok mounted => found (mounted.map (·.spool))
  | _ => []

theorem mount_some {config : SpoolConfig} (h : c.spool = .ok (some config)) (d : Disk) :
    mount c d = .ofExcept ((Mounted.new config d).map some) := by
  unfold mount
  rw [h]

theorem mount_none (h : c.spool = .ok none) (d : Disk) : mount c d = .ok none := by
  unfold mount
  rw [h]

theorem mount_ok {d : Disk} {mounted : Option Mounted} (h : mount c d = .ok mounted) :
    (c.spool = .ok none ∧ mounted = none) ∨
      ∃ config m, c.spool = .ok (some config) ∧ Mounted.new config d = .ok m ∧
        mounted = some m := by
  rcases hc : c.spool with p | - | config
  · rw [mount, hc] at h
    cases h
  · cases (mount_none hc d).symm.trans h
    exact .inl ⟨rfl, rfl⟩
  · rw [mount_some hc] at h
    cases hm : Mounted.new config d with
    | error e =>
      rw [hm] at h
      cases h
    | ok m =>
      rw [hm] at h
      cases h
      exact .inr ⟨config, m, rfl, hm, rfl⟩

theorem mount_unmount {d : Disk} {mounted : Option Mounted} {spool : Option Spool}
    (h : mount c d = .ok mounted) (follows : Follows (mounted.map (·.spool)) spool) :
    ∃ again, (∀ d', mount c (unmount d' mounted spool) = .ok again) ∧
      Option.Rel Spool.Alike spool (again.map (·.spool)) := by
  obtain ⟨hc, rfl⟩ | ⟨config, m, hc, hm, rfl⟩ := mount_ok h
  · cases follows
    exact ⟨none, fun _ => mount_none hc _, .none⟩
  · cases follows with
    | some follows =>
      obtain ⟨again, mounted, alike⟩ := Mounted.new_disk hm follows
      refine ⟨some again, fun _ => ?_, .some alike⟩
      rw [mount_some hc, unmount, mounted]
      rfl

theorem readable_unmount {d d' : Disk} {mounted : Option Mounted} {spool : Option Spool}
    (h : mount c d = .ok mounted) (follows : Follows (mounted.map (·.spool)) spool) :
    readable c (unmount d' mounted spool) = found spool := by
  obtain ⟨again, remounted, alike⟩ := mount_unmount h follows
  rw [readable, remounted]
  dsimp only
  generalize again.map (·.spool) = spool' at alike
  cases alike with
  | none => rfl
  | some alike => exact Spool.held_congr alike.same

inductive Ran (c : Config) (stamp : Stamp) (input : List (Arrival (Tcp ν))) (d : Disk) :
    Result Error Summary → Disk → Account → Prop
  | unmounted (e : SpoolError) (h : mount c d = .error e) :
      Ran c stamp input d (.error (.spool e)) d .empty
  | panicked (p : Panic) (h : mount c d = .panicked p) :
      Ran c stamp input d (.panicked p) d .empty
  | idle {mounted : Option Mounted} (h : mount c d = .ok mounted) {cause : Error}
      (early : ∀ fault, cause ≠ .input fault) :
      Ran c stamp input d (.error cause) (unmount d mounted (mounted.map (·.spool))) .empty
  | relayed {mounted : Option Mounted} (h : mount c d = .ok mounted) {κ : Type}
      [Carrier (Tcp ν) κ] [Audit κ] [Accountable (Tcp ν) κ] {k : κ} (books : Audit.Right [] k)
      (going : Audit.Going k) (d' : Disk) :
      Ran c stamp input d (relay c.batchSize stamp input k (mounted.map (·.spool))).result
        (unmount d' mounted (relay c.batchSize stamp input k (mounted.map (·.spool))).spool)
        (.of c.batchSize stamp input k (mounted.map (·.spool)))

theorem Ran.error {d d' : Disk} {result : Result Error Summary} {a : Account} {cause : Error}
    (ran : Ran c stamp input d result d' a) (failed : result = .error cause) :
    ((readable c d ++ a.read).map terminated).Perm
        (a.delivered ++ (readable c d').map terminated ++ (a.held ++ a.waived)) ∧
      ((∀ fault, cause ≠ .input fault) → a.held ++ a.waived = []) := by
  cases ran with
  | unmounted e h => exact ⟨by simp [Account.empty], fun _ => rfl⟩
  | panicked p h => cases failed
  | idle h early =>
    rw [readable_unmount h (.refl _), readable, h]
    exact ⟨by simp [Account.empty], fun _ => rfl⟩
  | relayed h books going d' =>
    obtain ⟨⟨fault, rfl⟩, none_, perm⟩ := relay_error books going failed
    rw [readable_unmount h (follows_relay ..), none_, readable, h]
    exact ⟨by simpa using perm, fun other => absurd rfl (other fault)⟩

theorem Ran.ok {d d' : Disk} {result : Result Error Summary} {a : Account} {summary : Summary}
    (ran : Ran c stamp input d result d' a) (ok : result = .ok summary) :
    (summary.read = a.read.length ∧ summary.restored = (readable c d).length ∧
      summary.delivered = a.delivered.length) ∧
      ∃ kept, ((readable c d ++ a.read).map terminated).Perm (a.delivered ++ (kept ++ a.waived)) ∧
        summary.spooled + summary.lost = kept.length ∧
        (summary.lost = 0 → kept = [] ∨
          ∃ m, mount c d' = .ok (some m) ∧ m.spool.Files ⟨stamp.id, stamp.time, kept⟩) := by
  cases ran with
  | unmounted e h => cases ok
  | panicked p h => cases ok
  | idle h early => cases ok
  | @relayed mounted h κ _ _ _ k books going d' =>
    obtain ⟨restored, read, delivered, kept, perm, left, stored⟩ := relay_ok books going ok
    rw [readable, h]
    refine ⟨⟨read, restored, delivered⟩, kept, perm, left, fun none_ => ?_⟩
    obtain nothing | ⟨spool, spool_eq, files⟩ := stored none_
    · exact .inl nothing
    · have follows := follows_relay c.batchSize stamp input k (mounted.map (·.spool))
      rw [spool_eq] at follows
      obtain ⟨again, mounted, alike⟩ := mount_unmount h follows
      obtain ⟨m, rfl⟩ : ∃ m, again = some m := by
        cases again with
        | none => cases alike
        | some m => exact ⟨m, rfl⟩
      cases alike with
      | some alike => exact .inr ⟨m, spool_eq ▸ mounted d', alike.files files⟩

theorem subperm_iff_of_perm {lines safe gone : List String} (h : lines.Perm (safe ++ gone)) :
    lines.Subperm safe ↔ gone = [] := by
  constructor
  · intro within
    have := within.length_le
    rw [h.length_eq, List.length_append] at this
    exact List.length_eq_zero_iff.1 (by omega)
  · rintro rfl
    rw [List.append_nil] at h
    exact h.subperm

variable {σ : Type} [Network ν] [Http.Server σ] {moves : List Move} {w : World ν σ}

def account (c : Config) (moves : List Move) (stamp : Stamp) (input : List (Arrival (Tcp ν)))
    (w : World ν σ) : Account :=
  match mount c w.disk with
  | .ok mounted =>
    let spool := mounted.map (·.spool)
    if c.viaHttp then
      match Posting.new c w.server with
      | .error _ => .empty
      | .ok p => .of c.batchSize stamp input p spool
    else
      match Plain.connect c moves (Tcp.new c.tcp w.network) with
      | (.error _, _) => .empty
      | (.ok p, _) => .of c.batchSize stamp input p spool
  | _ => .empty

theorem ran_run (c : Config) (moves : List Move) (stamp : Stamp) (input : List (Arrival (Tcp ν)))
    (w : World ν σ) :
    Ran c stamp input w.disk (run c moves stamp input w).1.result (run c moves stamp input w).2.disk
      (account c moves stamp input w) := by
  unfold account
  cases h : mount c w.disk with
  | error e =>
    rw [run_of_error moves stamp input h]
    exact .unmounted e h
  | panicked p =>
    rw [run_of_panicked moves stamp input h]
    exact .panicked p h
  | ok mounted =>
    dsimp only
    by_cases http : c.viaHttp = true
    · rw [run_server moves stamp input http h, if_pos http]
      cases hp : Posting.new c w.server with
      | error e => exact .idle h (by simp)
      | ok p => exact .relayed h (Posting.right_new hp) trivial _
    · rw [run_link moves stamp input (by simpa using http) h, if_neg http]
      rcases hp : Plain.connect c moves (Tcp.new c.tcp w.network) with ⟨e | p, link⟩
      · exact .idle h (by simp)
      · obtain ⟨books, going⟩ := right_connect hp
        exact .relayed h books going _

/-- When a run has failed, each line that could be read in the spool before and each line that was
read since has been delivered, or can be read in the spool now, or was in memory only. So none is
lost exactly if nothing was in memory and nothing had been given up; and that is so unless the input
has failed. -/
theorem safe_iff_of_run_error {cause : Error}
    (failed : (run c moves stamp input w).1.result = .error cause) :
    let a := account c moves stamp input w
    let lines := (readable c w.disk ++ a.read).map terminated
    let safe := a.delivered ++ (readable c (run c moves stamp input w).2.disk).map terminated
    lines.Perm (safe ++ (a.held ++ a.waived)) ∧
      (lines.Subperm safe ↔ a.held ++ a.waived = []) ∧
      ((∀ fault, cause ≠ .input fault) → a.held ++ a.waived = []) := by
  obtain ⟨perm, early⟩ := (ran_run c moves stamp input w).error failed
  exact ⟨perm, subperm_iff_of_perm perm, early⟩

def refusedThenFailed : Config × List (Arrival (Tcp Peer)) × World Peer Http.Scripted :=
  ({ Config.default with viaHttp := true, spoolPath := some (Text.bytes "spool") },
    arrivals .eof [] [.data [0xff, lineFeed]],
    { disk := .build [] ["spool"] [("spool/r.spool", SpoolRecord.encode ⟨"r", 0, ["r"]⟩)]
      network := .new (.loopback 8081) true
      server := .new (.loopback 8088) true [.status 500 []] })

theorem safe_iff_of_run_error_refused :
    let (c, input, w) := refusedThenFailed
    let r := run c [] ⟨0, 0, ""⟩ input w
    let a := account c [] ⟨0, 0, ""⟩ input w
    r.1.result = .error (.input .invalidData) ∧ a.held = ["r\n"] ∧
      (((readable c w.disk ++ a.read).map terminated).Subperm
        (a.delivered ++ (readable c r.2.disk).map terminated) ↔ a.held ++ a.waived = []) := by
  have failed : (run refusedThenFailed.1 [] ⟨0, 0, ""⟩ refusedThenFailed.2.1
      refusedThenFailed.2.2).1.result = .error (.input .invalidData) := by
    decide +kernel
  exact ⟨failed, by decide +kernel, (safe_iff_of_run_error failed).2.1⟩

theorem not_safe_of_run_error :
    ¬∀ (c : Config) (moves : List Move) (stamp : Stamp) (input : List (Arrival (Tcp Peer)))
      (w : World Peer Http.Scripted) (cause : Error), c.validate w.disk = .ok () →
      c.spoolPath.isSome → (run c moves stamp input w).1.result = .error cause →
      ((readable c w.disk ++ (account c moves stamp input w).read).map terminated).Subperm
        ((account c moves stamp input w).delivered ++
          (readable c (run c moves stamp input w).2.disk).map terminated) := by
  intro safe
  have := safe refusedThenFailed.1 [] ⟨0, 0, ""⟩ refusedThenFailed.2.1 refusedThenFailed.2.2
    (.input .invalidData) (by decide +kernel) rfl (by decide +kernel)
  revert this
  decide +kernel

theorem waived_of_relay_ok {τ : Type} [Transport τ] {size : Nat} {input : List (Arrival τ)}
    {p : Plain τ} {spool : Option Spool} {summary : Summary} (books : Audit.Right [] p)
    (going : Audit.Going p) (ok : (relay size stamp input p spool).result = .ok summary) :
    let e := relay size stamp input p spool
    let metrics := e.carrier.session.sender.buffer.metrics
    (Audit.waived e.carrier).length = metrics.dropped + metrics.rejected := by
  obtain ⟨panic, k', rest, notices, -, -, -, he⟩ |
      ⟨goes, -, ⟨fault, -, notices, he⟩ | ⟨-, notices, he⟩⟩ :=
    relay_cases size stamp input p spool
  · rw [he] at ok
    cases ok
  · rw [he] at ok
    cases ok
  · rw [he]
    exact waived_finish (right_afterInput goes input books going).books

theorem mounts_of_run_ok {summary : Summary}
    (ok : (run c moves stamp input w).1.result = .ok summary) :
    ∃ mounted, mount c w.disk = .ok mounted := by
  cases mounts : mount c w.disk with
  | ok mounted => exact ⟨mounted, rfl⟩
  | error e =>
    rw [run_of_error moves stamp input mounts] at ok
    cases ok
  | panicked p =>
    rw [run_of_panicked moves stamp input mounts] at ok
    cases ok

theorem runPlain_of_run_ok {summary : Summary} (plain : c.viaHttp = false)
    (ok : (run c moves stamp input w).1.result = .ok summary) :
    ∃ mounted p link, mount c w.disk = .ok mounted ∧
      Plain.connect c moves (Tcp.new c.tcp w.network) = (.ok p, link) ∧
      (relay c.batchSize stamp input p (mounted.map (·.spool))).result = .ok summary ∧
      account c moves stamp input w = .of c.batchSize stamp input p (mounted.map (·.spool)) := by
  obtain ⟨mounted, mounts⟩ := mounts_of_run_ok ok
  rw [run_link moves stamp input plain mounts] at ok
  unfold account
  rw [mounts]
  dsimp only
  rw [plain, if_neg Bool.false_ne_true]
  rcases hp : Plain.connect c moves (Tcp.new c.tcp w.network) with ⟨e | p, link⟩
  · rw [hp] at ok
    cases ok
  · rw [hp] at ok
    exact ⟨mounted, p, link, rfl, rfl, ok, rfl⟩

/-- A run over a link that comes to its end counts each line that it found in the spool or read: it
was delivered, put away, lost for want of a place, or had to make room, or found none, in the
buffer. So if none is lost then each line was delivered or is in a file of the spool, or was given
up by the buffer. -/
theorem balance_of_run_ok {summary : Summary} (plain : c.viaHttp = false)
    (ok : (run c moves stamp input w).1.result = .ok summary) :
    ∃ mounted p link, mount c w.disk = .ok mounted ∧
      Plain.connect c moves (Tcp.new c.tcp w.network) = (.ok p, link) ∧
      let a := account c moves stamp input w
      let lines := (readable c w.disk ++ a.read).map terminated
      let session := (relay c.batchSize stamp input p (mounted.map (·.spool))).carrier.session
      let metrics := session.sender.buffer.metrics
      (summary.read = a.read.length ∧ summary.restored = (readable c w.disk).length ∧
        summary.delivered = a.delivered.length) ∧
      (a.delivered = writes session.effects ∧
        a.waived = discards session.effects ++ refusals session.effects) ∧
      summary.read + summary.restored = summary.delivered + summary.spooled + summary.lost +
        metrics.dropped + metrics.rejected ∧
      (summary.lost = 0 → ∃ kept, lines.Perm (a.delivered ++ (kept ++ a.waived)) ∧
        (kept = [] ∨ ∃ m, mount c (run c moves stamp input w).2.disk = .ok (some m) ∧
          m.spool.Files ⟨stamp.id, stamp.time, kept⟩)) := by
  obtain ⟨counts, kept, perm, left, stored⟩ := (ran_run c moves stamp input w).ok ok
  obtain ⟨mounted, p, link, mounts, connects, ok, account_eq⟩ := runPlain_of_run_ok plain ok
  obtain ⟨books, going⟩ := right_connect connects
  have waived := waived_of_relay_ok books going ok
  refine ⟨mounted, p, link, mounts, connects, counts, ?_, ?_,
    fun none_ => ⟨kept, perm, stored none_⟩⟩
  · rw [account_eq]
    exact ⟨rfl, rfl⟩
  · have total := perm.length_eq
    rw [account_eq] at total counts
    simp only [List.length_map, List.length_append, Account.of, waived] at total counts
    omega

def brokenOff : Config × List (Arrival (Tcp Peer)) × World Peer Http.Scripted :=
  ({ Config.default with
      bufferCapacity := 1, batchSize := 1, spoolPath := some (Text.bytes "spool") },
    [.line "a", .change fun t => { t with network := t.network.setFate .reset }, .line "b",
      .line "c", .line "d"],
    { disk := .build [] ["spool"] []
      network := .new (.loopback 8081) true
      server := .new (.loopback 8088) true [] })

theorem balance_of_run_ok_brokenOff :
    let (c, input, w) := brokenOff
    let a := account c [] ⟨0, 0, ""⟩ input w
    (run c [] ⟨0, 0, ""⟩ input w).1.result = .ok ⟨4, 0, 1, 1, 0⟩ ∧
      a.waived = ["b\n", "c\n"] ∧
      ∃ kept, ((readable c w.disk ++ a.read).map terminated).Perm
        (a.delivered ++ (kept ++ a.waived)) := by
  have ok : (run brokenOff.1 [] ⟨0, 0, ""⟩ brokenOff.2.1 brokenOff.2.2).1.result =
      .ok ⟨4, 0, 1, 1, 0⟩ := by
    decide +kernel
  obtain ⟨mounted, p, link, -, -, -, -, -, all⟩ := balance_of_run_ok rfl ok
  obtain ⟨kept, perm, -⟩ := all rfl
  exact ⟨ok, by decide +kernel, kept, perm⟩

theorem not_balance_without_waived :
    ¬∀ (c : Config) (moves : List Move) (stamp : Stamp) (input : List (Arrival (Tcp Peer)))
      (w : World Peer Http.Scripted) (s : Summary), c.validate w.disk = .ok () →
      c.viaHttp = false → (run c moves stamp input w).1.result = .ok s →
      s.read + s.restored = s.delivered + s.spooled + s.lost := by
  intro balance
  have := balance brokenOff.1 [] ⟨0, 0, ""⟩ brokenOff.2.1 brokenOff.2.2 ⟨4, 0, 1, 1, 0⟩
    (by decide +kernel) rfl (by decide +kernel)
  cases this

end MetricRelay.Relay
