import Mathlib.Data.List.Infix
import MetricRelay.Proofs.Relay.Posts
import MetricRelay.Proofs.Spool.Sole

namespace MetricRelay.Relay

/-- What a run to a server leaves behind. Its posts are the lines that it found in its spool, in
parts, and then the batches that it read; the lines of those that were refused are left. -/
structure Accounted (c : Config) (text : String) (found : List String) (stamp : Stamp)
    (summary : Summary) (posts : List Post) (batches : List (List String))
    (rest again : Option Spool) : Prop where
  posts_eq : posts.map Prod.fst = parts c.batchSize found ++ batches
  within : batches.flatten <+: inputLines text
  complete : c.failFast = false → batches.flatten = inputLines text
  sizes : ∀ batch ∈ batches, batch ≠ [] ∧ batch.length ≤ c.batchSize
  read : summary.read = batches.flatten.length
  restored : summary.restored = found.length
  delivered : summary.delivered = (Post.taken posts).length
  balance :
    summary.read + summary.restored = summary.delivered + summary.spooled + summary.lost
  kept : Kept stamp ((Post.refused posts).map terminated) rest summary.spooled summary.lost again

variable {ν σ : Type} {c : Config} {stamp : Stamp} {chunks : List Bytes} {text : String}

theorem Accounted.of_refused {found : List String} {summary : Summary} {posts : List Post}
    {batches : List (List String)} {rest again : Option Spool}
    (h : Accounted c "" found stamp summary posts batches rest again)
    (refused : ∀ x ∈ posts, ¬x.2.IsSuccess) :
    summary = ⟨0, found.length, 0, summary.spooled, summary.lost⟩ ∧
      Kept stamp (found.map terminated) rest summary.spooled summary.lost again := by
  obtain ⟨none_, left⟩ := Post.of_forall_not_isSuccess refused
  have nothing : batches.flatten = [] := List.prefix_nil.1 h.within
  rw [h.posts_eq, List.flatten_append, flatten_parts, nothing, List.append_nil] at left
  have read : summary.read = 0 := h.read.trans (congrArg List.length nothing)
  have delivered : summary.delivered = 0 := h.delivered.trans (congrArg List.length none_)
  refine ⟨?_, left ▸ h.kept⟩
  calc summary
    _ = ⟨summary.read, summary.restored, summary.delivered, summary.spooled, summary.lost⟩ := rfl
    _ = ⟨0, found.length, 0, summary.spooled, summary.lost⟩ := by
      rw [read, h.restored, delivered]

namespace Posting

variable [Http.Server σ] {p : Posting (Http.Recorded σ)}

theorem begins_of_run_ok {input : List (Arrival (Tcp ν))} [Network ν] {moves : List Move}
    {w : World ν σ} {summary : Summary} (viaHttp : c.viaHttp = true)
    (ok : (run c moves stamp input w).1.result = .ok summary) :
    ∃ mounted p, mount c w.disk = .ok mounted ∧ Posting.new c w.server = .ok p ∧
      (relay c.batchSize stamp input p (mounted.map (·.spool))).result = .ok summary := by
  obtain ⟨mounted, mounts⟩ := mounts_of_run_ok ok
  rw [run_server moves stamp input viaHttp mounts] at ok
  cases hp : Posting.new c w.server with
  | error e =>
    rw [hp] at ok
    cases ok
  | ok p =>
    rw [hp] at ok
    exact ⟨mounted, p, mounts, rfl, ok⟩

theorem handedOver_text (τ : Type) (size_ : 0 < p.size)
    (text_eq : chunks.flatten = Text.bytes text) (spool : Option Spool) :
    let batches := (Progress.begin τ (found spool) p).handedOver (rounds p.size (fed τ chunks))
    batches.flatten <+: inputLines text ∧
      (p.tolerant = true → batches.flatten = inputLines text) ∧
      ∀ batch ∈ batches, batch ≠ [] ∧ batch.length ≤ p.size := by
  obtain ⟨full, last, read, some_, short, flat⟩ := rounds_bytes (τ := τ) size_ text_eq
  have all : (rounds p.size (fed τ chunks)).flatMap Round.handed = inputLines text := by
    rw [read, List.flatMap_map, ← flat]
    exact List.flatMap_id'
  have part := (Progress.begin τ (found spool) p).isPrefix_consumed (rounds p.size (fed τ chunks))
  dsimp only
  rw [Progress.flatten_handedOver]
  refine ⟨all ▸ part.flatMap Round.handed, fun tolerant => ?_, fun batch mem => ?_⟩
  · rw [← all, read, consumed_of_tolerant tolerant some_ last]
  · obtain ⟨mem, some_⟩ := List.mem_filter.1 mem
    obtain ⟨r, hr, rfl⟩ := List.mem_map.1 mem
    have hr := part.subset hr
    rw [read] at hr
    obtain ⟨batch, hb, rfl⟩ := List.mem_map.1 hr
    exact ⟨by simpa using some_, short batch hb⟩

theorem accounted_relay (τ : Type) {server : Http.Recorded σ} {spool : Option Spool}
    (begins : Posting.new c server = .ok p) (size_ : 0 < c.batchSize)
    (text_eq : chunks.flatten = Text.bytes text)
    (goes : panic? τ c.batchSize p spool = none) (stamp : Stamp) :
    ∃ summary posts batches,
      (relay c.batchSize stamp (fed τ chunks) p spool).result = .ok summary ∧
      (relay c.batchSize stamp (fed τ chunks) p spool).carrier.Posted server.record posts ∧
      Accounted c text (found spool) stamp summary posts batches (emptied spool)
        (relay c.batchSize stamp (fed τ chunks) p spool).spool := by
  obtain ⟨client, rfl⟩ := new_ok begins
  let p : Posting (Http.Recorded σ) := ⟨client, server, c.batchSize, !c.failFast, [], [], []⟩
  let a := afterInput c.batchSize (fed τ chunks) p spool
  let batches := (Progress.begin τ (found spool) p).handedOver (rounds c.batchSize (fed τ chunks))
  obtain ⟨within, complete, sizes⟩ := handedOver_text (p := p) τ size_ text_eq spool
  have through : a.carrier.Through server.record (parts c.batchSize (found spool) ++ batches) :=
    through_afterInput (p := p) ⟨[], rfl, posted_new begins⟩ size_
  obtain ⟨posts, posts_eq, posted⟩ := through
  obtain ⟨found_eq, read_eq⟩ :
      a.restored = (found spool).length ∧ a.read = batches.flatten.length := by
    rw [Progress.flatten_handedOver, ← consumed_of_none goes]
    exact counts_afterInput goes (fed τ chunks) (right_new begins) trivial
  have sound : a.fault = none := fault_afterInput size_ text_eq p spool
  obtain ⟨notices, e⟩ := relay_eq goes sound stamp
  let d := (Carrier.finish τ a.carrier).1
  let end_ := keep stamp d.undelivered (emptied spool) (a.summary d)
  have e : relay c.batchSize stamp (fed τ chunks) p spool =
    ⟨.ok end_.1, (Carrier.finish τ a.carrier).2, end_.2, notices⟩ := e
  obtain ⟨⟨read, restored, delivered⟩, -⟩ :
      (end_.1.read = a.read ∧ end_.1.restored = a.restored ∧ end_.1.delivered = d.delivered) ∧ _ :=
    keep_spec stamp d.undelivered (emptied spool) (s := a.summary d) rfl rfl
  have kept : Kept stamp d.undelivered (emptied spool) end_.1.spooled end_.1.lost end_.2 :=
    kept_keep stamp d.undelivered (emptied spool) rfl rfl
  have left : d.undelivered = (Post.refused posts).map terminated := posted.undelivered
  have taken : d.delivered = (Post.taken posts).length :=
    (congrArg List.length posted.delivered).trans (List.length_map ..)
  have whole := Post.length_taken_add_length_refused posts
  rw [posts_eq, List.flatten_append, flatten_parts, List.length_append] at whole
  have sum := kept.sum
  rw [left, List.length_map] at sum
  rw [e]
  refine ⟨end_.1, posts, batches, rfl, posted, posts_eq, within,
    fun slow => complete (congrArg (!·) slow), sizes, read.trans read_eq, restored.trans found_eq,
    delivered.trans taken, ?_, left ▸ kept⟩
  omega

end Posting

theorem some_of_mount {d d' : Disk} {m : Mounted} {again : Option Mounted}
    (h : mount c d = .ok (some m)) (h' : mount c d' = .ok again) :
    ∃ m', again = some m' ∧ m'.spool.Exact := by
  obtain ⟨hc, rfl⟩ | ⟨config, m', -, hm, rfl⟩ := mount_ok h'
  · cases (mount_none hc d).symm.trans h
  · obtain ⟨-, -, fresh⟩ := Mounted.new_ok hm
    exact ⟨m', rfl, fresh ▸ Spool.exact_mount (Disk.plain_folder _ _).honest config⟩

theorem Kept.over {base s again : Spool} {lines : List String} {spooled lost : Nat}
    (kept : Kept stamp lines (some s.emptied) spooled lost (some again)) (h : base.Over lines s)
    (right : base.Exact) (room : base.HasRoom stamp lines)
    (fits : SpoolRecord.Fits ⟨stamp.id, stamp.time, lines⟩) (right' : again.Exact) :
    spooled = lines.length ∧ lost = 0 ∧ again.held = lines ∧ base.Over lines again := by
  have config_eq : s.emptied.config = base.config := (s.config_without _).trans h.config
  have sound : s.emptied.isOversized = false := Spool.isOversized_without h.sound _
  cases kept with
  | nothing empty same =>
    obtain rfl := empty
    cases same with
    | some same =>
      have held : again.held = [] := (Spool.held_congr same.same).trans s.held_emptied
      have sound' : again.isOversized = false := (Spool.isOversized_congr same.same).trans sound
      refine ⟨rfl, rfl, held, right', sound', by rw [held]; rfl, same.config.trans config_eq,
        (again.within_without _).trans fun name e there => ?_⟩
      exact h.within name e (same.same name ▸ there)
  | stored some_ rest_eq config file others =>
    cases rest_eq
    have sole : s.emptied.Sole ⟨stamp.id, stamp.time, lines⟩ again :=
      ⟨s.held_emptied, sound, file, config, others, fits, stamp.size_id⟩
    refine ⟨rfl, rfl, sole.held, right', sole.isOversized, ?_, config.trans config_eq,
      sole.within.trans h.within⟩
    rw [sole.held, ← h.held, List.map_map]
    exact List.map_congr_left fun line _ => Text.terminated_terminated line
  | lost some_ failed same =>
    obtain ⟨id, stored⟩ := (h.hasRoom room right).store
    obtain none_ | ⟨sp, cause, rest_eq, failed⟩ := failed
    · cases none_
    · cases rest_eq
      cases stored.symm.trans failed

section

variable [Network ν] [Http.Server σ] {w : World ν (Http.Recorded σ)}

theorem prefix_record_run (viaHttp : c.viaHttp = true) (size_ : 0 < c.batchSize)
    (moves : List Move) (stamp : Stamp) (input : List (Arrival (Tcp ν)))
    (w : World ν (Http.Recorded σ)) :
    w.server.record <+: (run c moves stamp input w).2.server.record := by
  cases mounts : mount c w.disk with
  | error e =>
    rw [run_of_error moves stamp input mounts]
  | panicked p =>
    rw [run_of_panicked moves stamp input mounts]
  | ok mounted =>
    cases begins : Posting.new c w.server with
    | error e =>
      rw [run_server moves stamp input viaHttp mounts, begins]
    | ok p =>
      have size : p.size = c.batchSize := by
        obtain ⟨client, rfl⟩ := Posting.new_ok begins
        rfl
      have through : p.Through w.server.record [] := ⟨[], rfl, Posting.posted_new begins⟩
      have ran : ∃ batches, (relay c.batchSize stamp input p
          (mounted.map (·.spool))).carrier.Through w.server.record batches :=
        Posting.through_relay through (size ▸ size_) stamp
      obtain ⟨batches, posts, -, posted⟩ := ran
      obtain ⟨new, record, -⟩ := posted.record
      rw [(run_posting moves stamp input viaHttp mounts begins).2, record]
      exact List.prefix_append ..

/-- Runs one after the other, for which there is nothing to read. -/
def replay {ν σ : Type} [Network ν] [Http.Server σ] (c : Config) :
    List Stamp → World ν σ → List (Result Error Summary) × World ν σ
  | [], w => ([], w)
  | stamp :: stamps, w =>
    let (outcome, w) := run c [] stamp [] w
    let (results, w) := replay c stamps w
    (outcome.result :: results, w)

theorem prefix_record_replay (viaHttp : c.viaHttp = true) (size_ : 0 < c.batchSize)
    (stamps : List Stamp) (w : World ν (Http.Recorded σ)) :
    w.server.record <+: (replay c stamps w).2.server.record := by
  induction stamps generalizing w with
  | nil => exact List.prefix_rfl
  | cons stamp stamps ih =>
    exact (prefix_record_run viaHttp size_ [] stamp [] w).trans (ih _)

variable {client : Http.Client} {m : Mounted} {base : Spool} {lines : List String}

theorem run_refused (viaHttp : c.viaHttp = true) (size_ : 0 < c.batchSize)
    (small : c.batchSize ≤ batchLimit) (begins : Http.Client.new c.http = .ok client)
    (mounts : mount c w.disk = .ok (some m)) (h : base.Over lines m.spool) (right : base.Exact)
    (room : base.HasRoom stamp lines) (fits : SpoolRecord.Fits ⟨stamp.id, stamp.time, lines⟩)
    (refused : ∀ x ∈ (run c [] stamp [] w).2.server.record, ¬x.2.IsSuccess) :
    let r := run c [] stamp [] w
    r.1.result = .ok ⟨0, lines.length, 0, lines.length, 0⟩ ∧
      ∃ m', mount c r.2.disk = .ok (some m') ∧ m'.spool.held = lines ∧ base.Over lines m'.spool := by
  have starts : ∃ p, Posting.new c w.server = .ok p := by
    rw [Posting.new, begins]
    exact ⟨_, rfl⟩
  obtain ⟨p, starts⟩ := starts
  have light : ¬Overburdened c.batchSize (some m.spool) :=
    not_or.2 ⟨by simp [h.sound], Nat.not_lt.2 small⟩
  have goes := (panic?_posting (τ := Tcp ν) size_ starts (some m.spool)).trans (if_neg light)
  have blank : ([] : List Bytes).flatten = Text.bytes "" := rfl
  obtain ⟨summary, posts, batches, ok, posted, accounted⟩ :=
    Posting.accounted_relay (Tcp ν) starts size_ blank goes stamp
  obtain ⟨again, remounts, alike⟩ := mount_run_posting [] stamp [] viaHttp mounts starts
  obtain ⟨m', rfl, right'⟩ := some_of_mount mounts remounts
  obtain ⟨result, server⟩ := run_posting [] stamp [] viaHttp mounts starts
  rw [server] at refused
  obtain ⟨summary_eq, kept⟩ := accounted.of_refused (posted.refused refused)
  have held : (found (some m.spool)).map terminated = lines := h.held
  rw [held] at kept
  obtain ⟨spooled, lost, held', next⟩ := (kept.alike alike).over h right room fits right'
  rw [spooled, lost, ← List.length_map terminated, held] at summary_eq
  exact ⟨(result.trans ok).trans (congrArg _ summary_eq), m', remounts, held', next⟩

theorem replay_refused (viaHttp : c.viaHttp = true) (size_ : 0 < c.batchSize)
    (small : c.batchSize ≤ batchLimit) (begins : Http.Client.new c.http = .ok client)
    (mounts : mount c w.disk = .ok (some m)) (h : base.Over lines m.spool) (right : base.Exact)
    {stamps : List Stamp} (room : ∀ stamp ∈ stamps, base.HasRoom stamp lines)
    (fits : ∀ stamp ∈ stamps, SpoolRecord.Fits ⟨stamp.id, stamp.time, lines⟩)
    (refused : ∀ x ∈ (replay c stamps w).2.server.record, ¬x.2.IsSuccess) :
    let r := replay c stamps w
    r.1 = stamps.map (fun _ => .ok ⟨0, lines.length, 0, lines.length, 0⟩) ∧
      (stamps ≠ [] → readable c r.2.disk = lines) := by
  induction stamps generalizing w m with
  | nil => exact ⟨rfl, fun some_ => absurd rfl some_⟩
  | cons stamp stamps ih =>
    obtain ⟨room, roomLater⟩ := List.forall_mem_cons.1 room
    obtain ⟨fits, fitsLater⟩ := List.forall_mem_cons.1 fits
    have refusedHere (x) (mem : x ∈ (run c [] stamp [] w).2.server.record) : ¬x.2.IsSuccess :=
      refused x ((prefix_record_replay viaHttp size_ stamps _).subset mem)
    obtain ⟨result, m', mounts', held, next⟩ :=
      run_refused viaHttp size_ small begins mounts h right room fits refusedHere
    obtain ⟨results, later⟩ := ih mounts' next roomLater fitsLater refused
    refine ⟨congrArg₂ List.cons result results, fun _ => ?_⟩
    by_cases last : stamps = []
    · obtain rfl := last
      exact (readable_of_mount mounts').trans held
    · exact later last

end

theorem rest_eq_none_iff {d : Disk} {mounted : Option Mounted}
    (mounts : mount c d = .ok mounted) :
    emptied (mounted.map (·.spool)) = none ↔ c.spool = .ok none := by
  obtain ⟨hc, rfl⟩ | ⟨config, m, hc, -, rfl⟩ := mount_ok mounts
  · exact ⟨fun _ => hc, fun _ => rfl⟩
  · simp [hc, emptied]

section

variable [Network ν] [Http.Server σ]

/-- The server refuses all posts of these runs, and there is room in the spool for the lines that are
in it. -/
structure Refused (c : Config) (stamps : List Stamp) (m : Mounted) (base : Spool)
    (lines : List String) (w : World ν (Http.Recorded σ)) : Prop where
  mounts : mount c w.disk = .ok (some m)
  begins : ∃ client, Http.Client.new c.http = .ok client
  small : c.batchSize ≤ batchLimit
  restored : m.spool.restore = (.ok lines, base)
  room : ∀ stamp ∈ stamps, base.HasRoom stamp (lines.map terminated)
  fits : ∀ stamp ∈ stamps, SpoolRecord.Fits ⟨stamp.id, stamp.time, lines.map terminated⟩
  refused : ∀ x ∈ (replay c stamps w).2.server.record, ¬x.2.IsSuccess

theorem accounted_of_run_ok (viaHttp : c.viaHttp = true) (size_ : 0 < c.batchSize)
    {w : World ν σ} {moves : List Move} (text_eq : chunks.flatten = Text.bytes text)
    {summary : Summary}
    (ok : (run c moves stamp (fed _ chunks) w.recorded).1.result = .ok summary) :
    ∃ mounted rest again posts batches,
      (mount c w.disk = .ok mounted ∧
        restore (mounted.map (·.spool)) = (.ok (readable c w.disk), rest) ∧
        (rest = none ↔ c.spool = .ok none) ∧
        mount c (run c moves stamp (fed _ chunks) w.recorded).2.disk = .ok again) ∧
      (run c moves stamp (fed _ chunks) w.recorded).2.server.record.map
        (fun x => (x.1.body, x.2)) = posts.map Post.seen ∧
      Accounted c text (readable c w.disk) stamp summary posts batches rest
        (again.map (·.spool)) := by
  obtain ⟨mounted, p, mounts, begins, relayed⟩ := Posting.begins_of_run_ok viaHttp ok
  have goes := (completes_of_ok relayed).1
  have restored := restore_of_goes goes
  obtain ⟨summary', posts, batches, ok', posted, accounted⟩ :=
    Posting.accounted_relay (Tcp (Recorded ν)) begins size_ text_eq goes stamp
  obtain ⟨again, remounts, alike⟩ :=
    mount_run_posting moves stamp (fed _ chunks) viaHttp mounts begins
  obtain ⟨result, server⟩ := run_posting moves stamp (fed _ chunks) viaHttp mounts begins
  obtain ⟨new, record, same⟩ := posted.record
  cases ok'.symm.trans relayed
  rw [← readable_of_mount mounts] at accounted restored
  refine ⟨mounted, _, again, posts, batches,
    ⟨mounts, restored, rest_eq_none_iff mounts, remounts⟩, ?_,
    { accounted with kept := accounted.kept.alike alike }⟩
  rw [← same, server, record]
  rfl

theorem Refused.over {stamps : List Stamp} {m : Mounted} {base : Spool} {lines : List String}
    {w : World ν (Http.Recorded σ)} (h : Refused c stamps m base lines w) :
    base.Over (lines.map terminated) m.spool ∧ base.Exact := by
  obtain ⟨m', e, right⟩ := some_of_mount h.mounts h.mounts
  cases e
  obtain ⟨sound, rfl, rfl⟩ := Spool.restore_eq_ok_iff.1 h.restored
  exact ⟨Spool.over_emptied right sound, right.emptied⟩

/-- A run to a server that comes to its end accounts for each line. And lines that are in the spool
stay there, in their order, as often as they are tried again and refused. -/
theorem accounted_and_replayed (viaHttp : c.viaHttp = true) (size_ : 0 < c.batchSize)
    (w : World ν σ) :
    (∀ (moves : List Move) (stamp : Stamp) (chunks : List Bytes) (text : String)
        (summary : Summary), chunks.flatten = Text.bytes text →
      let r := run c moves stamp (fed _ chunks) w.recorded
      r.1.result = .ok summary →
      ∃ mounted rest again posts batches,
        (mount c w.disk = .ok mounted ∧
          restore (mounted.map (·.spool)) = (.ok (readable c w.disk), rest) ∧
          (rest = none ↔ c.spool = .ok none) ∧ mount c r.2.disk = .ok again) ∧
        r.2.server.record.map (fun x => (x.1.body, x.2)) = posts.map Post.seen ∧
        Accounted c text (readable c w.disk) stamp summary posts batches rest
          (again.map (·.spool))) ∧
      ∀ (stamps : List Stamp) (m : Mounted) (base : Spool) (lines : List String),
        Refused c stamps m base lines w.recorded →
        let r := replay c stamps w.recorded
        r.1 = stamps.map (fun _ => .ok ⟨0, lines.length, 0, lines.length, 0⟩) ∧
          (stamps ≠ [] → readable c r.2.disk = lines.map terminated) := by
  refine ⟨fun moves stamp chunks text summary text_eq ok =>
    accounted_of_run_ok viaHttp size_ text_eq ok, fun stamps m base lines h => ?_⟩
  obtain ⟨client, begins⟩ := h.begins
  obtain ⟨over_, right⟩ := h.over
  have := replay_refused viaHttp size_ h.small begins h.mounts over_ right h.room h.fits h.refused
  rwa [List.length_map] at this

end

def answering (answers : List Http.Answer) : Config × List Bytes × World Peer Http.Scripted :=
  ({ Config.default with
      batchSize := 2, viaHttp := true, spoolPath := some (Text.bytes "spool") },
    [Text.bytes "a\nb\n", Text.bytes "c"],
    { disk := .build [] ["spool"]
        [("spool/r.spool", SpoolRecord.encode ⟨"r", 0, ["r", "s\n", "t"]⟩), ("spool/x", [1])]
      network := .new (.loopback 8081) true
      server := .new (.loopback 8088) true answers })

def halfRefused : Config × List Bytes × World Peer Http.Scripted :=
  answering [.status 500 [], .status 200 [], .timeout, .status 503 []]

def neverAnswered : Config × List Bytes × World Peer Http.Scripted :=
  answering (.replicate 4 .timeout)

theorem refused_neverAnswered :
    let (c, _, w) := neverAnswered
    ∃ m base, Refused c [⟨1, 0, ""⟩, ⟨2, 1, ""⟩] m base ["r", "s\n", "t"] w.recorded := by
  let stamps : List Stamp := [⟨1, 0, ""⟩, ⟨2, 1, ""⟩]
  have seen : ((mount neverAnswered.1 neverAnswered.2.2.disk).toOption.bind fun mounted =>
      mounted.bind fun m => m.spool.restore.1.toOption.map fun lines =>
        (lines, decide (∀ stamp ∈ stamps, m.spool.restore.2.HasRoom stamp (lines.map terminated)))) =
      some (["r", "s\n", "t"], true) := by
    decide +kernel
  obtain ⟨mounted, mounts, seen⟩ := Option.bind_eq_some_iff.1 seen
  obtain ⟨m, rfl, seen⟩ := Option.bind_eq_some_iff.1 seen
  obtain ⟨lines, restored, seen⟩ := Option.map_eq_some_iff.1 seen
  simp only [Prod.mk.injEq, decide_eq_true_eq] at seen
  obtain ⟨rfl, room⟩ := seen
  exact ⟨m, m.spool.restore.2, Result.eq_ok_of_toOption mounts, ⟨_, rfl⟩, by decide +kernel,
    Prod.ext (Result.eq_ok_of_toOption restored) rfl, room, by decide +kernel, by decide +kernel⟩

theorem accounted_and_replayed_answering :
    let (c, chunks, w) := halfRefused
    let r := run c [] ⟨0, 0, ""⟩ (fed _ chunks) w.recorded
    let (c', _, w') := neverAnswered
    (r.1.result = .ok ⟨3, 3, 1, 5, 0⟩ ∧
      ∃ posts, r.2.server.record.map (fun x => (x.1.body, x.2)) = posts.map Post.seen ∧
        (Post.taken posts).length = 1) ∧
      readable c' (replay c' [⟨1, 0, ""⟩, ⟨2, 1, ""⟩] w'.recorded).2.disk =
        ["r\n", "s\n", "t\n"] := by
  have ok : (run halfRefused.1 [] ⟨0, 0, ""⟩ (fed _ halfRefused.2.1)
      halfRefused.2.2.recorded).1.result = .ok ⟨3, 3, 1, 5, 0⟩ := by
    decide +kernel
  have read : halfRefused.2.1.flatten = Text.bytes "a\nb\nc" := by
    decide +kernel
  obtain ⟨mounted, rest, again, posts, batches, -, seen, accounted⟩ :=
    (accounted_and_replayed rfl (by decide) halfRefused.2.2).1 _ _ _ _ _ read ok
  obtain ⟨m, base, refused⟩ := refused_neverAnswered
  obtain ⟨-, kept⟩ := (accounted_and_replayed rfl (by decide) neverAnswered.2.2).2 _ _ _ _ refused
  exact ⟨⟨ok, posts, seen, accounted.delivered.symm⟩, (kept (by decide)).trans (by decide +kernel)⟩

end MetricRelay.Relay
