import MetricRelay.Proofs.Relay.Posted
import MetricRelay.Proofs.Relay.Run
import MetricRelay.Proofs.Relay.Smooth

/-!
The two ways to deliver lines agree. If everything succeeds then the same bytes go to a link as to a
server, whatever the sizes of the batches, and the summaries are the same.
-/
namespace MetricRelay.Relay

def World.recorded {ν σ : Type} (w : World ν σ) : World (Recorded ν) (Http.Recorded σ) :=
  ⟨w.disk, .start w.network, .start w.server⟩

theorem readable_of_mount {c : Config} {d : Disk} {mounted : Option Mounted}
    (h : mount c d = .ok mounted) : readable c d = found (mounted.map (·.spool)) := by
  rw [readable, h]

variable {ν σ : Type} [Network ν] [Http.Server σ] {c : Config} {moves : List Move} {stamp : Stamp}
  {chunks : List Bytes} {text : String} {w : World ν σ} {mounted : Option Mounted}

theorem run_plain (stamp : Stamp) (input : List (Arrival (Tcp ν))) {p : Plain (Tcp ν)}
    {link : Tcp ν} (viaHttp : c.viaHttp = false) (mounts : mount c w.disk = .ok mounted)
    (connects : Plain.connect c moves (Tcp.new c.tcp w.network) = (.ok p, link)) :
    let e := relay c.batchSize stamp input p (mounted.map (·.spool))
    (run c moves stamp input w).1.result = e.result ∧
      (run c moves stamp input w).2.network = e.carrier.session.link.network := by
  rw [run_link moves stamp input viaHttp mounts, connects]
  exact ⟨rfl, rfl⟩

theorem run_posting (moves : List Move) (stamp : Stamp) (input : List (Arrival (Tcp ν)))
    {p : Posting σ} (viaHttp : c.viaHttp = true) (mounts : mount c w.disk = .ok mounted)
    (begins : Posting.new c w.server = .ok p) :
    let e := relay c.batchSize stamp input p (mounted.map (·.spool))
    (run c moves stamp input w).1.result = e.result ∧
      (run c moves stamp input w).2.server = e.carrier.server := by
  rw [run_server moves stamp input viaHttp mounts, begins]
  exact ⟨rfl, rfl⟩

structure Plain.Succeeds (c : Config) (moves : List Move) (stamp : Stamp) (chunks : List Bytes)
    (w : World ν σ) (mounted : Option Mounted) : Prop where
  viaHttp : c.viaHttp = false
  size : 0 < c.batchSize
  mounts : mount c w.disk = .ok mounted
  connects : ∃ p link,
    Plain.connect c moves (Tcp.new c.tcp (Recorded.start w.network)) = (.ok p, link)
  clean : (run c moves stamp (fed _ chunks) w.recorded).2.network.Clean

/-- A run whose server answers each post with success. -/
structure Posting.Succeeds (c : Config) (moves : List Move) (stamp : Stamp) (chunks : List Bytes)
    (w : World ν σ) (mounted : Option Mounted) : Prop where
  viaHttp : c.viaHttp = true
  size : 0 < c.batchSize
  mounts : mount c w.disk = .ok mounted
  begins : ∃ p, Posting.new c (Http.Recorded.start w.server) = .ok p
  clean : (run c moves stamp (fed _ chunks) w.recorded).2.server.Clean

theorem panic?_plain {τ : Type} [Transport τ] (size : Nat) (p : Plain τ) (spool : Option Spool) :
    panic? τ size p spool = if Overburdened size spool then some .capacityOverflow else none :=
  panic?_of_not_obstacle rfl size spool

theorem panic?_posting {τ : Type} {server : σ} {p : Posting σ} (size_ : 0 < c.batchSize)
    (begins : Posting.new c server = .ok p) (spool : Option Spool) :
    panic? τ c.batchSize p spool =
      if Overburdened c.batchSize spool then some .capacityOverflow else none := by
  obtain ⟨client, rfl⟩ := Posting.new_ok begins
  exact panic?_of_not_obstacle (if_neg (Nat.pos_iff_ne_zero.1 size_)) c.batchSize spool

section

variable {τ κ : Type} [Carrier τ κ] {size : Nat} {input : List (Arrival τ)} {k : κ}
  {spool : Option Spool}

theorem relay_of_overburdened
    (h : panic? τ size k spool = if Overburdened size spool then some .capacityOverflow else none)
    (burdened : Overburdened size spool) (stamp : Stamp) (input : List (Arrival τ)) :
    (relay size stamp input k spool).result = .panicked .capacityOverflow ∧
      ((relay size stamp input k spool).carrier = k ∨
        (relay size stamp input k spool).carrier = Carrier.resume τ (found spool) k) := by
  rw [if_pos burdened] at h
  obtain ⟨p, k', rest, notices, stops, -, begun, e⟩ | ⟨goes, -⟩ :=
    relay_cases size stamp input k spool
  · cases h.symm.trans stops
    rw [e]
    exact ⟨rfl, begun⟩
  · cases h.symm.trans goes

end

theorem Plain.Succeeds.delivered (h : Plain.Succeeds c moves stamp chunks w mounted)
    (read : chunks.flatten = Text.bytes text)
    (light : ¬Overburdened c.batchSize (mounted.map (·.spool))) :
    let r := run c moves stamp (fed _ chunks) w.recorded
    let lines := readable c w.disk ++ inputLines text
    r.1.result = .ok (.complete (inputLines text).length (readable c w.disk).length) ∧
      r.2.network.texts = lines.map terminated := by
  obtain ⟨p, link, connects⟩ := h.connects
  obtain ⟨result_eq, network_eq⟩ := run_plain (w := w.recorded) stamp (fed _ chunks) h.viaHttp
    h.mounts connects
  have goes := (panic?_plain c.batchSize p (mounted.map (·.spool))).trans (if_neg light)
  have clean := h.clean
  rw [network_eq] at clean
  have started := (Plain.unfailing c.batchSize).clean_relay goes h.size read clean
  obtain ⟨result, texts⟩ := (Plain.unfailing c.batchSize).relay goes h.size read
    (Plain.passed_connect connects started) clean
  rw [readable_of_mount h.mounts]
  exact ⟨result_eq.trans result, (congrArg Recorded.texts network_eq).trans texts⟩

theorem Plain.Succeeds.panicked (h : Plain.Succeeds c moves stamp chunks w mounted)
    (burdened : Overburdened c.batchSize (mounted.map (·.spool))) :
    let r := run c moves stamp (fed _ chunks) w.recorded
    r.1.result = .panicked .capacityOverflow ∧
      (readable c w.disk = [] → r.2.network.texts = []) := by
  obtain ⟨p, link, connects⟩ := h.connects
  obtain ⟨result_eq, network_eq⟩ := run_plain (w := w.recorded) stamp (fed _ chunks) h.viaHttp
    h.mounts connects
  obtain ⟨stopped, begun⟩ := relay_of_overburdened (panic?_plain _ p _) burdened stamp
    (fed (Tcp (Recorded ν)) chunks)
  refine ⟨result_eq.trans stopped, fun none_ => (congrArg Recorded.texts network_eq).trans ?_⟩
  have clean := h.clean
  rw [network_eq] at clean
  rw [readable_of_mount h.mounts] at none_
  obtain same | resumed := begun
  · rw [same] at clean ⊢
    exact (Plain.passed_connect connects clean).sent.texts
  · rw [resumed] at clean ⊢
    have passed := Plain.passed_connect connects ((Plain.unfailing c.batchSize).clean_resume clean)
    have passed := (Plain.unfailing c.batchSize).resume passed clean
    rw [none_] at passed ⊢
    exact passed.sent.texts

theorem Posting.Succeeds.delivered (h : Posting.Succeeds c moves stamp chunks w mounted)
    (read : chunks.flatten = Text.bytes text)
    (light : ¬Overburdened c.batchSize (mounted.map (·.spool))) :
    let r := run c moves stamp (fed _ chunks) w.recorded
    let lines := readable c w.disk ++ inputLines text
    r.1.result = .ok (.complete (inputLines text).length (readable c w.disk).length) ∧
      ∃ batches : List (List String), batches.flatten = lines ∧
        (∀ batch ∈ batches, batch ≠ [] ∧ batch.length ≤ c.batchSize) ∧
        r.2.server.bodies = batches.map Http.Client.body := by
  obtain ⟨p, begins⟩ := h.begins
  obtain ⟨result_eq, server_eq⟩ := run_posting (w := w.recorded) moves stamp (fed _ chunks)
    h.viaHttp h.mounts begins
  have goes : panic? (Tcp (Recorded ν)) c.batchSize p (mounted.map (·.spool)) = none :=
    (panic?_posting h.size begins _).trans (if_neg light)
  have clean := h.clean
  rw [server_eq] at clean
  obtain ⟨result, passed⟩ := (Posting.unfailing (Tcp (Recorded ν)) h.size).relay goes h.size read
    (Posting.passed_new begins) clean
  obtain ⟨batches, flat, sizes, bodies⟩ := passed.posts
  rw [readable_of_mount h.mounts]
  exact ⟨result_eq.trans result, batches, flat, sizes,
    (congrArg Http.Recorded.bodies server_eq).trans bodies⟩

theorem Posting.Succeeds.panicked (h : Posting.Succeeds c moves stamp chunks w mounted)
    (burdened : Overburdened c.batchSize (mounted.map (·.spool))) :
    let r := run c moves stamp (fed _ chunks) w.recorded
    r.1.result = .panicked .capacityOverflow ∧
      (readable c w.disk = [] → r.2.server.bodies = []) := by
  obtain ⟨p, begins⟩ := h.begins
  obtain ⟨result_eq, server_eq⟩ := run_posting (w := w.recorded) moves stamp (fed _ chunks)
    h.viaHttp h.mounts begins
  obtain ⟨stopped, begun⟩ := relay_of_overburdened (τ := Tcp (Recorded ν))
    (panic?_posting h.size begins _) burdened stamp (fed _ chunks)
  refine ⟨result_eq.trans stopped, fun none_ => ?_⟩
  rw [readable_of_mount h.mounts] at none_
  have untouched : (relay c.batchSize stamp (fed (Tcp (Recorded ν)) chunks) p
      (mounted.map (·.spool))).carrier.server = p.server := by
    obtain same | resumed := begun
    · rw [same]
    · rw [resumed, none_]
      simp only [Carrier.resume]
      unfold parts
      rfl
  obtain ⟨client, rfl⟩ := Posting.new_ok begins
  rw [server_eq, untouched]
  rfl

/-- Folders that hold the same files, or no folder. -/
def SameFolder : Option Mounted → Option Mounted → Prop :=
  Option.Rel fun m m' => ∀ name, m'.spool.folder.get? name = m.spool.folder.get? name

theorem SameFolder.refl (mounted : Option Mounted) : SameFolder mounted mounted := by
  cases mounted with
  | none => exact .none
  | some m => exact .some fun _ => rfl

theorem SameFolder.found_eq {mounted mounted' : Option Mounted} (h : SameFolder mounted mounted') :
    found (mounted'.map (·.spool)) = found (mounted.map (·.spool)) := by
  cases h with
  | none => rfl
  | some same => exact Spool.held_congr same

theorem SameFolder.any_isOversized {mounted mounted' : Option Mounted}
    (h : SameFolder mounted mounted') :
    (mounted'.map (·.spool)).any Spool.isOversized =
      (mounted.map (·.spool)).any Spool.isOversized := by
  cases h with
  | none => rfl
  | some same => exact Spool.isOversized_congr same

/-- Two runs that find the same files and read the same text, one over a link and one to a server,
deliver the same. What is on the link is what is in the posts, none of which is empty or too long. But
the program stops, in either of them, exactly if no memory can hold what it is to hold at once, which
is a text that is announced in a file of the spool, or a batch. -/
theorem delivered_alike {ν' σ' : Type} [Network ν'] [Http.Server σ'] {c' : Config}
    {moves' : List Move} {stamp' : Stamp} {chunks' : List Bytes} {w' : World ν' σ'}
    {mounted' : Option Mounted} (plain : Plain.Succeeds c moves stamp chunks w mounted)
    (posting : Posting.Succeeds c' moves' stamp' chunks' w' mounted')
    (same : SameFolder mounted mounted') (read : chunks.flatten = Text.bytes text)
    (read' : chunks'.flatten = Text.bytes text) :
    let r := run c moves stamp (fed _ chunks) w.recorded
    let r' := run c' moves' stamp' (fed _ chunks') w'.recorded
    let lines := readable c w.disk ++ inputLines text
    let spool := mounted.map (·.spool)
    (r.1.result = .panicked .capacityOverflow ↔ Overburdened c.batchSize spool) ∧
      (r'.1.result = .panicked .capacityOverflow ↔ Overburdened c'.batchSize spool) ∧
      (¬Overburdened c.batchSize spool → ¬Overburdened c'.batchSize spool →
        (r.1.result = .ok (.complete (inputLines text).length (readable c w.disk).length) ∧
            r'.1.result = r.1.result) ∧
          (r.2.network.text = String.join (lines.map terminated) ∧
            String.join r'.2.server.bodies = r.2.network.text) ∧
          ∃ batches : List (List String), batches.flatten = lines ∧
            r'.2.server.bodies = batches.map Http.Client.body ∧
            ∀ batch ∈ batches, batch.length ≤ c'.batchSize ∧ Http.Client.body batch ≠ "") := by
  have burden : Overburdened c'.batchSize (mounted'.map (·.spool)) ↔
      Overburdened c'.batchSize (mounted.map (·.spool)) := by
    rw [Overburdened, Overburdened, same.any_isOversized]
  refine ⟨⟨fun stopped => ?_, fun burdened => (plain.panicked burdened).1⟩,
    ⟨fun stopped => ?_, fun burdened => (posting.panicked (burden.2 burdened)).1⟩,
    fun light light' => ?_⟩
  · by_contra light
    cases stopped.symm.trans (plain.delivered read light).1
  · by_contra light
    cases stopped.symm.trans (posting.delivered read' (mt burden.1 light)).1
  have spooled : readable c' w'.disk = readable c w.disk := by
    rw [readable_of_mount plain.mounts, readable_of_mount posting.mounts, same.found_eq]
  obtain ⟨result, texts⟩ := plain.delivered read light
  obtain ⟨result', batches, flat, sizes, bodies⟩ := posting.delivered read' (mt burden.1 light')
  rw [spooled] at result' flat
  refine ⟨⟨result, result'.trans result.symm⟩, ⟨congrArg String.join texts, ?_⟩, batches, flat,
    bodies, fun batch hb => ?_⟩
  · rw [bodies, Http.Client.join_map_body, flat, Recorded.text, texts, Http.Client.body]
  · obtain ⟨some_, short⟩ := sizes batch hb
    exact ⟨short, Http.Client.body_ne_empty some_⟩

def twoWays : Config × Config × List Bytes × World Peer Http.Scripted :=
  let c := { Config.default with spoolPath := some (Text.bytes "spool") }
  ({ c with batchSize := 1 }, { c with batchSize := 2, viaHttp := true },
    [Text.bytes "a \r\n\n b\n", Text.bytes "\t\nc"],
    { disk := .build [] ["spool"] [("spool/r.spool", SpoolRecord.encode ⟨"r", 0, ["r", "s\n"]⟩)]
      network := .new (.loopback 8081) true
      server := .new (.loopback 8088) true [] })

theorem delivered_alike_twoWays :
    let (c, c', chunks, w) := twoWays
    let r := run c [.tick 5000] ⟨0, 0, ""⟩ (fed _ chunks) w.recorded
    let r' := run c' [] ⟨0, 0, ""⟩ (fed _ chunks) w.recorded
    r.1.result = .ok ⟨3, 2, 5, 0, 0⟩ ∧ r'.2.server.bodies = ["r\ns\n", "a\n b\n", "c\n"] ∧
      String.join r'.2.server.bodies = r.2.network.text := by
  have ok : (run twoWays.1 [.tick 5000] ⟨0, 0, ""⟩ (fed _ twoWays.2.2.1)
      twoWays.2.2.2.recorded).1.result = .ok ⟨3, 2, 5, 0, 0⟩ := by
    decide +kernel
  obtain ⟨mounted, p, link, mounts, connects, -⟩ := runPlain_of_run_ok rfl ok
  have plain :
      Plain.Succeeds twoWays.1 [.tick 5000] ⟨0, 0, ""⟩ twoWays.2.2.1 twoWays.2.2.2 mounted :=
    ⟨rfl, by decide, mounts, ⟨p, link, connects⟩, by decide +kernel⟩
  have posting : Posting.Succeeds twoWays.2.1 [] ⟨0, 0, ""⟩ twoWays.2.2.1 twoWays.2.2.2 mounted :=
    ⟨rfl, by decide, mounts, ⟨_, rfl⟩, by decide +kernel⟩
  have read : twoWays.2.2.1.flatten = Text.bytes "a \r\n\n b\n\t\nc" := by
    decide +kernel
  have ok' : (run twoWays.2.1 [] ⟨0, 0, ""⟩ (fed _ twoWays.2.2.1)
      twoWays.2.2.2.recorded).1.result = .ok ⟨3, 2, 5, 0, 0⟩ := by
    decide +kernel
  obtain ⟨stops, stops', alike⟩ := delivered_alike plain posting (.refl mounted) read read
  have light := mt stops.2 fun stopped => by cases stopped.symm.trans ok
  have light' := mt stops'.2 fun stopped => by cases stopped.symm.trans ok'
  exact ⟨ok, by decide +kernel, (alike light light').2.1.2⟩

def boundless : Config × List Bytes × World Peer Http.Scripted :=
  ({ Config.default with batchSize := Nat.pow 2 64 - 1 }, [Text.bytes "a\n"],
    { disk := .build [] [] []
      network := .new (.loopback 8081) true
      server := .new (.loopback 8088) true [] })

theorem not_delivered_of_plain_succeeds :
    ¬∀ (c : Config) (chunks : List Bytes) (text : String) (w : World Peer Http.Scripted)
      (mounted : Option Mounted), c.validate w.disk = .ok () →
      Plain.Succeeds c [] ⟨0, 0, ""⟩ chunks w mounted → chunks.flatten = Text.bytes text →
      (run c [] ⟨0, 0, ""⟩ (fed _ chunks) w.recorded).1.result =
        .ok (.complete (inputLines text).length (readable c w.disk).length) := by
  intro delivered
  have connects : ∃ p link, Plain.connect boundless.1 []
      (Tcp.new boundless.1.tcp (Recorded.start boundless.2.2.network)) = (.ok p, link) := by
    have seen : (Plain.connect boundless.1 []
        (Tcp.new boundless.1.tcp (Recorded.start boundless.2.2.network))).1.toOption.isSome := by
      decide +kernel
    rcases h : Plain.connect boundless.1 []
      (Tcp.new boundless.1.tcp (Recorded.start boundless.2.2.network)) with ⟨e | p, link⟩
    · rw [h] at seen
      cases seen
    · exact ⟨p, link, rfl⟩
  have plain : Plain.Succeeds boundless.1 [] ⟨0, 0, ""⟩ boundless.2.1 boundless.2.2 none :=
    ⟨rfl, by decide, rfl, connects, by decide +kernel⟩
  have := delivered boundless.1 boundless.2.1 "a\n" boundless.2.2 none (by decide +kernel) plain
    (by decide +kernel)
  cases (plain.panicked (.inr (by decide))).1.symm.trans this

end MetricRelay.Relay
