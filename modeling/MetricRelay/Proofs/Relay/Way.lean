import MetricRelay.Relay.Run

namespace MetricRelay.Relay

variable {τ κ κ' : Type} [Carrier τ κ] [Carrier τ κ'] {f : κ → κ'}

/-- The carrier that `f` makes of another does what the other one does. -/
structure Alias (τ : Type) {κ κ' : Type} [Carrier τ κ] [Carrier τ κ'] (f : κ → κ') : Prop where
  change (g : τ → τ) (k : κ) : Carrier.change g (f k) = f (Carrier.change g k)
  obstacle (k : κ) : Carrier.obstacle τ (f k) = Carrier.obstacle τ k
  resume (lines : List String) (k : κ) :
    Carrier.resume τ lines (f k) = f (Carrier.resume τ lines k)
  deliver (lines : List String) (k : κ) :
    Carrier.deliver τ lines (f k) = (Carrier.deliver τ lines k).map id f
  finish (k : κ) : Carrier.finish τ (f k) = (Carrier.finish τ k).map id f
  notices (k : κ) : Carrier.notices τ (f k) = Carrier.notices τ k

def Progress.map (f : κ → κ') (p : Progress κ) : Progress κ' :=
  ⟨f p.carrier, p.restored, p.read, p.ended, p.stopped, p.fault⟩

def Reading.map (f : κ → κ') (r : Reading τ κ) : Reading τ κ' :=
  ⟨r.size, r.progress.map f, r.batch, r.spool, r.notices⟩

def Ended.map (f : κ → κ') (e : Ended κ) : Ended κ' := ⟨e.result, f e.carrier, e.spool, e.notices⟩

namespace Alias

variable (h : Alias τ f)

include h

theorem changes (changes : List (τ → τ)) (k : κ) :
    changes.foldl (fun k g => Carrier.change g k) (f k) =
      f (changes.foldl (fun k g => Carrier.change g k) k) := by
  induction changes generalizing k with
  | nil => rfl
  | cons g changes ih => rw [List.foldl_cons, List.foldl_cons, h.change, ih]

theorem advance (p : Progress κ) (r : Round τ) :
    (p.map f).advance r = (p.advance r).map f := by
  unfold Progress.advance Progress.map
  dsimp only
  rw [h.changes]
  split
  · rfl
  · split
    · rfl
    · rw [h.deliver]
      rfl

theorem take (r : Reading τ κ) (a : Arrival τ) : (r.map f).take a = (r.take a).map f := by
  unfold Reading.take
  by_cases ended : r.progress.ended = true
  · rw [if_pos ended]
    exact if_pos ended
  · rw [if_neg ended]
    refine (if_neg ended).trans ?_
    dsimp only [Reading.map]
    cases r.batch.add a with
    | inl batch => rfl
    | inr round => exact congrArg (Reading.mk _ · _ _ _) (h.advance r.progress round)

theorem foldl_take (input : List (Arrival τ)) (r : Reading τ κ) :
    input.foldl Reading.take (r.map f) = (input.foldl Reading.take r).map f := by
  induction input generalizing r with
  | nil => rfl
  | cons a input ih => rw [List.foldl_cons, List.foldl_cons, h.take, ih]

theorem close (r : Reading τ κ) : (r.map f).close = r.close.map f := by
  unfold Reading.close
  by_cases ended : r.progress.ended = true
  · rw [if_pos ended]
    exact if_pos ended
  · rw [if_neg ended]
    exact (if_neg ended).trans (h.advance r.progress _)

theorem end_ (stamp : Stamp) (r : Reading τ κ) :
    (r.map f).finish stamp = (r.finish stamp).map f := by
  unfold Reading.finish
  rw [h.close]
  rcases r.close with ⟨k, restored, read, ended, stopped, - | fault⟩
  · dsimp only [Progress.map]
    rw [h.finish]
    simp only [Prod.map, h.notices]
    rfl
  · rfl

theorem begin (size : Nat) (p : Progress κ) (spool : Option Spool) (notices : List Notice) :
    Reading.begin (τ := τ) size (p.map f) spool notices =
      (Reading.begin size p spool notices).map f := by
  unfold Reading.begin
  split
  · exact congrArg (Reading.mk _ · _ _ _) (h.advance p _)
  · rfl

theorem start (size : Nat) (k : κ) (spool : Option Spool) :
    Reading.start (τ := τ) size (f k) spool =
      match Reading.start (τ := τ) size k spool with
      | .error e => .error (e.map f)
      | .ok r => .ok (r.map f) := by
  unfold Reading.start
  rcases restore spool with ⟨lines | e | p, rest⟩
  · dsimp only
    simp only [h.obstacle]
    cases spool.bind fun _ => Carrier.obstacle τ k with
    | some p => rfl
    | none =>
      have begun : Progress.begin τ lines (f k) = (Progress.begin τ lines k).map f := by
        rw [Progress.begin, h.resume]
        rfl
      dsimp only
      rw [begun, h.begin]
      split
      · rfl
      · rfl
  · rfl
  · rfl

theorem relay (size : Nat) (stamp : Stamp) (input : List (Arrival τ)) (k : κ)
    (spool : Option Spool) :
    relay size stamp input (f k) spool = (relay size stamp input k spool).map f := by
  unfold Relay.relay
  rw [h.start]
  cases Reading.start (τ := τ) size k spool with
  | error e => rfl
  | ok r =>
    dsimp only
    rw [h.foldl_take, h.end_]

end Alias

variable {ν σ : Type} [Network ν] [Http.Server σ] {c : Config} {w : World ν σ}
  {mounted : Option Mounted}

theorem alias_link : Alias (Tcp ν) (Way.link : Plain (Tcp ν) → Way ν σ) :=
  ⟨fun _ _ => rfl, fun _ => rfl, fun _ _ => rfl, fun _ _ => rfl, fun _ => rfl, fun _ => rfl⟩

theorem alias_server : Alias (Tcp ν) (Way.server : Posting σ → Way ν σ) :=
  ⟨fun _ _ => rfl, fun _ => rfl, fun _ _ => rfl, fun _ _ => rfl, fun _ => rfl, fun _ => rfl⟩

theorem foldl_running_take (input : List (Arrival (Tcp ν))) (r : Running ν σ) :
    input.foldl Running.take r = { r with reading := input.foldl Reading.take r.reading } := by
  induction input generalizing r with
  | nil => rfl
  | cons a input ih => exact ih _

variable (moves : List Move) (stamp : Stamp) (input : List (Arrival (Tcp ν)))

theorem run_of_error {e : SpoolError} (h : mount c w.disk = .error e) :
    run c moves stamp input w = (⟨.error (.spool e), []⟩, w) := by
  unfold run Running.start
  rw [h]

theorem run_of_panicked {p : Panic} (h : mount c w.disk = .panicked p) :
    run c moves stamp input w = (⟨.panicked p, []⟩, w) := by
  unfold run Running.start
  rw [h]

theorem run_eq_relay (mounts : mount c w.disk = .ok mounted) :
    run c moves stamp input w =
      match Way.enter c moves
        { w with disk := unmount w.disk mounted (mounted.map (·.spool)) } with
      | (.error e, w) => (⟨.error e, []⟩, w)
      | (.ok way, w) =>
        Running.leave w mounted (relay c.batchSize stamp input way (mounted.map (·.spool))) := by
  unfold run Running.start relay
  rw [mounts]
  dsimp only
  rcases Way.enter c moves { w with disk := unmount w.disk mounted (mounted.map (·.spool)) } with
    ⟨e | way, w⟩
  · rfl
  · dsimp only
    cases Reading.start (τ := Tcp ν) c.batchSize way (mounted.map (·.spool)) with
    | error e => rfl
    | ok reading =>
      dsimp only
      rw [foldl_running_take]
      rfl

def leftOn (d : Disk) (mounted : Option Mounted) (spool : Option Spool) : Disk :=
  unmount (unmount d mounted (mounted.map (·.spool))) mounted spool

theorem run_link (viaHttp : c.viaHttp = false) (mounts : mount c w.disk = .ok mounted) :
    run c moves stamp input w =
      match Plain.connect c moves (Tcp.new c.tcp w.network) with
      | (.error e, link) =>
        (⟨.error (.sender e), []⟩,
          ⟨unmount w.disk mounted (mounted.map (·.spool)), link.network, w.server⟩)
      | (.ok p, _) =>
        let e := relay c.batchSize stamp input p (mounted.map (·.spool))
        (⟨e.result, e.notices⟩,
          ⟨leftOn w.disk mounted e.spool, e.carrier.session.link.network, w.server⟩) := by
  rw [run_eq_relay moves stamp input mounts, Way.enter, viaHttp, if_neg Bool.false_ne_true]
  dsimp only
  rcases Plain.connect c moves (Tcp.new c.tcp w.network) with ⟨e | p, link⟩
  · rfl
  · dsimp only
    rw [alias_link.relay]
    rfl

theorem run_server (viaHttp : c.viaHttp = true) (mounts : mount c w.disk = .ok mounted) :
    run c moves stamp input w =
      match Posting.new c w.server with
      | .error e =>
        (⟨.error (.http e), []⟩,
          { w with disk := unmount w.disk mounted (mounted.map (·.spool)) })
      | .ok p =>
        let e := relay c.batchSize stamp input p (mounted.map (·.spool))
        (⟨e.result, e.notices⟩,
          ⟨leftOn w.disk mounted e.spool, w.network, e.carrier.server⟩) := by
  rw [run_eq_relay moves stamp input mounts, Way.enter, if_pos viaHttp]
  dsimp only
  cases Posting.new c w.server with
  | error e => rfl
  | ok p =>
    dsimp only
    rw [alias_server.relay]
    rfl

end MetricRelay.Relay
