import MetricRelay.Proofs.Sender.Drain

namespace MetricRelay

namespace Sender

open Effect

variable {s s' t : Sender} {es : List Event} {id : CallId} {p : Phase}
  {x g : List (Request × Reply)} {v : List LinkState} {fx : List Effect} {tracker : Tracker}
  {alive : Bool}

def probing (s : Sender) (p : Phase) : Sender :=
  { s with
    nextId := s.nextId + 1
    stats := { s.stats with probes := s.stats.probes + 1 }
    holder := some (s.nextId, p) }

def greeting (s : Sender) : Phase := if s.connected then .checking else .connecting

theorem step_probe (free : s.holder = none) (alone : s.queue = []) (was_open : s.closed = false) :
    s.step (.start .probe) = some (s.probing s.greeting, [.asked s.nextId s.greeting]) := by
  let t : Sender := { s with nextId := s.nextId + 1 }
  have still_open : ¬ t.closed = true := by simp [t, was_open]
  have starts : s.start .probe = t.arrive s.nextId (.run .probe) :=
    (s.start_eq .probe).trans (if_neg still_open)
  have enters : t.arrive s.nextId (.run .probe) = t.enter s.nextId (.run .probe) :=
    arrive_of_free free alone
  rw [step, starts, enters, enter, if_neg still_open]
  · rfl
  · exact fun _ same => Op.noConfusion same

/-- What a probe has asked of the transport before it drains the buffer, whether the transport is
alive, and what was known of the link just before its last reply. -/
inductive Greeted (s : Sender) : List (Request × Reply) → Bool → Tracker → Prop
  | checks {r : Reply} (connected : s.connected = true) (ok : r.fault = none) :
    Greeted s [(.check, r)] true s.tracker
  | reconnects {r : Reply} (r' : Reply) (connected : s.connected = true)
      (failed : r.fault ≠ none) :
    Greeted s [(.check, r), (.connect, r')] r'.fault.isNone s.tracker.markDown.2
  | connects (r : Reply) (disconnected : s.connected = false) :
    Greeted s [(.connect, r)] r.fault.isNone s.tracker

section

-- What is asked after the greeting are writes.
variable (writing : ∀ q ∈ x, ∃ line, q.1 = .write line)
include writing

theorem notMem_of_writing {request : Request} (other : ∀ line, request ≠ .write line) :
    request ∉ x.map Prod.fst := by
  intro mem
  obtain ⟨q, asked, rfl⟩ := List.mem_map.1 mem
  obtain ⟨line, eq⟩ := writing q asked
  exact other line eq

theorem Greeted.check_iff (h : Greeted s g alive tracker) :
    .check ∈ (g ++ x).map Prod.fst ↔ s.connected = true := by
  have unchecked : .check ∉ x.map Prod.fst :=
    notMem_of_writing writing fun _ same => Request.noConfusion same
  rw [List.map_append, List.mem_append, or_iff_left unchecked]
  cases h <;> simp_all

theorem Greeted.count_connect (h : Greeted s g alive tracker) :
    ((g ++ x).map Prod.fst).count .connect ≤ 1 := by
  have unconnected : .connect ∉ x.map Prod.fst :=
    notMem_of_writing writing fun _ same => Request.noConfusion same
  rw [List.map_append, List.count_append, List.count_eq_zero.2 unconnected]
  cases h <;> simp

theorem Greeted.connect_iff (h : Greeted s g alive tracker) :
    .connect ∈ (g ++ x).map Prod.fst ↔
      s.connected = false ∨ ∃ r, (.check, r) ∈ g ++ x ∧ r.fault ≠ none := by
  have unchecked : .check ∉ x.map Prod.fst :=
    notMem_of_writing writing fun _ same => Request.noConfusion same
  have unconnected : .connect ∉ x.map Prod.fst :=
    notMem_of_writing writing fun _ same => Request.noConfusion same
  have early {r : Reply} : (.check, r) ∈ g ++ x ↔ (.check, r) ∈ g := by
    rw [List.mem_append, or_iff_left fun late => unchecked (List.mem_map_of_mem late)]
  simp only [List.map_append, List.mem_append, or_iff_left unconnected, early]
  cases h <;> simp_all

theorem Greeted.alive_iff (h : Greeted s g alive tracker) :
    alive = true ↔ ∃ q ∈ g ++ x, (q.1 = .check ∨ q.1 = .connect) ∧ q.2.fault = none := by
  have early : (∃ q ∈ g ++ x, (q.1 = .check ∨ q.1 = .connect) ∧ q.2.fault = none) ↔
      ∃ q ∈ g, (q.1 = .check ∨ q.1 = .connect) ∧ q.2.fault = none := by
    constructor
    · rintro ⟨q, mem, asked, ok⟩
      refine ⟨q, (List.mem_append.1 mem).resolve_right fun late => ?_, asked, ok⟩
      obtain ⟨line, eq⟩ := writing q late
      simp [eq] at asked
    · rintro ⟨q, mem, greets⟩
      exact ⟨q, List.mem_append_left _ mem, greets⟩
  rw [early]
  cases h <;> simp_all

theorem Greeted.all_written_iff (h : Greeted s g alive tracker) :
    (∀ q ∈ x, q.2.fault = none) ↔ ∀ line r, (.write line, r) ∈ g ++ x → r.fault = none := by
  have early (line : String) (r : Reply) : (.write line, r) ∉ g := by
    cases h <;> simp
  constructor
  · intro written line r mem
    exact written _ ((List.mem_append.1 mem).resolve_left (early line r))
  · intro written q mem
    obtain ⟨line, eq⟩ := writing q mem
    exact written line q.2 (List.mem_append_right _ (eq ▸ mem))

end

def proceed (s : Sender) (id : CallId) (alive : Bool) : Sender × List Effect :=
  if alive then s.recover id else s.markDown.finish id (.probed .down)

section

variable {r : Reply} {r' r'' : Sender × List Effect}

theorem revival_reply (holder : s.holder = some (id, p))
    (greets : p = .checking ∨ p = .connecting) :
    s.revival (.reply r) = if r.fault.isNone then [s.state] else [] := by
  obtain rfl | rfl := greets
  all_goals
    rw [revival, holder]
    cases r.fault <;> rfl

theorem Leads.reply (effects : List Effect) (holder : s.holder = some (id, p))
    (greets : p = .checking ∨ p = .connecting) (step : s.step (.reply r) = some r')
    (h : Leads r' es x v fx r'') :
    Leads (s, effects) (.reply r :: es) ((p.request, r) :: x)
      ((if r.fault.isNone then [s.state] else []) ++ v) (effects ++ fx) r'' := by
  have leads := Leads.cons (r := (s, effects)) step h
  rwa [exchange_reply holder, revival_reply holder greets] at leads

theorem leads_connecting (effects : List Effect) (holder : s.holder = some (id, .connecting))
    (r : Reply) :
    Leads (s, effects) [.reply r] [(.connect, r)] (if r.fault.isNone then [s.state] else []) effects
      (proceed { s with connected := r.connected } id r.fault.isNone) := by
  have step : s.step (.reply r) =
      some (proceed { s with connected := r.connected } id r.fault.isNone) := by
    simp only [Sender.step, holder]
    rfl
  have leads := Leads.reply effects holder (.inr rfl) step (.refl _)
  rwa [List.append_nil, List.append_nil] at leads

end

theorem greets (s : Sender) (rs : Stream' Reply) :
    ∃ g alive tracker p connected fx, Greeted s g alive tracker ∧
      g.map Prod.snd = rs.take g.length ∧ writes fx = [] ∧ returns fx = [] ∧
      Leads (s.probing s.greeting, [.asked s.nextId s.greeting]) (Event.replies rs g.length) g
        (if alive then [tracker.state] else []) fx
        (proceed { s.probing p with tracker, connected } s.nextId alive) := by
  cases connected : s.connected with
  | false =>
    have greeting : s.greeting = .connecting := by simp [Sender.greeting, connected]
    rw [greeting]
    exact ⟨_, _, _, .connecting, _, [.asked s.nextId .connecting], .connects rs.head connected, rfl,
      rfl, rfl, leads_connecting _ rfl rs.head⟩
  | true =>
    have greeting : s.greeting = .checking := by simp [Sender.greeting, connected]
    rw [greeting]
    by_cases ok : rs.head.fault = none
    · have step := step_reply_of_ok (s := s.probing .checking) rfl ok
      have leads := Leads.reply [.asked s.nextId .checking] rfl (.inl rfl) step (.refl _)
      rw [ok] at leads
      exact ⟨_, _, _, .checking, _, _, .checks connected ok, rfl, rfl, rfl, leads⟩
    · have step := step_reply_of_failed (s := s.probing .checking) rfl ok
      have leads := Leads.reply [.asked s.nextId .checking] rfl (.inl rfl) step
        (leads_connecting _ rfl rs.tail.head)
      rw [if_neg (by simpa using ok)] at leads
      exact ⟨_, _, _, .connecting, _, _, .reconnects rs.tail.head connected ok, rfl, rfl, rfl,
        leads⟩

/-- How a probe ends. It has found the transport alive or not, `x` is what it has asked of it since,
and the lines that it has not written are in the buffer as before. -/
structure Settles (s : Sender) (id : CallId) (alive : Bool) (x : List (Request × Reply))
    (fx : List Effect) (s' : Sender) : Prop where
  frame : Frame s s'
  free : s'.holder = none
  returned : returns fx = [(id, .probed s'.state)]
  asked : ∀ q ∈ x, ∃ line, q.1 = .write line
  backlog : writes fx ++ s'.buffer.toList = s.buffer.toList
  up_iff : s'.state = .up ↔ alive = true ∧ ∀ q ∈ x, q.2.fault = none
  emptied : s'.state = .up → s'.buffer.toList = []
  probes : s'.stats.probes = s.stats.probes
  reconnects : s'.stats.reconnects =
    s.stats.reconnects + if alive = true ∧ s.state = .down then 1 else 0

theorem reconnects_revived (s : Sender) :
    s.revived.stats.reconnects = s.stats.reconnects + if s.state = .down then 1 else 0 := by
  unfold revived state Tracker.markUp
  cases s.tracker.state <;> rfl

theorem Drains.state_eq {d : Sender} {k : Nat} {broken : Bool} (h : Drains s d k broken x fx)
    (up : s.state = .up) : (d.countDrained k broken).state = if broken then .down else .up := by
  cases broken with
  | true =>
    rw [state_countDrained (.inr rfl), state, h.tracker]
    rfl
  | false =>
    obtain rfl | written := k.eq_zero_or_pos
    · -- A drain without lines tells nothing of the link, which was up before it.
      rw [state_countDrained (.inl rfl), state, h.tracker]
      exact up
    · exact state_countDrained_of_written written

theorem Drains.settles {d : Sender} {k : Nat} {broken : Bool} (h : Drains s.revived d k broken x fx)
    (id : CallId) :
    let ending := d.endDrain id .probe k broken
    Settles s id true x (fx ++ ending.2) ending.1 := by
  intro ending
  have buffer : ending.1.buffer = d.buffer := (d.countDrained_fields k broken).1
  have state : ending.1.state = if broken then .down else .up := h.state_eq rfl
  have stats : ending.1.stats = { d.stats with drained := d.stats.drained + k } :=
    d.stats_countDrained k broken
  have turn : Turn d id (.run .probe) ending := turn_endDrain d id .probe k broken <| by
    rintro rfl
    exact h.emptied
  have frame : Frame s s.revived := ⟨rfl, rfl, rfl, rfl, rfl⟩
  refine ⟨(frame.trans h.frame).trans turn.frame, rfl, ?_, fun q => h.asked_write, ?_, ?_, ?_, ?_,
    ?_⟩
  · rw [returns_append, h.silent]
    rfl
  · have unwritten : writes ending.2 = [] := writes_endDrain ..
    rw [writes_append, unwritten, List.append_nil, h.written, buffer, h.left]
    exact List.take_append_drop ..
  · rw [state]
    cases broken with
    | true =>
      obtain ⟨q, mem, failed⟩ := h.broken_iff.1 rfl
      exact ⟨nofun, fun ⟨_, written⟩ => absurd (written q mem) failed⟩
    | false =>
      have written : ∀ q ∈ x, q.2.fault = none := fun q mem => by
        by_contra failed
        cases h.broken_iff.2 ⟨q, mem, failed⟩
      exact ⟨fun _ => ⟨rfl, written⟩, fun _ => rfl⟩
  · rw [state, buffer]
    cases broken with
    | true => exact nofun
    | false => exact fun _ => h.emptied
  · rw [stats, h.stats]
    rfl
  · rw [stats, h.stats]
    simpa using s.reconnects_revived

theorem settles_of_lost (s : Sender) (id : CallId) :
    Settles s id false [] (s.proceed id false).2 (s.proceed id false).1 where
  frame := ⟨rfl, rfl, rfl, rfl, rfl⟩
  free := rfl
  returned := rfl
  asked := List.forall_mem_nil _
  backlog := rfl
  up_iff := ⟨nofun, nofun⟩
  emptied := nofun
  probes := rfl
  reconnects := rfl

theorem settles (bounded : s.buffer.Bounded) (id : CallId) (alive : Bool) (rs : Stream' Reply) :
    ∃ x fx fx' s', Settles s id alive x (fx ++ fx') s' ∧ x.map Prod.snd = rs.take x.length ∧
      Leads (s.proceed id alive) (Event.replies rs x.length) x [] fx (s', fx') := by
  cases alive with
  | false => exact ⟨[], [], _, _, s.settles_of_lost id, rfl, .refl _⟩
  | true =>
    have proceeds : s.proceed id true = s.revived.pump id .probe 0 := s.recover_eq_pump id
    obtain ⟨d, k, broken, x, fx, drains, replies, leads⟩ :=
      drains_pump (s := s.revived) bounded id .probe 0 rs
    rw [proceeds]
    rw [Nat.zero_add] at leads
    exact ⟨x, fx, _, _, drains.settles id, replies, leads⟩

variable {s₀ : Sender} {first : List (Request × Reply)} {past : List Effect}

/-- A probe that is made of a sender at rest, whatever the transport replies. The call returns that
the link is up exactly if the transport is alive, at once or when connected anew, and took every
line of the backlog, and then the backlog is on the wire; else the first lines of it are on the wire
and the others in the buffer. A link that was down is counted as connected again as soon as the
transport is alive. -/
theorem probe_recovers (begun : Begun s₀ first) (run : s₀.run es = some (s, past))
    (idle : s.isIdle = true) (was_open : s.closed = false) (results : Stream' Reply) :
    ∃ (n : Nat) (s' : Sender) (fx : List Effect) (state : LinkState),
      let events := .start .probe :: Event.replies results n
      let x := s.exchanges events
      s.run events = some (s', fx) ∧ returns fx = [(s.nextId, .probed state)] ∧
      s'.isIdle = true ∧ s'.state = state ∧ x.map Prod.snd = results.take n ∧
      (.check ∈ x.map Prod.fst ↔ s.connected = true) ∧
      (x.map Prod.fst).count .connect ≤ 1 ∧
      (.connect ∈ x.map Prod.fst ↔
        s.connected = false ∨ ∃ r, (.check, r) ∈ x ∧ r.fault ≠ none) ∧
      (state = .up ↔
        (∃ q ∈ x, (q.1 = .check ∨ q.1 = .connect) ∧ q.2.fault = none) ∧
          ∀ line r, (.write line, r) ∈ x → r.fault = none) ∧
      (state = .up → s'.buffer.toList = [] ∧ writes fx = s.buffer.toList) ∧
      writes fx ++ s'.buffer.toList = s.buffer.toList ∧
      s'.stats.probes = s.stats.probes + 1 ∧
      s'.stats.reconnects =
        s.stats.reconnects + if .down ∈ s.revivals events then 1 else 0 := by
  have bounded := begun.bounded_run run
  obtain ⟨free, alone, retiring⟩ := isIdle_iff.1 idle
  obtain ⟨g, alive, tracker, p, connected, fx₁, greeted, replies, unwritten, silent, leads⟩ :=
    greets s results
  let t : Sender := { s.probing p with tracker, connected }
  obtain ⟨x', fx₂, fx₃, s', ends, replies', leads'⟩ :=
    settles (s := t) bounded s.nextId alive (results.drop g.length)
  -- The transport's replies to the greeting and to the drain are one sequence.
  have leads := leads.trans leads'
  rw [← Event.replies_add] at leads
  obtain ⟨run, asked, revived⟩ := leads.run_cons (step_probe free alone was_open)
  refine ⟨g.length + x'.length, s', fx₁ ++ fx₂ ++ fx₃, s'.state, ?_⟩
  intro events x
  have asked : x = g ++ x' := asked
  have revived : s.revivals events = if alive then [tracker.state] else [] := by
    rw [revived]
    simp [revival]
  rw [asked, revived]
  have gained : writes (fx₁ ++ fx₂ ++ fx₃) ++ s'.buffer.toList = s.buffer.toList := by
    rw [List.append_assoc, writes_append, unwritten, List.nil_append, ends.backlog]
    rfl
  refine ⟨run, ?_, ?_, rfl, ?_, greeted.check_iff ends.asked, greeted.count_connect ends.asked,
    greeted.connect_iff ends.asked, ?_, ?_, gained, ends.probes, ?_⟩
  · rw [List.append_assoc, returns_append, silent, ends.returned]
    rfl
  · have queue : s'.queue = [] := ends.frame.queue.trans alone
    exact isIdle_iff.2 ⟨ends.free, queue, ends.frame.retiring.trans retiring⟩
  · rw [List.map_append, replies, replies', Stream'.take_add]
  · rw [ends.up_iff, greeted.alive_iff ends.asked, greeted.all_written_iff ends.asked]
  · intro up
    rw [ends.emptied up, List.append_nil] at gained
    exact ⟨ends.emptied up, gained⟩
  · rw [ends.reconnects]
    have down : alive = true ∧ t.state = .down ↔
        .down ∈ if alive then [tracker.state] else [] := by
      cases alive <;> simp [t, state, eq_comm]
    simp only [down]
    rfl

theorem probe_recovers_interrupted :
    let es : List Event := [.markDown, .start (.send "a"), .start (.send "b"), .markUp]
    let results : Stream' Reply :=
      fun i => if i = 0 ∨ i = 3 then ⟨some .closed, true⟩ else ⟨none, true⟩
    ∃ (s₀ s s' t : Sender) (n : Nat) (past fx fx' : List Effect) (state : LinkState),
      Begun s₀ [(.connect, ⟨none, true⟩)] ∧ s₀.run es = some (s, past) ∧ s.isIdle = true ∧
      s.closed = false ∧ s.run (.start .probe :: Event.replies results n) = some (s', fx) ∧
      returns fx = [(s.nextId, .probed state)] ∧
      writes fx ++ s'.buffer.toList = ["a\n", "b\n"] ∧
      s'.stats.probes = s.stats.probes + 1 ∧
      s.run (.start .probe :: Event.replies results 4) = some (t, fx') ∧
      returns fx' = [(2, .probed .down)] ∧ writes fx' = ["a\n"] ∧ t.buffer.toList = ["b\n"] ∧
      t.stats.reconnects = s.stats.reconnects + 1 := by
  intro es results
  obtain ⟨s₀, built, seen⟩ : ∃ s₀,
      startConnected ⟨5000, 4, .dropOldest, 1⟩ "e" ⟨none, true⟩ = .ok s₀ ∧
      ((s₀.run es).bind fun r => (r.1.run (.start .probe :: Event.replies results 4)).map fun r' =>
        (r.1.isIdle && !r.1.closed, decide (returns r'.2 = [(2, .probed .down)]),
          [r.1.buffer.toList, writes r'.2, r'.1.buffer.toList],
          decide (r'.1.stats.reconnects = r.1.stats.reconnects + 1))) =
        some (true, true, [["a\n", "b\n"], ["a\n"], ["b\n"]], true) :=
    ⟨_, rfl, by decide +kernel⟩
  obtain ⟨⟨s, past⟩, run, seen⟩ := Option.bind_eq_some_iff.1 seen
  obtain ⟨⟨t, fx'⟩, ends, seen⟩ := Option.map_eq_some_iff.1 seen
  simp only [Prod.mk.injEq, Bool.and_eq_true, Bool.not_eq_true', decide_eq_true_eq,
    List.cons.injEq, and_true] at seen
  obtain ⟨⟨idle, was_open⟩, returned, ⟨lines, written, left⟩, reconnected⟩ := seen
  have begun : Begun s₀ [(.connect, ⟨none, true⟩)] := .connected built
  obtain ⟨n, s', fx, state, run', answer, -, -, -, -, -, -, -, -, backlog, probes, -⟩ :=
    probe_recovers begun run idle was_open results
  exact ⟨s₀, s, s', t, n, past, fx, fx', state, begun, run, idle, was_open, run', answer,
    backlog.trans lines, probes, ends, returned, written, left, reconnected⟩

end Sender

end MetricRelay
