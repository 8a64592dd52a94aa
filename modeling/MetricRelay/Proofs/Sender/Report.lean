import MetricRelay.Proofs.Sender.Advance
import MetricRelay.Proofs.Sender.Batch

namespace MetricRelay

namespace Sender

open Effect

/-- The call to send `line` comes in and returns `o`. Other things may happen before it, while it is
under way and after it, and `others` are the lines that other callers hand over. -/
inductive Call (s : Sender) (line : String) (o : Outcome) :
    List String → List Event → List Effect → Sender → Prop
  | intro {before after : List Event} {t s' : Sender} {fx fx' : List Effect}
      (comes : s.run before = some (t, fx))
      (goes : t.run (.start (.send line) :: after) = some (s', fx'))
      (returned : (t.nextId, .outcome o) ∈ returns fx') :
      Call s line o ((before ++ after).flatMap Event.lines)
        (before ++ .start (.send line) :: after) (fx ++ fx') s'

inductive Calls : Sender → List (String × Outcome) → List String → List Event → List Effect →
    Sender → Prop
  | nil (s : Sender) : Calls s [] [] [] [] s
  | cons {s t s' : Sender} {line : String} {o : Outcome} {log : List (String × Outcome)}
      {others others' : List String} {es es' : List Event} {fx fx' : List Effect}
      (call : Call s line o others es fx t) (rest : Calls t log others' es' fx' s') :
      Calls s ((line, o) :: log) (others ++ others') (es ++ es') (fx ++ fx') s'

variable {s s' : Sender} {line : String} {o : Outcome} {others : List String} {es : List Event}
  {fx : List Effect} {log : List (String × Outcome)}

theorem Call.run (h : Call s line o others es fx s') : s.run es = some (s', fx) := by
  cases h with
  | intro comes goes => exact run_append.2 ⟨_, _, _, comes, goes, rfl⟩

theorem Call.lines_perm (h : Call s line o others es fx s') :
    (es.flatMap Event.lines).Perm (terminated line :: others) := by
  cases h with
  | intro comes goes =>
    rw [List.flatMap_append, List.flatMap_append, List.flatMap_cons]
    exact List.perm_middle

theorem Calls.run (h : Calls s log others es fx s') : s.run es = some (s', fx) := by
  induction h with
  | nil s => rfl
  | cons call rest ih => exact run_append.2 ⟨_, _, _, call.run, ih, rfl⟩

theorem Calls.lines_perm (h : Calls s log others es fx s') :
    (es.flatMap Event.lines).Perm ((log.map Prod.fst).map terminated ++ others) := by
  induction h with
  | nil s => exact .refl _
  | cons call rest ih =>
    rw [List.flatMap_append]
    exact (call.lines_perm.append ih).trans ((List.perm_append_comm_assoc ..).cons _)

/-- Where the lines are that have come in. -/
def whereabouts (s : Sender) (past : List Effect) : List String :=
  (sending s.underway).map Prod.snd ++
    (writes past ++ (s.inHand ++ s.buffer.toList) ++ (takes past ++ discards past)) ++
    refusals past

theorem Calls.whereabouts_perm {s₀ : Sender} {came : List Event} {past : List Effect}
    (h : Calls s log others es fx s') (started : Started s₀)
    (run : s₀.run came = some (s, past)) :
    (s'.whereabouts (past ++ fx)).Perm
      (came.flatMap Event.lines ++ ((log.map Prod.fst).map terminated ++ others)) := by
  have whole : s₀.run (came ++ es) = some (s', past ++ fx) :=
    run_append.2 ⟨_, _, _, run, h.run, rfl⟩
  have perm := Sender.lines_perm started.blank whole
  rw [List.flatMap_append] at perm
  exact perm.symm.trans (h.lines_perm.append_left _)

end Sender

namespace Session

open Effect

variable {τ : Type} [Transport τ] {handed : List String} {s s' : Session τ}

theorem run_of_reaches (h : Reaches s s') :
    ∃ es fx, s.sender.run es = some (s'.sender, fx) ∧ s'.effects = s.effects ++ fx ∧
      es.flatMap Event.lines = [] := by
  induction h with
  | refl => exact ⟨[], [], rfl, (List.append_nil _).symm, rfl⟩
  | @tail b c _ last ih =>
    obtain ⟨es, fx, run, effects, silent⟩ := ih
    have onward {e : Event} {fx' : List Effect} (inner : e.isInner = true)
        (step : b.sender.step e = some (c.sender, fx')) (past : c.past = fx'.reverse ++ b.past) :
        ∃ es fx, s.sender.run es = some (c.sender, fx) ∧ c.effects = s.effects ++ fx ∧
          es.flatMap Event.lines = [] := by
      have next : b.sender.run [e] = some (c.sender, fx') :=
        Sender.run_cons.2 ⟨_, _, [], step, rfl, (List.append_nil _).symm⟩
      refine ⟨es ++ [e], fx ++ fx', Sender.run_append.2 ⟨_, _, _, run, next, rfl⟩, ?_, ?_⟩
      · rw [effects_eq past, effects, List.append_assoc]
      · rw [List.flatMap_append, silent, List.flatMap_singleton, Event.lines_of_isInner inner]
        rfl
    cases last with
    | still sender link past =>
      exact ⟨es, fx, sender ▸ run, by rw [Session.effects, past]; exact effects, silent⟩
    | event e inner unasked fx' step link past => exact onward inner step past
    | reply id p holder r served fx' step past => exact onward rfl step past

theorem Tended.call_send (h : Tended handed [] s) (line : String) :
    ∃ es fx, s.sender.Call line (s.send line).1 [] es fx (s.send line).2.sender := by
  obtain ⟨before, after⟩ := s.reaches_call (.send line)
  obtain ⟨es, fx, comes, settled, silent⟩ := run_of_reaches before
  obtain ⟨es', fx', goes, effects, silent'⟩ := run_of_reaches after
  obtain ⟨tended, -⟩ := h.settle s.moves
  have other (elapsed : ℕ) : Op.send line ≠ .tick elapsed := Op.noConfusion
  obtain ⟨job, -, step, past, -⟩ := tended.start other
  rw [effects_eq past, List.append_assoc] at effects
  have run := Sender.run_cons.2 ⟨_, _, _, step, goes, rfl⟩
  have returned := h.outcome_mem line
  rw [send_snd, effects, returns_append] at returned
  -- the numbers of the calls that returned before are smaller
  have new := (List.mem_append.1 returned).resolve_left fun old =>
    Nat.lt_irrefl _ (tended.attended.orderly.lt _
      (List.mem_append_right _ (List.mem_map_of_mem (f := Prod.fst) old)))
  have call := Sender.Call.intro comes run new
  rw [List.flatMap_append, silent, silent', ← send_snd] at call
  exact ⟨_, _, call⟩

theorem calls_send (line : String) (s : Session τ) (ready : ∃ handed, Tended handed [] s) :
    (∃ handed, Tended handed [] (s.send line).2) ∧ ∃ others es fx,
      s.sender.Call line (s.send line).1 others es fx (s.send line).2.sender := by
  obtain ⟨handed, tended⟩ := ready
  exact ⟨⟨_, tended.send line⟩, [], tended.call_send line⟩

end Session

namespace Batch

variable {σ : Type} {send : String → σ → Outcome × σ} {tolerant : Bool}

theorem dispatchFrom_logged_log (lines : List String) (r : BatchReport) (w : σ)
    (past : List (String × Outcome)) :
    (dispatchFrom (logged send) tolerant r lines (w, past)).2.2 =
      past ++ log send tolerant lines w := by
  have shift (r' : BatchReport) : (dispatchFrom (logged send) tolerant r lines (w, past)).2.2 =
      past ++ (dispatchFrom (logged send) tolerant r' lines (w, [])).2.2 := by
    induction lines generalizing r r' w past with
    | nil => exact (List.append_nil _).symm
    | cons line lines ih =>
      rw [dispatchFrom_logged_cons, dispatchFrom_logged_cons]
      by_cases on : (send line w).1 = .sent ∨ tolerant = true
      · rw [if_pos on, if_pos on, ih _ _ _ (r'.count (send line w).1),
          ih (r'.count (send line w).1) _ ([] ++ _) (r'.count (send line w).1), List.append_assoc,
          List.nil_append]
      · rw [if_neg on, if_neg on]
        rfl
  exact shift _

theorem log_cons (line : String) (lines : List String) (w : σ) :
    log send tolerant (line :: lines) w =
      (line, (send line w).1) ::
        if (send line w).1 = .sent ∨ tolerant = true then
          log send tolerant lines (send line w).2
        else [] := by
  rw [log, dispatch, dispatchFrom_logged_cons]
  split
  · rw [dispatchFrom_logged_log]
    rfl
  · rfl

theorem dispatchFrom_fst (lines : List String) (r : BatchReport) (w : σ) :
    let log := log send tolerant lines w
    (dispatchFrom send tolerant r lines w).1 =
      ⟨r.total, r.attempted + log.length, r.sent + log.countP (·.2 = .sent)⟩ := by
  induction lines generalizing r w with
  | nil => rfl
  | cons line lines ih =>
    have count (rest : List (String × Outcome)) :
        (r.count (send line w).1).sent + rest.countP (·.2 = .sent) =
          r.sent + ((line, (send line w).1) :: rest).countP (·.2 = .sent) := by
      rw [BatchReport.count, List.countP_cons]
      by_cases sent : (send line w).1 = .sent
      · simp only [sent, if_true, decide_true]
        omega
      · simp [sent]
    dsimp only
    rw [dispatchFrom_cons, log_cons]
    by_cases on : (send line w).1 = .sent ∨ tolerant = true
    · rw [if_pos on, if_pos on, ih, ← count]
      simp only [BatchReport.count, List.length_cons, Nat.add_assoc, Nat.add_comm 1]
    · rw [if_neg on, if_neg on, ← count]
      rfl

theorem dispatchFrom_snd (lines : List String) (r : BatchReport) (w : σ) :
    (dispatchFrom send tolerant r lines w).2 =
      (log send tolerant lines w).foldl (fun w x => (send x.1 w).2) w := by
  induction lines generalizing r w with
  | nil => rfl
  | cons line lines ih =>
    rw [dispatchFrom_cons, log_cons, List.foldl_cons]
    by_cases on : (send line w).1 = .sent ∨ tolerant = true
    · rw [if_pos on, if_pos on, ih]
    · rw [if_neg on, if_neg on]
      rfl

theorem log_take (lines : List String) (w : σ) :
    log send tolerant (lines.take (log send tolerant lines w).length) w =
      log send tolerant lines w := by
  induction lines generalizing w with
  | nil => rfl
  | cons line lines ih =>
    rw [log_cons, List.length_cons, List.take_succ_cons, log_cons]
    split
    · rw [ih]
    · rfl

variable (send tolerant)

theorem log_cases (lines : List String) (w : σ) :
    let log := log send tolerant lines w
    log.length = lines.length ∧ (tolerant = true ∨ ∀ x ∈ log, x.2 = .sent) ∨
      tolerant = false ∧ ∃ init line o, log = init ++ [(line, o)] ∧ o ≠ .sent ∧
        ∀ x ∈ init, x.2 = .sent := by
  induction lines generalizing w with
  | nil => exact .inl ⟨rfl, .inr (List.forall_mem_nil _)⟩
  | cons line lines ih =>
    dsimp only
    rw [log_cons]
    by_cases on : (send line w).1 = .sent ∨ tolerant = true
    · rw [if_pos on]
      obtain ⟨whole, clean⟩ | ⟨strict, init, last, o, split, unsent, before⟩ := ih (send line w).2
      · refine .inl ⟨congrArg (· + 1) whole, ?_⟩
        obtain sent | tolerant := on
        · exact clean.imp_right fun clean => List.forall_mem_cons.2 ⟨sent, clean⟩
        · exact .inl tolerant
      · have sent := on.resolve_right (by simp [strict])
        refine .inr ⟨strict, (line, (send line w).1) :: init, last, o, ?_, unsent, ?_⟩
        · rw [split]
          rfl
        · exact List.forall_mem_cons.2 ⟨sent, before⟩
    · rw [if_neg on]
      obtain ⟨unsent, strict⟩ := not_or.1 on
      exact .inr ⟨by simpa using strict, [], line, _, rfl, unsent, List.forall_mem_nil _⟩

theorem map_fst_log (lines : List String) (w : σ) :
    let log := log send tolerant lines w
    log.map Prod.fst = lines.take log.length := by
  obtain ⟨within, -⟩ := log_spec send tolerant lines w
  intro log
  rw [← List.length_map Prod.fst]
  exact List.prefix_iff_eq_take.1 within

theorem dispatch_fst (lines : List String) (w : σ) :
    let log := log send tolerant lines w
    (dispatch send tolerant lines w).1 =
      ⟨lines.length, log.length, log.countP (·.2 = .sent)⟩ := by
  intro log
  rw [dispatch, dispatchFrom_fst, Nat.zero_add, Nat.zero_add]

theorem countP_log_eq (lines : List String) (w : σ) :
    let log := log send tolerant lines w
    log.countP (·.2 = .sent) = lines.length ↔
      log.map Prod.fst = lines ∧ ∀ x ∈ log, x.2 = .sent := by
  have order := map_fst_log send tolerant lines w
  intro log
  have le : log.length ≤ lines.length := by
    rw [← List.length_map Prod.fst, order]
    exact List.length_take_le' ..
  have few : log.countP (·.2 = .sent) ≤ log.length := List.countP_le_length
  constructor
  · intro all
    have whole : log.length = lines.length := Nat.le_antisymm le (all ▸ few)
    refine ⟨order.trans ?_, fun x mem => ?_⟩
    · exact List.take_of_length_le (Nat.le_of_eq whole.symm)
    · exact of_decide_eq_true (List.countP_eq_length.1 (all.trans whole.symm) x mem)
  · rintro ⟨whole, sent⟩
    rw [List.countP_eq_length.2 fun x mem => decide_eq_true (sent x mem), ← whole,
      List.length_map]

variable {send}

section

variable {sender : σ → Sender} {P : σ → Prop}
  (calls : ∀ line w, P w → P (send line w).2 ∧ ∃ others es fx,
    (sender w).Call line (send line w).1 others es fx (sender (send line w).2))
include calls

theorem calls_log (lines : List String) {w : σ} (ready : P w) :
    let log := log send tolerant lines w
    ∃ others es fx, (sender w).Calls log others es fx
      (sender (log.foldl (fun w x => (send x.1 w).2) w)) := by
  induction lines generalizing w with
  | nil => exact ⟨[], [], [], .nil _⟩
  | cons line lines ih =>
    obtain ⟨ready, others, es, fx, call⟩ := calls line w ready
    dsimp only
    rw [log_cons, List.foldl_cons]
    split
    · obtain ⟨others', es', fx', rest⟩ := ih ready
      exact ⟨_, _, _, .cons call rest⟩
    · exact ⟨_, _, _, .cons call (.nil _)⟩

/-- A batch makes its calls in the order of its lines, each when the one before it has returned,
whatever state the sender is in and whatever else happens meanwhile. What it reports is what they
returned: it has attempted the lines that it handed over, and it counts those as sent that were. It
hands over all its lines, or ends with the first that was not sent if it tolerates none. The lines
that it does not hand over make no difference to anything, and of those that have come to the sender
by the end only the ones handed over are from the batch. A batch of commands is one of their lines. -/
theorem report_of_dispatch (lines : List String) {w : σ} (ready : P w) :
    let report := (dispatch send tolerant lines w).1
    let after := (dispatch send tolerant lines w).2
    let log := log send tolerant lines w
    (log.map Prod.fst = lines.take report.attempted ∧ ∃ others es fx,
        (sender w).Calls log others es fx (sender after) ∧
        ∀ s₀ came past, Sender.Started s₀ → s₀.run came = some (sender w, past) →
          ((sender after).whereabouts (past ++ fx)).Perm (came.flatMap Event.lines ++
            ((lines.take report.attempted).map terminated ++ others))) ∧
      (report.total = lines.length ∧ report.attempted = log.length ∧
        report.sent = log.countP (·.2 = .sent)) ∧
      (tolerant = true → report.attempted = report.total) ∧
      (tolerant = false → (∀ x ∈ log.dropLast, x.2 = .sent) ∧
        (report.attempted = report.sent ∧ report.sent = report.total ∨
          report.attempted = report.sent + 1 ∧ ∃ x, log.getLast? = some x ∧ x.2 ≠ .sent)) ∧
      (report.sent ≤ report.attempted ∧ report.attempted ≤ report.total) ∧
      (report.allSent = true ↔ log.map Prod.fst = lines ∧ ∀ x ∈ log, x.2 = .sent) ∧
      (report.aborted = true → report.allSent = false) ∧
      (dispatch send tolerant (lines.take report.attempted) w).2 = after ∧
      ∀ commands, commands.map Command.compose = lines →
        dispatchCommands send tolerant commands w = dispatch send tolerant lines w := by
  have fst := dispatch_fst send tolerant lines w
  have snd : (dispatch send tolerant lines w).2 = _ := dispatchFrom_snd lines _ w
  have order := map_fst_log send tolerant lines w
  have clean := countP_log_eq send tolerant lines w
  have ends := log_cases send tolerant lines w
  obtain ⟨others, es, fx, made⟩ := calls_log tolerant calls lines ready
  dsimp only at order clean ends made ⊢
  rw [fst, snd]
  generalize log_eq : log send tolerant lines w = log at *
  dsimp only
  have few : log.countP (·.2 = .sent) ≤ log.length := List.countP_le_length
  have within : log.length ≤ lines.length := by
    rw [← List.length_map Prod.fst, order]
    exact List.length_take_le' ..
  refine ⟨⟨order, others, es, fx, made, fun s₀ came past started run => ?_⟩, ⟨rfl, rfl, rfl⟩, ?_, ?_,
    ⟨few, within⟩, ?_, ?_, ?_, ?_⟩
  · rw [← order]
    exact made.whereabouts_perm started run
  · intro tolerant
    obtain ⟨whole, -⟩ | ⟨strict, -⟩ := ends
    · exact whole
    · cases tolerant.symm.trans strict
  · intro strict
    obtain ⟨whole, all⟩ | ⟨-, init, line, o, split, unsent, before⟩ := ends
    · have all := all.resolve_left (by simp [strict])
      have sent : log.countP (·.2 = .sent) = log.length :=
        List.countP_eq_length.2 fun x mem => decide_eq_true (all x mem)
      exact ⟨fun x mem => all x ((List.dropLast_sublist log).subset mem),
        .inl ⟨sent.symm, sent.trans whole⟩⟩
    · have sent : init.countP (·.2 = .sent) = init.length :=
        List.countP_eq_length.2 fun x mem => decide_eq_true (before x mem)
      refine ⟨?_, .inr ⟨?_, (line, o), ?_, unsent⟩⟩
      · rw [split, List.dropLast_concat]
        exact before
      · rw [split, List.length_append, List.countP_append, sent]
        simp [unsent]
      · rw [split, List.getLast?_concat]
  · exact beq_iff_eq.trans clean
  · intro aborted
    have short : log.length < lines.length := of_decide_eq_true aborted
    exact beq_false_of_ne (Nat.ne_of_lt (Nat.lt_of_le_of_lt few short))
  · have again : log = Batch.log send tolerant (lines.take log.length) w := by
      rw [← log_eq, log_take]
    rw [dispatch, dispatchFrom_snd, ← again]
  · rintro commands rfl
    rfl

end

theorem report_of_dispatch_stopped :
    let link := Wire.new { Switches.off with failOn := [2] }
    ∃ (s : Session Wire) (link' : Wire),
      Session.connect ⟨5000, 4, .dropOldest, 1⟩ "e" link [] = (.ok s, link') ∧
      let report := (dispatch Session.send false ["a", "b", "c"] s).1
      let after := (dispatch Session.send false ["a", "b", "c"] s).2
      report = ⟨3, 2, 1⟩ ∧ report.allSent = false ∧
      log Session.send false ["a", "b", "c"] s = [("a", .sent), ("b", .buffered)] ∧
      (∃ others es fx,
        s.sender.Calls [("a", .sent), ("b", .buffered)] others es fx after.sender ∧
        (after.sender.whereabouts fx).Perm (["a\n", "b\n"] ++ others)) := by
  intro link
  obtain ⟨s, link', connected, seen⟩ : ∃ (s : Session Wire) (link' : Wire),
      Session.connect ⟨5000, 4, .dropOldest, 1⟩ "e" link [] = (.ok s, link') ∧
      decide (log Session.send false ["a", "b", "c"] s = [("a", .sent), ("b", .buffered)]) =
        true := ⟨_, _, rfl, by decide +kernel⟩
  have seen := of_decide_eq_true seen
  have ready : ∃ handed, s.Tended handed [] := ⟨[], Session.tended_connect connected⟩
  have started : Sender.Started s.sender := by
    obtain ⟨reply, sender, -, started, rfl⟩ := Session.connect_ok connected
    exact .inl ⟨_, _, _, started⟩
  have reported := report_of_dispatch false Session.calls_send ["a", "b", "c"] ready
  refine ⟨s, link', connected, ?_⟩
  generalize dispatch Session.send false ["a", "b", "c"] s = result at reported ⊢
  obtain ⟨⟨total, attempted, sent⟩, after⟩ := result
  dsimp only at reported ⊢
  rw [seen] at reported ⊢
  obtain ⟨⟨-, others, es, fx, made, whereabouts⟩, ⟨rfl, rfl, rfl⟩, -, -, -, clean, -⟩ := reported
  refine ⟨rfl, Bool.eq_false_iff.2 fun all => ?_, rfl, others, es, fx, made, ?_⟩
  · cases (clean.1 all).1
  · have texts : ["a\n", "b\n"] = (["a", "b", "c"].take 2).map terminated := by decide +kernel
    rw [texts]
    exact whereabouts s.sender [] [] started rfl

end Batch

end MetricRelay
