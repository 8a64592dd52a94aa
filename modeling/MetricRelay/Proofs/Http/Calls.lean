import Mathlib.Algebra.GroupWithZero.Nat
import MetricRelay.Http.Scripted
import MetricRelay.Proofs.Command.Ending
import MetricRelay.Proofs.Http.Recorded

namespace MetricRelay

namespace Text

def missing (line : String) : List Char := if line.toList.getLast? = some '\n' then [] else ['\n']

theorem endsWith_lineFeed_iff (line : String) :
    line.endsWith "\n" = true ↔ line.toList.getLast? = some '\n' := by
  rw [String.endsWith, String.Slice.endsWith_string_iff, String.copy_toSlice,
    List.getLast?_eq_some_iff]
  exact exists_congr fun front => eq_comm

theorem toList_terminated (line : String) :
    (terminated line).toList = line.toList ++ missing line := by
  unfold terminated missing
  simp only [endsWith_lineFeed_iff]
  split
  · rw [List.append_nil]
  · rw [String.toList_push]

theorem missing_compose (c : Command) : missing c.compose = [] := by
  rw [missing, c.toList_compose, List.getLast?_concat, if_pos rfl]

end Text

namespace Http

/-- What a client can be called for. -/
inductive Call
  | commands (l : List Command)
  | lines (l : List String)
  | health

namespace Call

def asks : Call → Bool
  | commands l => !l.isEmpty
  | lines l => !l.isEmpty
  | health => true

def texts : Call → List String
  | commands l => l.map Command.compose
  | lines l => l
  | health => []

def request (c : Client) : Call → Request
  | health => c.request .get c.versionUrl none ""
  | call =>
    c.request .post c.commandUrl (some "text/plain; charset=utf-8")
      (String.ofList (call.texts.flatMap fun line => line.toList ++ Text.missing line))

end Call

def Stats.note (s : Stats) (success : Bool) (count : Nat) : Stats :=
  { s.record success with posted := s.posted + if success then count else 0 }

/-- A call, what came of it and what it asked the server, with the answers. -/
structure Visit where
  call : Call
  result : Except Error Unit
  asked : List (Request × Answer)

/-- A call asks the server once and goes well if the answer tells of success, or it asks for nothing
and goes well. -/
structure Visit.Right (c : Client) (v : Visit) : Prop where
  idle : v.call.asks = false → v.asked = [] ∧ v.result = .ok ()
  asking : v.call.asks = true →
    ∃ answer, v.asked = [(v.call.request c, answer)] ∧ (v.result = .ok () ↔ answer.IsSuccess)

/-- What the visits in a row have added to the counters. -/
structure Stats.Adds (s s' : Stats) (visits : List Visit) : Prop where
  total : s'.total = s.total + (visits.flatMap Visit.asked).length
  successful :
    s'.successful = s.successful + (visits.flatMap Visit.asked).countP (·.2.IsSuccess)
  failed : s'.failed = s.failed + (visits.flatMap Visit.asked).countP (¬·.2.IsSuccess)
  posted : s'.posted =
    s.posted + ((visits.filter (·.result.isOk)).map (·.call.texts.length)).sum

theorem Stats.Adds.cons {s s' s'' : Stats} {v : Visit} {visits : List Visit} (h : s.Adds s' [v])
    (h' : s'.Adds s'' visits) : s.Adds s'' (v :: visits) := by
  obtain ⟨total, successful, failed, posted⟩ := h
  rw [List.flatMap_singleton] at total successful failed
  refine ⟨?_, ?_, ?_, ?_⟩
  · rw [h'.total, total, List.flatMap_cons, List.length_append, Nat.add_assoc]
  · rw [h'.successful, successful, List.flatMap_cons, List.countP_append, Nat.add_assoc]
  · rw [h'.failed, failed, List.flatMap_cons, List.countP_append, Nat.add_assoc]
  · rw [h'.posted, posted]
    by_cases ok : v.result.isOk = true <;> simp [ok, Nat.add_assoc]

structure Course (σ : Type) where
  visits : List Visit
  client : Client
  server : Recorded σ

namespace Client

variable {σ : Type} [Server σ]

def call (c : Client) (server : σ) : Call → Except Error Unit × Client × σ
  | .commands l => c.sendCommands l server
  | .lines l => c.sendLines l server
  | .health => c.health server

def visit (c : Client) (server : Recorded σ) (call : Call) : Visit :=
  let (result, _, server') := c.call server call
  ⟨call, result, server'.record.drop server.record.length⟩

def follow (c : Client) (server : Recorded σ) : List Call → Course σ
  | [] => ⟨[], c, server⟩
  | call :: calls =>
    let (_, c', server') := c.call server call
    let rest := c'.follow server' calls
    { rest with visits := c.visit server call :: rest.visits }

section Call

variable (c : Client) (server : σ)

theorem client_execute (what : String) (r : Request) :
    (c.execute what r server).2.1 =
      { c with stats := c.stats.record (decide (Server.exchange r server).1.IsSuccess) } := by
  unfold execute
  rcases Server.exchange r server with ⟨answer, server'⟩
  cases answer with
  | timeout => rfl
  | broken => rfl
  | status code body =>
    dsimp only
    by_cases success : 200 ≤ code ∧ code < 300
    · simp [Status.isSuccess, Answer.IsSuccess, success]
    · simp [Status.isSuccess, Answer.IsSuccess, success]

structure Asked (r : Request) (count : Nat) (outcome : Except Error Unit × Client × σ) : Prop where
  result : outcome.1 = .ok () ↔ (Server.exchange r server).1.IsSuccess
  client : outcome.2.1 =
    { c with stats := c.stats.note (decide (Server.exchange r server).1.IsSuccess) count }
  server : outcome.2.2 = (Server.exchange r server).2

theorem asked_execute (what : String) (r : Request) :
    Asked c server r 0 (c.execute what r server) where
  result := c.execute_ok_iff what r server
  client := by
    rw [client_execute, Stats.note, ite_self]
    rfl
  server := c.server_execute what r server

theorem asked_post (body : String) {count : Nat} (some_ : count ≠ 0) :
    Asked c server (c.request .post c.commandUrl (some "text/plain; charset=utf-8") body) count
      (c.post body count server) := by
  obtain ⟨result, client, server_⟩ := c.asked_execute server "Command post"
    (c.request .post c.commandUrl (some "text/plain; charset=utf-8") body)
  unfold post
  rw [if_neg some_]
  dsimp only
  generalize c.execute "Command post" _ server = outcome at result client server_ ⊢
  rcases outcome with ⟨e | _, c', server'⟩
  · have failed := result.not.1 (nomatch ·)
    refine ⟨result, ?_, server_⟩
    simpa [Stats.note, failed] using client
  · have success := result.1 rfl
    refine ⟨result, ?_, server_⟩
    obtain rfl : c' = _ := client
    simp [Stats.note, success]

theorem request_lines (l : List String) : (Call.lines l).request c = c.posting l := by
  refine congrArg (c.request _ _ _) (String.toList_inj.1 ?_)
  rw [String.toList_join, String.toList_ofList, List.flatMap_map]
  exact List.flatMap_congr fun line _ => (Text.toList_terminated line).symm

theorem request_commands (l : List Command) :
    (Call.commands l).request c = c.request .post c.commandUrl (some "text/plain; charset=utf-8")
      (String.join (l.map Command.compose)) := by
  refine congrArg (c.request _ _ _) (String.toList_inj.1 ?_)
  rw [String.toList_join, String.toList_ofList, Call.texts, List.flatMap_map, List.flatMap_map]
  exact List.flatMap_congr fun command _ => by rw [Text.missing_compose, List.append_nil]

theorem call_of_not_asks {call : Call} (idle : call.asks = false) :
    c.call server call = (.ok (), c, server) := by
  cases call with
  | commands l =>
    obtain rfl : l = [] := by simpa [Call.asks] using idle
    rfl
  | lines l =>
    obtain rfl : l = [] := by simpa [Call.asks] using idle
    rfl
  | health => cases idle

theorem asked_call {call : Call} (asks : call.asks = true) :
    Asked c server (call.request c) call.texts.length (c.call server call) := by
  cases call with
  | commands l =>
    rw [request_commands, Call.texts, List.length_map]
    exact c.asked_post server _ (by simpa [Call.asks] using asks)
  | lines l =>
    rw [request_lines, Call.texts]
    exact c.asked_post server _ (by simpa [Call.asks] using asks)
  | health => exact c.asked_execute server "Health check" _

end Call

theorem isOk_iff {x : Except Error Unit} : x.isOk = true ↔ x = .ok () := by
  cases x <;> simp [Except.isOk, Except.toBool]

section Course

variable (c : Client) (s : Recorded σ) (call : Call)

theorem visit_of_not_asks (idle : call.asks = false) : c.visit s call = ⟨call, .ok (), []⟩ := by
  rw [visit, c.call_of_not_asks s idle]
  dsimp only
  rw [List.drop_length]

theorem asked_visit (asks : call.asks = true) :
    (c.visit s call).asked =
      [(call.request c, (Server.exchange (call.request c) s).1)] := by
  rw [visit]
  dsimp only
  rw [(c.asked_call s asks).server]
  exact List.drop_left

theorem right_visit : (c.visit s call).Right c where
  idle idle := by
    rw [c.visit_of_not_asks s call idle]
    exact ⟨rfl, rfl⟩
  asking asks := ⟨_, c.asked_visit s call asks, (c.asked_call s asks).result⟩

theorem record_call :
    (c.call s call).2.2.record = s.record ++ (c.visit s call).asked := by
  cases asks : call.asks with
  | false => rw [c.visit_of_not_asks s call asks, c.call_of_not_asks s asks, List.append_nil]
  | true =>
    rw [c.asked_visit s call asks, (c.asked_call s asks).server]
    rfl

theorem client_call :
    (c.call s call).2.1 = { c with stats := (c.call s call).2.1.stats } := by
  cases asks : call.asks with
  | false => rw [c.call_of_not_asks s asks]
  | true => rw [(c.asked_call s asks).client]

theorem adds_visit : c.stats.Adds (c.call s call).2.1.stats [c.visit s call] := by
  cases asks : call.asks with
  | false =>
    have nothing : call.texts = [] := by
      cases call <;> simp_all [Call.asks, Call.texts]
    rw [c.visit_of_not_asks s call asks, c.call_of_not_asks s asks]
    refine ⟨rfl, rfl, rfl, ?_⟩
    simp [nothing, Except.isOk, Except.toBool]
  | true =>
    obtain ⟨result, client, -⟩ := c.asked_call s asks
    have asked := c.asked_visit s call asks
    have ok : (c.visit s call).result.isOk =
        decide (Server.exchange (call.request c) s).1.IsSuccess :=
      Bool.eq_iff_iff.2 (isOk_iff.trans (result.trans decide_eq_true_iff.symm))
    have size : (c.visit s call).call.texts.length = call.texts.length := rfl
    rw [client]
    by_cases success : (Server.exchange (call.request c) s).1.IsSuccess
    · refine ⟨?_, ?_, ?_, ?_⟩ <;> simp [asked, ok, size, success, Stats.note, Stats.record]
    · refine ⟨?_, ?_, ?_, ?_⟩ <;> simp [asked, ok, success, Stats.note, Stats.record]

theorem follow_cons (calls : List Call) :
    c.follow s (call :: calls) =
      let rest := (c.call s call).2.1.follow (c.call s call).2.2 calls
      { rest with visits := c.visit s call :: rest.visits } := rfl

theorem follow_spec (calls : List Call) :
    let course := c.follow s calls
    course.visits.map Visit.call = calls ∧ (∀ v ∈ course.visits, v.Right c) ∧
      course.server.record = s.record ++ course.visits.flatMap Visit.asked ∧
      c.stats.Adds course.client.stats course.visits := by
  induction calls generalizing c s with
  | nil =>
    refine ⟨rfl, List.forall_mem_nil _, (List.append_nil _).symm, ⟨?_, ?_, ?_, ?_⟩⟩ <;> rfl
  | cons call calls ih =>
    obtain ⟨calls_eq, right, record, adds⟩ := ih (c.call s call).2.1 (c.call s call).2.2
    rw [follow_cons]
    refine ⟨congrArg (call :: ·) calls_eq, ?_, ?_, (c.adds_visit s call).cons adds⟩
    · refine List.forall_mem_cons.2 ⟨c.right_visit s call, fun v mem => ?_⟩
      have := right v mem
      rw [client_call] at this
      exact ⟨this.idle, this.asking⟩
    · rw [List.flatMap_cons, ← List.append_assoc, ← record_call]
      exact record

theorem countP_asks {visits : List Visit} (right : ∀ v ∈ visits, v.Right c) :
    (visits.map Visit.call).countP Call.asks = (visits.flatMap Visit.asked).length := by
  induction visits with
  | nil => rfl
  | cons v visits ih =>
    obtain ⟨first, others⟩ := List.forall_mem_cons.1 right
    rw [List.map_cons, List.countP_cons, ih others, List.flatMap_cons, List.length_append,
      Nat.add_comm]
    congr 1
    cases asks : v.call.asks with
    | false => rw [(first.idle asks).1]; rfl
    | true =>
      obtain ⟨answer, asked, -⟩ := first.asking asks
      rw [asked]
      rfl

end Course

theorem stats_new {config : Config} {c : Client} (made : new config = .ok c) : c.stats = .zero := by
  unfold new at made
  split at made
  · cases made
  · dsimp only at made
    split at made
    · cases made
    · cases made
      rfl

/-- Of the calls of a client that has been made, each asks the server for one thing, or for nothing
if it is to post no lines, and goes well if it asks for nothing or the answer tells of success. The
counters are the number of requests, of answers that tell of success and of others, and of lines in
the posts that went well. -/
theorem stats_of_new {config : Config} {c : Client} (made : new config = .ok c) (calls : List Call)
    (server : σ) :
    let course := c.follow (.start server) calls
    let stats := course.client.stats
    course.visits.map Visit.call = calls ∧ (∀ v ∈ course.visits, v.Right c) ∧
      course.server.record = course.visits.flatMap Visit.asked ∧
      stats.total = stats.successful + stats.failed ∧ stats.total = calls.countP Call.asks ∧
      stats.successful = course.server.record.countP (·.2.IsSuccess) ∧
      stats.posted = ((course.visits.filter (·.result.isOk)).map (·.call.texts.length)).sum := by
  obtain ⟨calls_eq, right, record, adds⟩ := c.follow_spec (.start server) calls
  rw [stats_new made] at adds
  obtain ⟨total, successful, failed, posted⟩ := adds
  replace record := record.trans (List.nil_append _)
  have all := c.countP_asks right
  rw [calls_eq] at all
  rw [Stats.zero, Nat.zero_add] at total successful failed posted
  refine ⟨calls_eq, right, record, ?_, total.trans all.symm, by rw [successful, ← record], posted⟩
  rw [total, successful, failed,
    List.length_eq_countP_add_countP fun x : Request × Answer => decide x.2.IsSuccess]
  simp only [decide_eq_true_eq]

def mixed : List Answer × List Call :=
  ([.status 200 [], .status 204 [], .status 500 [], .timeout, .broken],
    [.health, .lines ["a", "b\n"], .lines [], .health, .lines ["c"],
      .commands [.message ⟨⟨"h", by decide⟩, none, none, none, none, .empty, "m"⟩], .lines ["d"]])

theorem stats_of_new_mixed :
    ∃ c, new .default = .ok c ∧
      let course := c.follow (.start (Scripted.new (.loopback 8088) true mixed.1)) mixed.2
      let stats := course.client.stats
      stats.total = 6 ∧ stats.successful = 3 ∧ stats.failed = 3 ∧ stats.posted = 3 ∧
        (∀ v ∈ course.visits, v.Right c) ∧
        course.server.bodies = ["", "a\nb\n", "", "c\n", "message e:h m:m\n", "d\n"] := by
  have seen : (new .default).toOption.map (fun c =>
      let course := c.follow (.start (Scripted.new (.loopback 8088) true mixed.1)) mixed.2
      (course.client.stats.failed, course.server.record.countP (·.2.IsSuccess),
        ((course.visits.filter (·.result.isOk)).map (·.call.texts.length)).sum,
        course.server.bodies)) =
      some (3, 3, 3, ["", "a\nb\n", "", "c\n", "message e:h m:m\n", "d\n"]) := by
    decide +kernel
  cases made : new .default with
  | error e =>
    rw [made] at seen
    cases seen
  | ok c =>
    rw [made] at seen
    simp only [Except.toOption, Option.map_some, Option.some.injEq, Prod.mk.injEq] at seen
    obtain ⟨failed, successful, posted, bodies⟩ := seen
    obtain ⟨-, right, -, sum, total, successes, posts⟩ := stats_of_new made mixed.2
      (Scripted.new (.loopback 8088) true mixed.1)
    have asking : mixed.2.countP Call.asks = 6 := by decide
    exact ⟨c, rfl, total.trans asking, successes.trans successful, failed, posts.trans posted,
      right, bodies⟩

end Client

end Http

end MetricRelay
