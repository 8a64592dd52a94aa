import MetricRelay.Http.Scripted
import MetricRelay.Proofs.Relay.History
import MetricRelay.Proofs.Relay.Plain
import MetricRelay.Proofs.Relay.Posting
import MetricRelay.Relay.Run
import MetricRelay.Transport.Peer

namespace MetricRelay.Relay

variable {τ σ : Type} {c : Config} {input : List (Arrival τ)} {spool : Option Spool} {r : Round τ}

namespace Plain

variable [Transport τ] {moves : List Move} {link : τ} {k : Plain τ}

def attempts (k : Plain τ) (r : Round τ) : List (String × MetricRelay.Outcome) :=
  Batch.log Session.send k.tolerant r.handed k.session

def history (c : Config) (moves : List Move) (input : List (Arrival τ)) (spool : Option Spool)
    (link : τ) : List (Plain τ × Round τ) :=
  Relay.history c.batchSize input spool (connect c moves link).1

theorem tolerant_deliver (k : Plain τ) (lines : List String) :
    (Carrier.deliver τ lines k).2.tolerant = k.tolerant := by
  simp only [Carrier.deliver]
  split <;> rfl

theorem tolerant_connect (h : (connect c moves link).1 = .ok k) : k.tolerant = !c.failFast := by
  obtain ⟨s, -, rfl⟩ := connect_ok (Prod.ext h rfl)
  rfl

theorem tolerant_of_mem_history (mem : (k, r) ∈ history c moves input spool link) :
    k.tolerant = !c.failFast :=
  of_mem_history (P := fun k => k.tolerant = !c.failFast) (fun _ h => tolerant_connect h)
    (fun _ _ h => h) (fun _ _ h => h) (fun lines k h => (k.tolerant_deliver lines).trans h) mem

theorem attempts_spec (k : Plain τ) (r : Round τ) :
    (k.attempts r).map Prod.fst <+: r.handed ∧
      ((Carrier.deliver τ r.handed k).1 = false ↔ (k.attempts r).length < r.handed.length) ∧
      (k.tolerant = false → ∀ x ∈ (k.attempts r).dropLast, x.2 = .sent) := by
  obtain ⟨within, aborted, strict⟩ := Batch.log_spec Session.send k.tolerant r.handed k.session
  refine ⟨within, ?_, strict⟩
  rw [deliver_fst, aborted, Bool.not_eq_false', decide_eq_true_eq]
  rfl

theorem attempts_of_failure {sent rest : List (String × MetricRelay.Outcome)} {line : String}
    {outcome : MetricRelay.Outcome} (strict : k.tolerant = false)
    (e : k.attempts r = sent ++ (line, outcome) :: rest) (failed : outcome ≠ .sent) :
    rest = [] ∧
      ((Carrier.deliver τ r.handed k).1 = false ↔ sent.length + 1 < r.handed.length) := by
  obtain ⟨-, last, ended⟩ := k.attempts_spec r
  have none_ : rest = [] := by
    cases rest with
    | nil => rfl
    | cons next rest =>
      exact absurd (ended strict (line, outcome) (by rw [e]; simp)) failed
  refine ⟨none_, last.trans ?_⟩
  rw [e, none_, List.length_append, List.length_singleton]

end Plain

namespace Posting

variable {server : σ} {k : Posting σ}

theorem tolerant_new (h : new c server = .ok k) : k.tolerant = !c.failFast := by
  obtain ⟨client, rfl⟩ := new_ok h
  rfl

variable [Http.Server σ]

def history (c : Config) (input : List (Arrival τ)) (spool : Option Spool) (server : σ) :
    List (Posting σ × Round τ) :=
  Relay.history c.batchSize input spool (new c server)

theorem tolerant_post (k : Posting σ) (lines : List String) :
    (k.post lines).2.tolerant = k.tolerant := by
  unfold post
  dsimp only
  split <;> rfl

theorem deliver_fst (k : Posting σ) (lines : List String) :
    (Carrier.deliver τ lines k).1 = ((k.post lines).1 || k.tolerant) := by
  rw [← k.tolerant_post lines]
  simp only [Carrier.deliver]
  split
  · rename_i on
    exact on.symm
  · rename_i off
    exact (Bool.eq_false_iff.2 off).symm

theorem tolerant_deliver (k : Posting σ) (lines : List String) :
    (Carrier.deliver τ lines k).2.tolerant = k.tolerant := by
  rw [← k.tolerant_post lines]
  simp only [Carrier.deliver]
  split <;> rfl

theorem tolerant_resume (k : Posting σ) (lines : List String) :
    (Carrier.resume τ lines k).tolerant = k.tolerant := by
  simp only [Carrier.resume]
  generalize parts k.size lines = batches
  induction batches generalizing k with
  | nil => rfl
  | cons batch batches ih => exact (ih _).trans (k.tolerant_post batch)

theorem tolerant_of_mem_history (mem : (k, r) ∈ history c input spool server) :
    k.tolerant = !c.failFast :=
  of_mem_history (P := fun k => k.tolerant = !c.failFast) (fun _ h => tolerant_new h)
    (fun _ _ h => h) (fun lines k h => (k.tolerant_resume lines).trans h)
    (fun lines k h => (k.tolerant_deliver lines).trans h) mem

end Posting

variable [Transport τ] [Http.Server σ]

/-- A relay that is to tolerate no failure reads nothing more after a post that the server does not
take. Over a link, a line that is not sent at once is followed by no other line of its batch, and if
any was to follow then nothing more is read; else the relay goes on as if the line had been sent, as
long as there is input. -/
theorem after_eq_nil_iff_of_failFast (fast : c.failFast = true) (input : List (Arrival τ))
    (spool : Option Spool) :
    (∀ (moves : List Move) (link : τ) (before after : List (Plain τ × Round τ)) (k : Plain τ)
        (r : Round τ),
      Plain.history c moves input spool link = before ++ (k, r) :: after →
      ∃ later, rounds c.batchSize input = before.map Prod.snd ++ r :: later ∧
        (k.attempts r).map Prod.fst <+: r.handed ∧
        ∀ sent line outcome rest, k.attempts r = sent ++ (line, outcome) :: rest →
          outcome ≠ .sent → rest = [] ∧
            (after = [] ↔ later = [] ∨ sent.length + 1 < r.handed.length)) ∧
    ∀ (server : σ) (before after : List (Posting σ × Round τ)) (k : Posting σ) (r : Round τ),
      Posting.history c input spool server = before ++ (k, r) :: after → r.handed ≠ [] →
      ∃ later, rounds c.batchSize input = before.map Prod.snd ++ r :: later ∧
        (after = [] ↔ later = [] ∨
          ¬(Http.Server.exchange (k.client.posting r.handed) k.server).1.IsSuccess) := by
  refine ⟨fun moves link before after k r h => ?_, fun server before after k r h some_ => ?_⟩
  · obtain ⟨later, read, last⟩ := after_eq_nil_iff h
    have strict : k.tolerant = false :=
      (Plain.tolerant_of_mem_history (h ▸ List.mem_append_cons_self)).trans (by rw [fast]; rfl)
    refine ⟨later, read, (k.attempts_spec r).1, fun sent line outcome rest e failed => ?_⟩
    obtain ⟨none_, ends⟩ := Plain.attempts_of_failure strict e failed
    have some_ : r.handed ≠ [] := by
      have within := (k.attempts_spec r).1
      rintro empty
      rw [empty, e] at within
      simp at within
    refine ⟨none_, ?_⟩
    rw [last, ends]
    simp only [some_, false_or]
  · obtain ⟨later, read, last⟩ := after_eq_nil_iff h
    have strict : k.tolerant = false :=
      (Posting.tolerant_of_mem_history (h ▸ List.mem_append_cons_self)).trans (by rw [fast]; rfl)
    refine ⟨later, read, ?_⟩
    rw [last, Posting.deliver_fst, strict, Bool.or_false, Bool.eq_false_iff, ne_eq,
      Posting.post_fst_iff]
    simp only [some_, false_or]

def refusedAtOnce : Config × List (Arrival (Tcp Peer)) × Tcp Peer × Http.Scripted :=
  let c := { Config.default with batchSize := 2, failFast := true }
  (c, [.change fun t => { t with network := t.network.setFate .reset }, .line "a", .line "b",
      .line "c"],
    .new c.tcp (.new (.loopback 8081) true), .new (.loopback 8088) true [.status 500 []])

theorem after_eq_nil_iff_of_failFast_refusedAtOnce :
    let (c, input, link, server) := refusedAtOnce
    c.failFast = true ∧
      (∃ k r after, Plain.history c [] input none link = [] ++ (k, r) :: after ∧
        r.handed = ["a", "b"] ∧ k.attempts r = [] ++ ("a", .buffered) :: [] ∧ after = []) ∧
      ∃ k r after, Posting.history c input none server = [] ++ (k, r) :: after ∧
        r.handed = ["a", "b"] ∧
        (Http.Server.exchange (k.client.posting r.handed) k.server).1 = .status 500 [] ∧
        after = [] := by
  obtain ⟨plain, http⟩ := after_eq_nil_iff_of_failFast (c := refusedAtOnce.1) (σ := Http.Scripted)
    rfl refusedAtOnce.2.1 none
  have begun : (Plain.history refusedAtOnce.1 [] refusedAtOnce.2.1 none
      refusedAtOnce.2.2.1).head?.map (fun (k, r) => (r.handed, k.attempts r)) =
        some (["a", "b"], [("a", .buffered)]) := by
    decide +kernel
  have posted : (Posting.history refusedAtOnce.1 refusedAtOnce.2.1 none
      refusedAtOnce.2.2.2).head?.map (fun (k, r) =>
        (r.handed, (Http.Server.exchange (k.client.posting r.handed) k.server).1)) =
        some (["a", "b"], .status 500 []) := by
    decide +kernel
  refine ⟨rfl, ?_, ?_⟩
  · obtain ⟨⟨k, r⟩, first, e⟩ := Option.map_eq_some_iff.1 begun
    obtain ⟨after, h⟩ := List.head?_eq_some_iff.1 first
    obtain ⟨handed, attempts⟩ := Prod.mk.inj e
    obtain ⟨later, -, -, failure⟩ := plain [] _ [] after k r h
    obtain ⟨-, last⟩ := failure [] "a" .buffered [] attempts (by decide)
    exact ⟨k, r, after, h, handed, attempts, last.2 (.inr (by rw [handed]; decide))⟩
  · obtain ⟨⟨k, r⟩, first, e⟩ := Option.map_eq_some_iff.1 posted
    obtain ⟨after, h⟩ := List.head?_eq_some_iff.1 first
    obtain ⟨handed, answer⟩ := Prod.mk.inj e
    obtain ⟨later, -, last⟩ := http _ [] after k r h (by rw [handed]; decide)
    exact ⟨k, r, after, h, handed, answer,
      last.2 (.inr (by rw [answer]; simp [Http.Answer.IsSuccess]))⟩

def brokenLink : Config × List (Arrival (Tcp Peer)) × Tcp Peer :=
  let c := { Config.default with batchSize := 1, failFast := true }
  (c, [.line "a", .change fun t => { t with network := t.network.setFate .reset }, .line "b",
      .line "c"],
    .new c.tcp (.new (.loopback 8081) true))

theorem not_last_of_failFast :
    ¬∀ (c : Config) (d : Disk) (moves : List Move) (input : List (Arrival (Tcp Peer)))
      (spool : Option Spool) (link : Tcp Peer) (before after : List (Plain (Tcp Peer) × Round _))
      (k : Plain (Tcp Peer)) (r : Round (Tcp Peer)),
      c.validate d = .ok () → c.viaHttp = false → c.failFast = true →
      Plain.history c moves input spool link = before ++ (k, r) :: after →
      ∀ line outcome, (line, outcome) ∈ k.attempts r → outcome ≠ .sent → after = [] := by
  intro last
  have attempts : (Plain.history brokenLink.1 [] brokenLink.2.1 none brokenLink.2.2).map
      (fun x => x.1.attempts x.2) =
        [[("a", .sent)]] ++ [("b", .buffered)] :: [[("c", .buffered)], []] := by
    decide +kernel
  obtain ⟨before, rest, h, -, e⟩ := List.map_eq_append_iff.1 attempts
  obtain ⟨⟨k, r⟩, after, rfl, failed, e⟩ := List.map_eq_cons_iff.1 e
  have mem : ("b", .buffered) ∈ k.attempts r := failed ▸ List.mem_singleton_self _
  have none_ := last brokenLink.1 (.build [] [] []) [] _ none _ before after k r
    (by decide +kernel) rfl rfl h "b" .buffered mem (by decide)
  rw [none_] at e
  cases e

end MetricRelay.Relay
