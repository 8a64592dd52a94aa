import MetricRelay.Proofs.Http.Client
import MetricRelay.Proofs.Text.Lines

namespace MetricRelay.Http

structure Recorded (σ : Type) where
  server : σ
  record : List (Request × Answer)

namespace Recorded

variable {σ : Type}

def start (server : σ) : Recorded σ := ⟨server, []⟩

instance [Server σ] : Server (Recorded σ) where
  exchange r s :=
    let (answer, server) := Server.exchange r s.server
    (answer, ⟨server, s.record ++ [(r, answer)]⟩)

def Clean (s : Recorded σ) : Prop := ∀ x ∈ s.record, x.2.IsSuccess

def bodies (s : Recorded σ) : List String := s.record.map fun x => x.1.body

instance : DecidablePred (Clean (σ := σ)) :=
  fun s => inferInstanceAs (Decidable (∀ x ∈ s.record, x.2.IsSuccess))

end Recorded

namespace Client

def body (lines : List String) : String := String.join (lines.map terminated)

theorem body_ne_empty {lines : List String} (some_ : lines ≠ []) : body lines ≠ "" := by
  obtain ⟨line, rest, rfl⟩ := List.exists_cons_of_ne_nil some_
  simp [body, Text.terminated_ne_empty]

theorem join_map_body (batches : List (List String)) :
    String.join (batches.map body) = body batches.flatten := by
  induction batches with
  | nil => rfl
  | cons lines batches ih => simp [ih, body]

variable {σ : Type} [Server σ]

theorem server_execute (c : Client) (what : String) (r : Request) (server : σ) :
    (c.execute what r server).2.2 = (Server.exchange r server).2 := by
  unfold execute
  rcases Server.exchange r server with ⟨answer, server'⟩
  cases answer with
  | status code =>
    dsimp only
    split <;> rfl
  | broken | timeout => rfl

theorem server_sendLines (c : Client) {lines : List String} (some_ : lines ≠ []) (server : σ) :
    (c.sendLines lines server).2.2 = (Server.exchange (c.posting lines) server).2 := by
  have count : lines.length ≠ 0 := mt List.length_eq_zero_iff.1 some_
  rw [← c.server_execute "Command post", sendLines, post, if_neg count, posting]
  dsimp only
  rcases c.execute "Command post" _ server with ⟨e | _, c', server'⟩ <;> rfl

theorem record_sendLines (c : Client) {lines : List String} (some_ : lines ≠ [])
    (server : Recorded σ) :
    (c.sendLines lines server).2.2.record =
      server.record ++ [(c.posting lines, (Server.exchange (c.posting lines) server).1)] := by
  rw [c.server_sendLines some_]
  rfl

end Client

end MetricRelay.Http
