import MetricRelay.Http.Client

namespace MetricRelay.Http

def Answer.IsSuccess : Answer → Prop
  | .status code _ => 200 ≤ code ∧ code < 300
  | .broken => False
  | .timeout => False

instance : DecidablePred Answer.IsSuccess
  | .status code _ => inferInstanceAs (Decidable (200 ≤ code ∧ code < 300))
  | .broken => isFalse id
  | .timeout => isFalse id

namespace Client

variable {σ : Type} [Server σ]

theorem execute_ok_iff (c : Client) (what : String) (r : Request) (server : σ) :
    (c.execute what r server).1 = .ok () ↔ (Server.exchange r server).1.IsSuccess := by
  unfold execute
  rcases Server.exchange r server with ⟨answer, server'⟩
  cases answer with
  | timeout => simp [Answer.IsSuccess]
  | broken => simp [Answer.IsSuccess]
  | status code body =>
    simp only [Answer.IsSuccess, Status.isSuccess, Bool.and_eq_true, decide_eq_true_eq]
    by_cases success : 200 ≤ code ∧ code < 300
    · simp [success]
    · simp [success]

theorem post_ok_iff (c : Client) (body : String) (count : Nat) (server : σ) :
    (c.post body count server).1 = .ok () ↔ count = 0 ∨
      (Server.exchange (c.request .post c.commandUrl (some "text/plain; charset=utf-8") body)
        server).1.IsSuccess := by
  unfold post
  by_cases none_ : count = 0
  · simp [none_]
  · rw [if_neg none_, ← execute_ok_iff c "Command post"]
    dsimp only
    rcases c.execute "Command post" _ server with ⟨e | _, c', server'⟩
    · simp [none_]
    · simp

def posting (c : Client) (lines : List String) : Request :=
  c.request .post c.commandUrl (some "text/plain; charset=utf-8")
    (String.join (lines.map terminated))

theorem sendLines_ok_iff (c : Client) (lines : List String) (server : σ) :
    (c.sendLines lines server).1 = .ok () ↔
      lines = [] ∨ (Server.exchange (c.posting lines) server).1.IsSuccess := by
  rw [sendLines, post_ok_iff, List.length_eq_zero_iff, posting]

end Client

end MetricRelay.Http
