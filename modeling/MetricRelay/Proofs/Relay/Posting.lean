import MetricRelay.Proofs.Http.Client
import MetricRelay.Proofs.Relay.Carrier
import MetricRelay.Relay.Posting

namespace MetricRelay.Relay

theorem flatten_parts {α : Type} (size : Nat) (l : List α) : (parts size l).flatten = l := by
  induction l using parts.induct size with
  | case1 =>
    unfold parts
    rfl
  | case2 l some_ none_ =>
    unfold parts
    rw [dif_neg some_, dif_pos none_, List.flatten_singleton]
  | case3 l some_ size_ ih =>
    unfold parts
    rw [dif_neg some_, dif_neg size_, List.flatten_cons, ih, List.take_append_drop]

namespace Posting

variable {σ : Type}

instance : Audit (Posting σ) where
  Right given p := given.Perm (p.delivered ++ p.undelivered)
  Going _ := True
  delivered p := p.delivered
  held p := p.undelivered
  waived _ := []

theorem new_ok {c : Config} {server : σ} {p : Posting σ} (h : new c server = .ok p) :
    ∃ client, p = ⟨client, server, c.batchSize, !c.failFast, [], [], []⟩ := by
  unfold new at h
  cases hc : Http.Client.new c.http with
  | error e =>
    rw [hc] at h
    cases h
  | ok client =>
    rw [hc] at h
    cases h
    exact ⟨client, rfl⟩

theorem right_new {c : Config} {server : σ} {p : Posting σ} (h : new c server = .ok p) :
    Audit.Right [] p := by
  obtain ⟨client, rfl⟩ := new_ok h
  exact .refl _

variable [Http.Server σ]

theorem post_fst_iff (p : Posting σ) (lines : List String) :
    (p.post lines).1 = true ↔
      lines = [] ∨ (Http.Server.exchange (p.client.posting lines) p.server).1.IsSuccess := by
  rw [← Http.Client.sendLines_ok_iff]
  unfold post
  rcases p.client.sendLines lines p.server with ⟨e | _, client, server⟩
  · simp
  · simp

theorem post_cases (p : Posting σ) (lines : List String) :
    ((p.post lines).1 = true ∧ (p.post lines).2.delivered = p.delivered ++ lines.map terminated ∧
        (p.post lines).2.undelivered = p.undelivered) ∨
      ((p.post lines).1 = false ∧ (p.post lines).2.delivered = p.delivered ∧
        (p.post lines).2.undelivered = p.undelivered ++ lines.map terminated) := by
  unfold post
  dsimp only
  split
  · exact .inl ⟨rfl, rfl, rfl⟩
  · exact .inr ⟨rfl, rfl, rfl⟩

theorem size_post (p : Posting σ) (lines : List String) : (p.post lines).2.size = p.size := by
  unfold post
  dsimp only
  split <;> rfl

theorem right_post {given : List String} {p : Posting σ} (h : Audit.Right given p)
    (lines : List String) : Audit.Right (given ++ lines.map terminated) (p.post lines).2 := by
  have perm : given.Perm (p.delivered ++ p.undelivered) := h
  obtain ⟨-, delivered, undelivered⟩ | ⟨-, delivered, undelivered⟩ := p.post_cases lines
  all_goals
    refine (perm.append_right _).trans (List.perm_iff_count.2 fun line => ?_)
    rw [delivered, undelivered]
    simp only [List.count_append]
    omega

theorem right_posts {given : List String} {p : Posting σ} (h : Audit.Right given p)
    (batches : List (List String)) :
    Audit.Right (given ++ batches.flatten.map terminated)
      (batches.foldl (fun p batch => (p.post batch).2) p) := by
  induction batches generalizing p given with
  | nil => simpa using h
  | cons batch batches ih =>
    rw [List.flatten_cons, List.map_append, ← List.append_assoc]
    exact ih (right_post h batch)

instance {τ : Type} : Accountable τ (Posting σ) where
  perm := by
    intro given p perm
    simpa [Audit.Right, Audit.delivered, Audit.held, Audit.waived] using perm
  change _ right going := ⟨right, going⟩
  resume := by
    intro given p lines right going
    have := right_posts right (parts p.size lines)
    rw [flatten_parts] at this
    exact ⟨this, going⟩
  deliver := by
    intro given p lines right going
    have := right_post right lines
    refine ⟨?_, fun _ => trivial⟩
    simp only [Carrier.deliver]
    split <;> exact this
  finish := by
    intro given p perm
    exact ⟨rfl, by simpa [Audit.Right, Audit.delivered, Audit.waived, Carrier.finish] using perm⟩

end Posting

end MetricRelay.Relay
