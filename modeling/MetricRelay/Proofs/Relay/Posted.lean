import MetricRelay.Proofs.Http.Recorded
import MetricRelay.Proofs.Relay.Posting
import MetricRelay.Proofs.Relay.Unfailing

namespace MetricRelay.Relay

open Http

theorem length_of_mem_parts {α : Type} {size : Nat} (size_ : 0 < size) (l : List α) :
    ∀ part ∈ parts size l, part ≠ [] ∧ part.length ≤ size := by
  induction l using parts.induct size with
  | case1 =>
    unfold parts
    exact List.forall_mem_nil _
  | case2 l some_ none_ => exact absurd none_ (Nat.pos_iff_ne_zero.1 size_)
  | case3 l some_ nonzero ih =>
    unfold parts
    rw [dif_neg some_, dif_neg nonzero]
    refine List.forall_mem_cons.2 ⟨⟨?_, List.length_take_le ..⟩, ih⟩
    simp [some_, nonzero]

namespace Posting

variable {σ : Type} {size : Nat} {given lines : List String}
  {p : Posting (Http.Recorded σ)}

structure Passed (size : Nat) (given : List String) (p : Posting (Http.Recorded σ)) : Prop where
  size_eq : p.size = size
  delivered : p.delivered = given.map terminated
  undelivered : p.undelivered = []
  posts : ∃ batches : List (List String), batches.flatten = given ∧
    (∀ batch ∈ batches, batch ≠ [] ∧ batch.length ≤ size) ∧
    p.server.bodies = batches.map Client.body

theorem passed_new {c : Config} {server : σ} {p : Posting (Http.Recorded σ)}
    (h : Posting.new c (Http.Recorded.start server) = .ok p) : p.Passed c.batchSize [] := by
  obtain ⟨client, rfl⟩ := new_ok h
  exact ⟨rfl, rfl, rfl, [], rfl, List.forall_mem_nil _, rfl⟩

variable [Server σ]

theorem server_post (p : Posting σ) (lines : List String) :
    (p.post lines).2.server = (p.client.sendLines lines p.server).2.2 := by
  unfold post
  rcases p.client.sendLines lines p.server with ⟨e | _, client, server⟩ <;> rfl

theorem record_post (some_ : lines ≠ []) :
    (p.post lines).2.server.record = p.server.record ++
      [(p.client.posting lines, (Server.exchange (p.client.posting lines) p.server).1)] := by
  rw [server_post, Client.record_sendLines _ some_]

theorem clean_of_post (clean : (p.post lines).2.server.Clean) : p.server.Clean := by
  by_cases empty : lines = []
  · obtain rfl := empty
    exact clean
  · rw [Http.Recorded.Clean, record_post empty] at clean
    exact (List.forall_mem_append.1 clean).1

theorem Passed.post (h : p.Passed size given) (some_ : lines ≠ []) (short : lines.length ≤ size)
    (clean : (p.post lines).2.server.Clean) :
    (p.post lines).1 = true ∧ (p.post lines).2.Passed size (given ++ lines) := by
  have record := record_post (p := p) some_
  rw [Http.Recorded.Clean, record] at clean
  have success := List.forall_mem_singleton.1 (List.forall_mem_append.1 clean).2
  have taken : (p.post lines).1 = true := (p.post_fst_iff lines).2 (.inr success)
  obtain ⟨-, delivered, undelivered⟩ | ⟨refused, -⟩ := p.post_cases lines
  case inr => cases taken.symm.trans refused
  obtain ⟨batches, flat, sizes, bodies⟩ := h.posts
  refine ⟨taken, (p.size_post lines).trans h.size_eq, ?_, undelivered.trans h.undelivered,
    batches ++ [lines], ?_, ?_, ?_⟩
  · rw [delivered, h.delivered, List.map_append]
  · simp [flat]
  · exact List.forall_mem_append.2 ⟨sizes, List.forall_mem_singleton.2 ⟨some_, short⟩⟩
  · rw [Http.Recorded.bodies, record, List.map_append, List.map_append, ← bodies]
    rfl

section

variable {batches : List (List String)}

theorem clean_of_posts (clean : (batches.foldl (fun p batch => (p.post batch).2) p).server.Clean) :
    p.server.Clean := by
  induction batches generalizing p with
  | nil => exact clean
  | cons batch batches ih => exact clean_of_post (ih clean)

theorem Passed.posts_all (h : p.Passed size given)
    (sizes : ∀ batch ∈ batches, batch ≠ [] ∧ batch.length ≤ size)
    (clean : (batches.foldl (fun p batch => (p.post batch).2) p).server.Clean) :
    (batches.foldl (fun p batch => (p.post batch).2) p).Passed size (given ++ batches.flatten) := by
  induction batches generalizing p given with
  | nil => simpa using h
  | cons batch batches ih =>
    obtain ⟨some_, short⟩ := sizes batch (List.mem_cons_self ..)
    obtain ⟨-, next⟩ := h.post some_ short (clean_of_posts clean)
    rw [List.flatten_cons, ← List.append_assoc]
    exact ih next (fun batch hb => sizes batch (List.mem_cons_of_mem _ hb)) clean

end

theorem server_deliver {τ : Type} (lines : List String) (p : Posting σ) :
    (Carrier.deliver τ lines p).2.server = (p.post lines).2.server := by
  simp only [Carrier.deliver]
  split <;> rfl

theorem unfailing (τ : Type) (size_ : 0 < size) :
    Unfailing τ size (fun p : Posting (Http.Recorded σ) => p.server.Clean) (Passed size)
      (Passed size) where
  clean_resume clean := clean_of_posts clean
  clean_deliver clean := by
    rw [server_deliver] at clean
    exact clean_of_post clean
  clean_finish clean := clean
  resume := by
    intro lines p passed clean
    obtain rfl := passed.size_eq
    have := passed.posts_all (length_of_mem_parts size_ lines) clean
    rwa [List.nil_append, flatten_parts] at this
  deliver := by
    intro given lines p some_ short passed clean
    rw [server_deliver] at clean
    obtain ⟨taken, next⟩ := passed.post some_ short clean
    simp only [Carrier.deliver, taken, Bool.true_or, if_true]
    exact ⟨trivial, next⟩
  finish := by
    intro given p passed clean
    exact ⟨by simp [Carrier.finish, passed.delivered], passed.undelivered, passed⟩

end Posting

end MetricRelay.Relay
