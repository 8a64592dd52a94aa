import MetricRelay.Proofs.Relay.FailFast
import MetricRelay.Proofs.Relay.Keeping

namespace MetricRelay.Relay

open Http

abbrev Post := List String × Http.Answer

namespace Post

def taken (posts : List Post) : List String :=
  (posts.filter fun x => x.2.IsSuccess).flatMap Prod.fst

def refused (posts : List Post) : List String :=
  (posts.filter fun x => ¬ x.2.IsSuccess).flatMap Prod.fst

def seen (post : Post) : String × Http.Answer := (Client.body post.1, post.2)

@[simp] theorem taken_append (posts posts' : List Post) :
    taken (posts ++ posts') = taken posts ++ taken posts' := by
  simp [taken]

@[simp] theorem refused_append (posts posts' : List Post) :
    refused (posts ++ posts') = refused posts ++ refused posts' := by
  simp [refused]

theorem taken_singleton (lines : List String) (answer : Http.Answer) :
    taken [(lines, answer)] = if answer.IsSuccess then lines else [] := by
  unfold taken
  split <;> simp [*]

theorem refused_singleton (lines : List String) (answer : Http.Answer) :
    refused [(lines, answer)] = if answer.IsSuccess then [] else lines := by
  unfold refused
  split <;> simp [*]

theorem of_forall_not_isSuccess {posts : List Post} (h : ∀ x ∈ posts, ¬ x.2.IsSuccess) :
    taken posts = [] ∧ refused posts = (posts.map Prod.fst).flatten := by
  constructor
  · rw [taken, List.filter_eq_nil_iff.2 fun x hx => by simpa using h x hx]
    rfl
  · rw [refused, List.filter_eq_self.2 fun x hx => by simpa using h x hx, List.flatMap_def]

theorem length_taken_add_length_refused (posts : List Post) :
    (taken posts).length + (refused posts).length = (posts.map Prod.fst).flatten.length := by
  induction posts with
  | nil => rfl
  | cons post posts ih =>
    rw [← List.singleton_append, taken_append, refused_append, List.map_append,
      List.flatten_append, List.length_append, List.length_append, List.length_append, ← ih,
      taken_singleton, refused_singleton]
    split <;> simp <;> omega

end Post

namespace Posting

variable {σ : Type} {before : List (Http.Request × Http.Answer)} {posts : List Post}
  {p : Posting (Http.Recorded σ)}

structure Posted (before : List (Http.Request × Http.Answer)) (posts : List Post)
    (p : Posting (Http.Recorded σ)) : Prop where
  delivered : p.delivered = (Post.taken posts).map terminated
  undelivered : p.undelivered = (Post.refused posts).map terminated
  record : ∃ new, p.server.record = before ++ new ∧
    new.map (fun x => (x.1.body, x.2)) = posts.map Post.seen

theorem posted_new {c : Config} {server : Http.Recorded σ} (h : Posting.new c server = .ok p) :
    p.Posted server.record [] := by
  obtain ⟨client, rfl⟩ := new_ok h
  exact ⟨rfl, rfl, [], (List.append_nil _).symm, rfl⟩

theorem Posted.refused (posted : p.Posted before posts)
    (none_ : ∀ x ∈ p.server.record, ¬x.2.IsSuccess) : ∀ x ∈ posts, ¬x.2.IsSuccess := by
  obtain ⟨new, record, same⟩ := posted.record
  rintro ⟨lines, answer⟩ mem
  have seen := same ▸ List.mem_map_of_mem mem
  obtain ⟨y, hy, e⟩ := List.mem_map.1 seen
  have := none_ y (record ▸ List.mem_append_right _ hy)
  rwa [(Prod.mk.inj e).2] at this

variable [Server σ]

theorem Posted.post (h : p.Posted before posts) {lines : List String} (some_ : lines ≠ []) :
    ∃ answer, (p.post lines).2.Posted before (posts ++ [(lines, answer)]) := by
  let answer := (Server.exchange (p.client.posting lines) p.server).1
  have record : ∃ new, (p.post lines).2.server.record = before ++ new ∧
      new.map (fun x => (x.1.body, x.2)) = (posts ++ [(lines, answer)]).map Post.seen := by
    obtain ⟨new, record, same⟩ := h.record
    refine ⟨new ++ [(p.client.posting lines, answer)], ?_, ?_⟩
    · rw [record_post some_, record, List.append_assoc]
    · rw [List.map_append, List.map_append, same]
      rfl
  have fst_iff := p.post_fst_iff lines
  obtain ⟨taken, delivered, undelivered⟩ | ⟨refused, delivered, undelivered⟩ := p.post_cases lines
  · have success : answer.IsSuccess := (fst_iff.1 taken).resolve_left some_
    refine ⟨answer, ?_, ?_, record⟩
    · rw [delivered, h.delivered, Post.taken_append, Post.taken_singleton, if_pos success,
        List.map_append]
    · rw [undelivered, h.undelivered, Post.refused_append, Post.refused_singleton,
        if_pos success, List.append_nil]
  · have failure : ¬answer.IsSuccess := fun success => by simp [fst_iff.2 (.inr success)] at refused
    refine ⟨answer, ?_, ?_, record⟩
    · rw [delivered, h.delivered, Post.taken_append, Post.taken_singleton, if_neg failure,
        List.append_nil]
    · rw [undelivered, h.undelivered, Post.refused_append, Post.refused_singleton,
        if_neg failure, List.map_append]

def Through (before : List (Http.Request × Http.Answer)) (batches : List (List String))
    (p : Posting (Http.Recorded σ)) : Prop :=
  ∃ posts, posts.map Prod.fst = batches ∧ p.Posted before posts

theorem Through.post {batches : List (List String)} (h : p.Through before batches)
    {lines : List String} (some_ : lines ≠ []) :
    (p.post lines).2.Through before (batches ++ [lines]) := by
  obtain ⟨posts, rfl, posted⟩ := h
  obtain ⟨answer, posted⟩ := posted.post some_
  exact ⟨posts ++ [(lines, answer)], List.map_append, posted⟩

theorem Through.all {batches more : List (List String)} (h : p.Through before batches)
    (some_ : ∀ batch ∈ more, batch ≠ []) :
    (more.foldl (fun p batch => (p.post batch).2) p).Through before (batches ++ more) := by
  induction more generalizing p batches with
  | nil => rwa [List.append_nil]
  | cons batch more ih =>
    obtain ⟨first, others⟩ := List.forall_mem_cons.1 some_
    rw [List.append_cons]
    exact ih (h.post first) others

theorem Through.deliver {τ : Type} {batches : List (List String)} (h : p.Through before batches)
    {lines : List String} (some_ : lines ≠ []) :
    (Carrier.deliver τ lines p).2.Through before (batches ++ [lines]) := by
  obtain ⟨posts, batches_eq, posted⟩ := h.post some_
  refine ⟨posts, batches_eq, ?_⟩
  simp only [Carrier.deliver]
  split <;> exact ⟨posted.delivered, posted.undelivered, posted.record⟩

section

variable {τ : Type} {size : Nat} {input : List (Arrival τ)} {spool : Option Spool}

theorem Through.resume (h : p.Through before []) (size_ : 0 < p.size) (lines : List String) :
    (Carrier.resume τ lines p).Through before (parts p.size lines) := by
  have resumed := h.all fun part hp => (length_of_mem_parts size_ lines part hp).1
  rwa [List.nil_append] at resumed

theorem through_afterInput (h : p.Through before []) (size_ : 0 < p.size) :
    (afterInput size input p spool).carrier.Through before (parts p.size (found spool) ++
      (Progress.begin τ (found spool) p).handedOver (rounds size input)) := by
  have resumed := h.resume (τ := τ) size_ (found spool)
  exact Progress.carried_advanceAll (P := Through before) (G := fun _ => True)
    (F := fun _ => True) (fun _ h going => ⟨h, going⟩)
    (fun some_ h going => ⟨h.deliver some_, fun _ => going⟩) resumed (fun _ => trivial)
    fun _ _ _ _ => trivial

theorem through_relay (h : p.Through before []) (size_ : 0 < p.size) (stamp : Stamp) :
    ∃ batches, (relay size stamp input p spool).carrier.Through before batches := by
  obtain ⟨stop, k', rest, notices, -, -, begun, e⟩ |
      ⟨-, -, ⟨fault, -, notices, e⟩ | ⟨-, notices, e⟩⟩ :=
    relay_cases size stamp input p spool <;> rw [e]
  · obtain rfl | rfl := begun
    · exact ⟨[], h⟩
    · exact ⟨_, h.resume size_ _⟩
  · exact ⟨_, through_afterInput h size_⟩
  · exact ⟨_, through_afterInput h size_⟩

theorem consumed_of_tolerant (tolerant : p.tolerant = true) {full : List (List String)}
    (some_ : ∀ batch ∈ full, batch ≠ []) (last : List String) :
    (Progress.begin τ (found spool) p).consumed
        ((full ++ [last]).map (Round.of (τ := τ))) = (full ++ [last]).map Round.of :=
  Progress.consumed_eq_self (T := fun p : Posting (Http.Recorded σ) => p.tolerant = true)
    (fun {k} lines h =>
      ⟨by rw [deliver_fst, h, Bool.or_true], (k.tolerant_deliver lines).trans h⟩)
    ((p.tolerant_resume (τ := τ) (found spool)).trans tolerant) rfl some_ last

end

end Posting

end MetricRelay.Relay
