import MetricRelay.Buffer

namespace MetricRelay.Buffer

@[simp] theorem toList_eq (b : Buffer) : b.lines.toList = b.toList := rfl

theorem size_eq_length (b : Buffer) : b.size = b.toList.length := b.lines.size_eq_length

@[simp] theorem isEmpty_iff {b : Buffer} : b.isEmpty = true ↔ b.toList = [] := by
  rw [isEmpty, Deque.isEmpty, beq_iff_eq, Deque.size_eq_length, List.length_eq_zero_iff, toList_eq]

theorem create_ok {capacity : Nat} {policy : OverflowPolicy} {b : Buffer}
    (h : create capacity policy = .ok b) :
    b.toList = [] ∧ b.dropped = 0 ∧ b.rejected = 0 ∧ b.policy = policy := by
  unfold create at h
  split at h
  · cases h
  · cases h
    exact ⟨rfl, rfl, rfl, rfl⟩

theorem push_cases (b : Buffer) (line : String) :
    (∃ b', b.push line = (.queued, b') ∧ b'.toList = b.toList ++ [line] ∧
      b'.policy = b.policy ∧ b'.dropped = b.dropped ∧ b'.rejected = b.rejected) ∨
    (∃ oldest rest b', b.push line = (.queuedAfterDrop oldest, b') ∧ b.policy = .dropOldest ∧
      b.toList = oldest :: rest ∧ b'.toList = rest ++ [line] ∧
      b'.policy = b.policy ∧ b'.dropped = b.dropped + 1 ∧ b'.rejected = b.rejected) ∨
    (∃ cause b', b.push line = (.refused cause, b') ∧ b'.toList = b.toList ∧
      b'.policy = b.policy ∧ b'.dropped = b.dropped ∧ b'.rejected = b.rejected + 1) := by
  unfold push
  dsimp only
  split
  · split
    · exact .inr (.inr ⟨_, _, rfl, rfl, rfl, rfl, rfl⟩)
    · rename_i hp
      split
      · exact .inl ⟨_, rfl, Deque.toList_pushBack .., rfl, rfl, rfl⟩
      · rename_i oldest rest h
        have hl := Deque.toList_of_popFront? h
        exact .inr (.inl
          ⟨oldest, rest.toList, _, rfl, hp, hl, Deque.toList_pushBack .., rfl, rfl, rfl⟩)
  · exact .inl ⟨_, rfl, Deque.toList_pushBack .., rfl, rfl, rfl⟩

theorem pop?_eq_none {b : Buffer} : b.pop? = none ↔ b.toList = [] := by
  rw [pop?, Option.map_eq_none_iff, Deque.popFront?_eq_none, toList_eq]

theorem toList_of_pop? {b b' : Buffer} {line : String} (h : b.pop? = some (line, b')) :
    b.toList = line :: b'.toList ∧ b'.policy = b.policy ∧ b'.dropped = b.dropped ∧
      b'.rejected = b.rejected := by
  obtain ⟨⟨a, rest⟩, hr, h⟩ := Option.map_eq_some_iff.1 h
  cases h
  exact ⟨Deque.toList_of_popFront? hr, rfl, rfl, rfl⟩

/-- The lines that were in the buffer, as its policy parts them into those that are let go of and
those that stay. -/
def Parted (policy : OverflowPolicy) (before gone after : List String) : Prop :=
  match policy with
  | .dropOldest => before = gone ++ after
  | .rejectNewest => before = after ++ gone.reverse

theorem victim?_eq_some {b : Buffer} {line : String} {rest : Deque String}
    (h : b.victim? = some (line, rest)) : Parted b.policy b.toList [line] rest.toList := by
  unfold victim? at h
  cases hp : b.policy with
  | dropOldest =>
    rw [hp] at h
    exact Deque.toList_of_popFront? h
  | rejectNewest =>
    rw [hp] at h
    exact Deque.toList_of_popBack? h

theorem Parted.cons {policy : OverflowPolicy} {before gone middle after : List String}
    {line : String} (h : Parted policy before [line] middle)
    (h' : Parted policy middle gone after) :
    Parted policy before (line :: gone) after := by
  cases policy with
  | dropOldest =>
    simp only [Parted] at *
    simp [h, h']
  | rejectNewest =>
    simp only [Parted] at *
    simp [h, h']

theorem evict_spec (n : Nat) (b : Buffer) :
    Parted b.policy b.toList (b.evict n).1 (b.evict n).2.toList ∧
      (b.evict n).2.policy = b.policy ∧
      (b.evict n).2.dropped = b.dropped + (b.evict n).1.length ∧
      (b.evict n).2.rejected = b.rejected := by
  have stay (b : Buffer) : Parted b.policy b.toList [] b.toList := by
    unfold Parted
    split <;> simp
  induction n generalizing b with
  | zero => exact ⟨stay b, rfl, rfl, rfl⟩
  | succ n ih =>
    unfold evict
    split
    · exact ⟨stay b, rfl, rfl, rfl⟩
    · rename_i line rest hv
      obtain ⟨parted, policy, dropped, rejected⟩ := ih { b with
        lines := rest, bytes := b.bytes - line.utf8ByteSize, dropped := b.dropped + 1 }
      refine ⟨(victim?_eq_some hv).cons parted, policy, ?_, rejected⟩
      rw [dropped]
      dsimp only [List.length_cons]
      omega

theorem requeue_spec (b : Buffer) (line : String) :
    Parted b.policy (line :: b.toList) (b.requeue line).1 (b.requeue line).2.toList ∧
      (b.requeue line).2.policy = b.policy ∧
      (b.requeue line).2.dropped = b.dropped + (b.requeue line).1.length ∧
      (b.requeue line).2.rejected = b.rejected :=
  evict_spec _ { b with
    lines := b.lines.pushFront line, bytes := b.bytes + line.utf8ByteSize }

@[simp] theorem toList_takeAll (b : Buffer) : b.takeAll.2.toList = [] := rfl

end MetricRelay.Buffer
