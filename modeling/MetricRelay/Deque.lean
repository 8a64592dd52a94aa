namespace MetricRelay

structure Deque (α : Type) where
  front : List α
  back : List α
  size : Nat
  size_eq : size = front.length + back.length

namespace Deque

variable {α : Type}

def empty : Deque α := ⟨[], [], 0, rfl⟩

def toList (q : Deque α) : List α := q.front ++ q.back.reverse

def isEmpty (q : Deque α) : Bool := q.size == 0

def pushBack (q : Deque α) (a : α) : Deque α :=
  ⟨q.front, a :: q.back, q.size + 1, by simp [q.size_eq]; omega⟩

def pushFront (q : Deque α) (a : α) : Deque α :=
  ⟨a :: q.front, q.back, q.size + 1, by simp [q.size_eq]; omega⟩

def popFront? (q : Deque α) : Option (α × Deque α) :=
  match h : q.front with
  | a :: f => some (a, ⟨f, q.back, q.size - 1, by simp [q.size_eq, h]⟩)
  | [] =>
    match h' : q.back.reverse with
    | [] => none
    | a :: f =>
      some (a, ⟨f, [], q.size - 1, by
        have := congrArg List.length h'
        simp at this
        simp [q.size_eq, h, this]⟩)

def popBack? (q : Deque α) : Option (α × Deque α) :=
  match h : q.back with
  | a :: b => some (a, ⟨q.front, b, q.size - 1, by simp [q.size_eq, h]⟩)
  | [] =>
    match h' : q.front.reverse with
    | [] => none
    | a :: b =>
      some (a, ⟨[], b, q.size - 1, by
        have := congrArg List.length h'
        simp at this
        simp [q.size_eq, h, this]⟩)

@[simp] theorem toList_empty : (empty : Deque α).toList = [] := rfl

theorem size_eq_length (q : Deque α) : q.size = q.toList.length := by
  simp [toList, q.size_eq]

@[simp] theorem toList_pushBack (q : Deque α) (a : α) :
    (q.pushBack a).toList = q.toList ++ [a] := by
  simp [toList, pushBack]

@[simp] theorem toList_pushFront (q : Deque α) (a : α) :
    (q.pushFront a).toList = a :: q.toList := rfl

theorem toList_of_popFront? {q r : Deque α} {a : α} (h : q.popFront? = some (a, r)) :
    q.toList = a :: r.toList := by
  unfold popFront? at h
  split at h
  · rename_i hf
    cases h
    simp [toList, hf]
  · rename_i hf
    split at h
    · cases h
    · rename_i hb
      cases h
      simp [toList, hf, hb]

theorem popFront?_eq_none {q : Deque α} : q.popFront? = none ↔ q.toList = [] := by
  unfold popFront?
  split
  · rename_i hf
    simp [toList, hf]
  · rename_i hf
    split
    · rename_i hb
      simp [toList, hf, hb]
    · rename_i hb
      simp [toList, hf, hb]

theorem toList_of_popBack? {q r : Deque α} {a : α} (h : q.popBack? = some (a, r)) :
    q.toList = r.toList ++ [a] := by
  unfold popBack? at h
  split at h
  · rename_i hb
    cases h
    simp [toList, hb]
  · rename_i hb
    split at h
    · cases h
    · rename_i hf
      cases h
      have := congrArg List.reverse hf
      simp at this
      simp [toList, hb, this]

theorem popBack?_eq_none {q : Deque α} : q.popBack? = none ↔ q.toList = [] := by
  unfold popBack?
  split
  · rename_i hb
    simp [toList, hb]
  · rename_i hb
    split
    · rename_i hf
      simp at hf
      simp [toList, hb, hf]
    · rename_i hf
      have := congrArg List.length hf
      simp at this
      simp only [toList, hb, List.reverse_nil, List.append_nil, reduceCtorEq, false_iff]
      intro e
      simp [e] at this

end Deque

end MetricRelay
