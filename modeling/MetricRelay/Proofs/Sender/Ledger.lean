import Mathlib.Data.List.Induction
import MetricRelay.Proofs.Sender.Returns

/-!
A ledger of the calls to send whose lines a sender keeps. It is drawn up from what the sender does
alone, and yet tells which line of which call was written, waits in the buffer, or has left it.
-/
namespace MetricRelay

structure Ledger where
  written : List CallId
  hand : List CallId
  waiting : List CallId
  taken : List CallId
  dropped : List CallId

namespace Ledger

open Effect

def new : Ledger := ⟨[], [], [], [], []⟩

/-- What was written, in order, and what is still to be written after it. -/
def order (g : Ledger) : List CallId := g.written ++ (g.hand ++ g.waiting)

def all (g : Ledger) : List CallId := g.order ++ (g.taken ++ g.dropped)

def discard (g : Ledger) : OverflowPolicy → Ledger
  | .dropOldest =>
    { g with waiting := g.waiting.drop 1, dropped := g.dropped ++ g.waiting.take 1 }
  | .rejectNewest =>
    { g with waiting := g.waiting.dropLast, dropped := g.dropped ++ g.waiting.getLast?.toList }

def note (policy : OverflowPolicy) (g : Ledger) : Effect → Ledger
  | .asked _ (.draining _ _ _) =>
    { g with hand := g.hand ++ g.waiting.take 1, waiting := g.waiting.drop 1 }
  | .accepted _ => { g with written := g.written ++ g.hand, hand := [] }
  | .requeued _ => { g with hand := [], waiting := g.hand ++ g.waiting }
  | .discarded _ => g.discard policy
  | .took _ => { g with waiting := [], taken := g.taken ++ g.waiting }
  | .returned id (.outcome .sent) => { g with written := g.written ++ [id] }
  | .returned id (.outcome .buffered) => { g with waiting := g.waiting ++ [id] }
  | _ => g

def of (policy : OverflowPolicy) (effects : List Effect) : Ledger := effects.foldl (note policy) new

@[simp] theorem of_append (policy : OverflowPolicy) (l l' : List Effect) :
    of policy (l ++ l') = l'.foldl (note policy) (of policy l) := List.foldl_append

theorem dropLast_append_last {α : Type} (l : List α) : l.dropLast ++ l.getLast?.toList = l := by
  rcases List.eq_nil_or_concat l with rfl | ⟨l, a, rfl⟩ <;> simp

theorem all_discard (g : Ledger) (policy : OverflowPolicy) : (g.discard policy).all.Perm g.all := by
  refine List.perm_iff_count.2 fun id => ?_
  cases policy with
  | dropOldest =>
    have := congrArg (List.count id) (List.take_append_drop 1 g.waiting)
    simp only [all, order, discard, List.count_append] at *
    omega
  | rejectNewest =>
    have := congrArg (List.count id) (dropLast_append_last g.waiting)
    simp only [all, order, discard, List.count_append] at *
    omega

theorem all_note (policy : OverflowPolicy) (g : Ledger) (e : Effect) :
    (g.note policy e).all.Perm (g.all ++ kept [e]) := by
  have still : g.all.Perm (g.all ++ []) := .of_eq (List.append_nil _).symm
  cases e with
  | asked id p =>
    cases p with
    | draining errand line written =>
      -- The first of the lines that wait is in hand now.
      refine List.Perm.trans ?_ still
      simp only [all, order, note, List.append_assoc]
      rw [← List.append_assoc (g.waiting.take 1), List.take_append_drop]
    | _ => exact still
  | accepted line =>
    refine List.Perm.trans ?_ still
    simp [all, order, note]
  | requeued line =>
    refine List.Perm.trans ?_ still
    simp [all, order, note]
  | discarded line => exact (g.all_discard policy).trans still
  | took lines =>
    refine List.perm_iff_count.2 fun id => ?_
    simp only [all, order, note, kept, returns, List.filterMap, List.filter, List.map,
      List.count_append, List.count_nil]
    omega
  | returned id a =>
    cases a with
    | outcome o =>
      cases o with
      | sent =>
        refine List.perm_iff_count.2 fun id => ?_
        simp only [all, order, note, kept, returns, List.filterMap, List.filter, List.map,
          Answer.keeps, List.count_append]
        omega
      | buffered =>
        refine List.perm_iff_count.2 fun id => ?_
        simp only [all, order, note, kept, returns, List.filterMap, List.filter, List.map,
          Answer.keeps, List.count_append]
        omega
      | rejected => exact still
    | _ => exact still
  | _ => exact still

theorem all_of (policy : OverflowPolicy) (effects : List Effect) :
    (of policy effects).all.Perm (kept effects) := by
  induction effects using List.reverseRecOn with
  | nil => exact .refl _
  | append_singleton effects e ih =>
    rw [of_append, kept_append]
    exact (all_note ..).trans (ih.append_right _)

theorem order_note (policy : OverflowPolicy) (g : Ledger) {e : Effect}
    (h : ∀ id, e ≠ .returned id (.outcome .sent)) :
    (g.note policy e).order.Sublist (g.order ++ kept [e]) := by
  have still : g.order.Sublist (g.order ++ []) := List.sublist_append_left ..
  cases e with
  | asked id p =>
    cases p with
    | draining errand line written =>
      refine List.Sublist.trans ?_ still
      simp only [order, note, List.append_assoc, List.take_append_drop]
      exact .refl _
    | _ => exact still
  | accepted line =>
    refine List.Sublist.trans ?_ still
    simp [order, note]
  | requeued line =>
    refine List.Sublist.trans ?_ still
    simp [order, note]
  | discarded line =>
    refine List.Sublist.trans ?_ still
    have : (g.discard policy).waiting.Sublist g.waiting := by
      cases policy with
      | dropOldest => exact List.drop_sublist ..
      | rejectNewest => exact List.dropLast_sublist ..
    cases policy <;> exact (this.append_left _).append_left _
  | took lines =>
    refine List.Sublist.trans ?_ still
    exact ((List.nil_sublist _).append_left _).append_left _
  | returned id a =>
    cases a with
    | outcome o =>
      cases o with
      | sent => exact absurd rfl (h id)
      | buffered => simp [order, note, kept, returns, Answer.keeps]
      | rejected => exact still
    | _ => exact still
  | _ => exact still

theorem mem_standing_note {policy : OverflowPolicy} {g : Ledger} {e : Effect} {id : CallId}
    (h : id ∈ (g.note policy e).hand ++ (g.note policy e).waiting) :
    id ∈ g.hand ++ g.waiting ∨ id ∈ kept [e] := by
  cases e with
  | asked id p =>
    cases p with
    | draining errand line written =>
      simp only [note, List.append_assoc, List.take_append_drop] at h
      exact .inl h
    | _ => exact .inl h
  | accepted line => exact .inl (List.mem_append_right _ h)
  | requeued line => exact .inl h
  | discarded line =>
    cases policy with
    | dropOldest => exact .inl (((List.drop_sublist ..).append_left _).subset h)
    | rejectNewest => exact .inl (((List.dropLast_sublist _).append_left _).subset h)
  | took lines => exact .inl (((List.nil_sublist _).append_left _).subset h)
  | returned id a =>
    cases a with
    | outcome o =>
      cases o with
      | sent => exact .inl h
      | buffered =>
        simp only [note, ← List.append_assoc] at h
        exact List.mem_append.1 h
      | rejected => exact .inl h
    | _ => exact .inl h
  | _ => exact .inl h

end Ledger

end MetricRelay
