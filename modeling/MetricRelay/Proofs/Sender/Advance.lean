import Mathlib.Logic.Relation
import MetricRelay.Proofs.Sender.Session

namespace MetricRelay

open Effect

namespace Sender

theorem Orderly.fits {past fx : List Effect} {s s' : Sender} {e : Event} (o : Orderly past s)
    (h : s.step e = some (s', fx)) {id : CallId} {job : Job} {a : Answer}
    (mem : (id, job) ∈ s.incoming e ++ s.underway) (returned : (id, a) ∈ returns fx) :
    a.Fits job := by
  have nodup : ((s.incoming e ++ s.underway).map Prod.fst).Nodup := by
    have nodup := o.nodup.of_append_left
    obtain hi | ⟨job, hi, -⟩ := s.incoming_cases e
    · rwa [hi]
    · rw [hi]
      refine List.nodup_cons.2 ⟨fun hm => ?_, nodup⟩
      exact Nat.lt_irrefl _ (o.lt _ (List.mem_append_left _ hm))
  cases turnover_step h o.open_ with
  | stays _ returns_eq =>
    rw [returns_eq] at returned
    cases returned
  | ends id' job' a' perm returns_eq fits =>
    rw [returns_eq, List.mem_singleton] at returned
    cases returned
    have mem' := perm.subset (List.mem_cons_self ..)
    cases List.inj_on_of_nodup_map nodup mem mem' rfl
    exact fits

end Sender

namespace Session

variable {τ : Type} {lines : List String} {own : List (CallId × Job)} {s : Session τ} {id : CallId}
  {job : Job} {a : Answer}

theorem effects_eq {s s' : Session τ} {fx : List Effect} (past : s'.past = fx.reverse ++ s.past) :
    s'.effects = s.effects ++ fx := by
  rw [effects, past, List.reverse_append, List.reverse_reverse, effects]

theorem link_apply (s : Session τ) (e : Event) : (s.apply e).1.link = s.link := by
  unfold apply
  split <;> rfl

theorem mem_returns_of_answer? {id : CallId} {fx : List Effect} {a : Answer}
    (h : answer? id fx = some a) : (id, a) ∈ returns fx := by
  obtain ⟨x, mem, h⟩ := List.exists_of_findSome?_eq_some h
  cases x with
  | returned id' a' =>
    simp only [Option.ite_none_right_eq_some, Option.some.injEq] at h
    obtain ⟨rfl, rfl⟩ := h
    exact List.mem_filterMap.2 ⟨_, mem, rfl⟩
  | _ => cases h

theorem Tended.fits_stirs (h : Tended lines [(id, job)] s) {r : Session τ × List Effect}
    (stirs : Stirs s r) (returned : (id, a) ∈ returns r.2) :
    a.Fits job ∧ (id, a) ∈ returns r.1.effects := by
  cases stirs with
  | still sender_eq past_eq silent =>
    rw [silent] at returned
    cases returned
  | steps e inner step past_eq =>
    have mem : (id, job) ∈ s.sender.underway :=
      h.attended.calls.mem_iff.2 (List.mem_append_right _ (List.mem_singleton_self _))
    refine ⟨h.attended.orderly.fits step (List.mem_append_right _ mem) returned, ?_⟩
    rw [effects_eq past_eq, returns_append]
    exact List.mem_append_right _ returned

variable [Transport τ]

/-- The session `s'` is what becomes of `s` when one thing happens, or when nothing does. -/
inductive Advance (s s' : Session τ) : Prop
  | still (sender : s'.sender = s.sender) (link : s'.link = s.link) (past : s'.past = s.past)
  | event (e : Event) (inner : e.isInner = true) (unasked : ∀ r, e ≠ .reply r) (fx : List Effect)
      (step : s.sender.step e = some (s'.sender, fx)) (link : s'.link = s.link)
      (past : s'.past = fx.reverse ++ s.past)
  | reply (id : CallId) (p : Phase) (holder : s.sender.holder = some (id, p)) (r : Reply)
      (served : Transport.serve p.request s.link = (r, s'.link)) (fx : List Effect)
      (step : s.sender.step (.reply r) = some (s'.sender, fx))
      (past : s'.past = fx.reverse ++ s.past)

abbrev Reaches : Session τ → Session τ → Prop := Relation.ReflTransGen Advance

theorem Advance.of_eq {s₁ s s' : Session τ} (h : Advance s₁ s') (sender : s₁.sender = s.sender)
    (link : s₁.link = s.link) (past : s₁.past = s.past) : Advance s s' := by
  cases h with
  | still sender' link' past' =>
    exact .still (sender'.trans sender) (link'.trans link) (past'.trans past)
  | event e inner unasked fx step link' past' =>
    exact .event e inner unasked fx (sender ▸ step) (link'.trans link) (past ▸ past')
  | reply id p holder r served fx step past' =>
    exact .reply id p (sender ▸ holder) r (link ▸ served) fx (sender ▸ step) (past ▸ past')

theorem advance_apply (s : Session τ) {e : Event} (inner : e.isInner = true)
    (unasked : ∀ r, e ≠ .reply r) : Advance s (s.apply e).1 := by
  unfold apply
  split
  · exact .still rfl rfl rfl
  · rename_i sender fx step
    exact .event e inner unasked fx step rfl rfl

theorem advance_reply (s : Session τ) : Advance s s.reply.1 := by
  unfold reply
  split
  · exact .still rfl rfl rfl
  · rename_i id p holder
    rcases hr : Transport.serve p.request s.link with ⟨r, link⟩
    dsimp only
    unfold apply
    split
    · rename_i none_
      simp [Sender.step, holder] at none_
    · rename_i sender fx step
      exact .reply id p holder r hr fx step rfl

theorem advance_proceed (s : Session τ) : Advance s s.proceed.1 := by
  unfold proceed
  split
  · exact s.advance_reply
  · split
    · exact s.advance_apply rfl (by simp)
    · exact s.advance_apply rfl (by simp)

theorem advance_proceedBackground (s : Session τ) : Advance s s.proceedBackground.1 := by
  unfold proceedBackground
  split
  · split
    · exact s.advance_reply
    · exact .still rfl rfl rfl
  · split
    · exact s.advance_apply rfl (by simp)
    · exact .still rfl rfl rfl
  · exact .still rfl rfl rfl

theorem advance_turn (s : Session τ) : Advance s s.turn.1 := by
  unfold turn
  split
  · exact (advance_apply _ rfl (by simp)).of_eq rfl rfl rfl
  · exact (advance_proceedBackground _).of_eq rfl rfl rfl
  · exact (advance_proceed _).of_eq rfl rfl rfl
  · exact s.advance_proceed

theorem reaches_settle (s : Session τ) (moves : List Move) : Reaches s (s.settle moves) := by
  induction moves generalizing s with
  | nil => exact .single (.still rfl rfl rfl)
  | cons move moves ih =>
    cases move with
    | tick elapsed => exact .head (s.advance_apply rfl (by simp)) (ih _)
    | background => exact .head s.advance_proceedBackground (ih _)
    | foreground => exact .single (.still rfl rfl rfl)

theorem reaches_await (id : CallId) (fuel : Nat) (s : Session τ) :
    Reaches s (Session.await id fuel s).2 := by
  induction fuel generalizing s with
  | zero => exact .refl
  | succ fuel ih =>
    unfold await
    dsimp only
    split
    · exact .single s.advance_turn
    · exact .head s.advance_turn (ih _)

theorem reaches_call (s : Session τ) (op : Op) :
    Reaches s (s.settle s.moves) ∧
      Reaches ((s.settle s.moves).apply (.start op)).1 (s.call op).2 := by
  refine ⟨s.reaches_settle s.moves, ?_⟩
  unfold call
  dsimp only
  split
  · exact .refl
  · exact reaches_await ..

theorem effects_prefix_of_reaches {s s' : Session τ} (h : Reaches s s') :
    s.effects <+: s'.effects := by
  induction h with
  | refl => exact List.prefix_rfl
  | tail _ last ih =>
    refine ih.trans ?_
    cases last with
    | still sender link past => exact ⟨[], by rw [List.append_nil, effects, effects, past]⟩
    | event e inner unasked fx step link past => exact ⟨fx, (effects_eq past).symm⟩
    | reply id p holder r served fx step past => exact ⟨fx, (effects_eq past).symm⟩

theorem effects_prefix_of_call (s : Session τ) (op : Op) : s.effects <+: (s.call op).2.effects := by
  obtain ⟨before, after⟩ := s.reaches_call op
  refine (effects_prefix_of_reaches before).trans
    (List.IsPrefix.trans ?_ (effects_prefix_of_reaches after))
  unfold apply
  split
  · exact List.prefix_rfl
  · exact ⟨_, (effects_eq rfl).symm⟩

theorem Tended.answer_await {fuel : Nat} (h : Tended lines [(id, job)] s)
    (answered : (Session.await id fuel s).1 = some a) :
    a.Fits job ∧ (id, a) ∈ returns (Session.await id fuel s).2.effects := by
  induction fuel generalizing s with
  | zero => cases answered
  | succ fuel ih =>
    have tended := h.stirs s.stirs_turn
    rw [unreturned_own] at tended
    unfold Session.await at answered ⊢
    dsimp only at answered ⊢
    split at answered
    · rename_i a' ha
      cases answered
      exact h.fits_stirs s.stirs_turn (mem_returns_of_answer? ha)
    · rename_i ha
      rw [ha, Option.isSome_none, if_neg Bool.false_ne_true] at tended
      exact ih tended answered

theorem Tended.answer_call (h : Tended lines [] s) {op : Op} (hop : ∀ elapsed, op ≠ .tick elapsed)
    (answered : (s.call op).1 = some a) :
    ∃ id job, (s.settle s.moves).sender.incoming (.start op) = [(id, job)] ∧ a.Fits job ∧
      (id, a) ∈ returns (s.call op).2.effects := by
  obtain ⟨h₁, -⟩ := h.settle s.moves
  unfold Session.call at answered ⊢
  dsimp only at answered ⊢
  generalize s.settle s.moves = s₁ at h₁ answered ⊢
  obtain ⟨job, incoming, step, past, tended⟩ := h₁.start hop
  refine ⟨s₁.sender.nextId, job, incoming, ?_⟩
  generalize s₁.apply (.start op) = r at step past tended answered ⊢
  split at answered
  · rename_i a' ha
    cases answered
    have returned := mem_returns_of_answer? ha
    refine ⟨h₁.attended.orderly.fits step ?_ returned, ?_⟩
    · rw [incoming]
      exact List.mem_cons_self
    · rw [effects_eq past, returns_append]
      exact List.mem_append_right _ returned
  · rename_i ha
    rw [ha, Option.isSome_none, if_neg Bool.false_ne_true] at tended
    exact tended.answer_await answered

theorem Tended.outcome_mem (h : Tended lines [] s) (line : String) :
    ((s.settle s.moves).sender.nextId, .outcome (s.send line).1) ∈
      returns (s.send line).2.effects := by
  have hop : ∀ elapsed, Op.send line ≠ .tick elapsed := by simp
  obtain ⟨⟨a, answered⟩, -⟩ := h.call (.send line) hop
  obtain ⟨id, job, incoming, fits, returned⟩ := h.answer_call hop answered
  obtain ⟨rfl, rfl⟩ := Prod.mk.inj (List.singleton_inj.1 incoming)
  cases a with
  | outcome o =>
    unfold Session.send
    rcases hr : s.call (.send line) with ⟨answer, s'⟩
    rw [hr] at answered returned
    cases answered
    exact returned
  | _ => cases fits

theorem Tended.outcome_send (h : Tended lines [] s) (line : String) :
    ∃ id, (id, .outcome (s.send line).1) ∈ returns (s.send line).2.effects :=
  ⟨_, h.outcome_mem line⟩

theorem send_snd (s : Session τ) (line : String) :
    (s.send line).2 = (s.call (.send line)).2 := by
  unfold Session.send
  split
  · rename_i h
    rw [h]
  · rename_i h
    rw [h]

end Session

end MetricRelay
