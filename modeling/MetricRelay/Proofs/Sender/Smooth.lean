import MetricRelay.Proofs.Sender.Flow
import MetricRelay.Proofs.Sender.Writes

namespace MetricRelay.Session

open Effect

variable {ν : Type} {lines : List String} {s s' : Session (Tcp (Recorded ν))}

abbrev Clean (s : Session (Tcp (Recorded ν))) : Prop := s.link.network.Clean

structure Smooth (lines : List String) (s : Session (Tcp (Recorded ν))) : Prop where
  flowing : s.sender.Flowing lines s.effects
  connected : s.link.connected = true

def Faithful (s : Session (Tcp (Recorded ν))) : Prop := s.link.network.texts = writes s.effects

theorem Smooth.writes_eq (h : Smooth lines s) (tended : Tended lines [] s) :
    writes s.effects = lines := by
  have written := h.flowing.written
  rw [← Sender.underway_of_open h.flowing.retiring, tended.attended.sending_eq] at written
  simpa using written

theorem Faithful.start {e : Event} (h : s.Faithful) (other : ∀ r, e ≠ .reply r) :
    (s.apply e).1.Faithful := by
  unfold apply
  split
  · exact h
  · rename_i sender fx step
    rw [Faithful, effects_eq (s := s) rfl, writes_append, Sender.writes_of_ne_reply step other,
      List.append_nil]
    exact h

variable [Network ν]

theorem clean_of_advance (h : Advance s s') (clean : s'.Clean) : s.Clean := by
  cases h with
  | still sender link past => rwa [Clean, ← link]
  | event e inner unasked fx step link past => rwa [Clean, ← link]
  | reply id p holder r served fx step past =>
    exact (Tcp.served served clean).clean

theorem clean_of_reaches (h : Reaches s s') (clean : s'.Clean) : s.Clean := by
  induction h using Relation.ReflTransGen.head_induction_on with
  | refl => exact clean
  | head first _ ih => exact clean_of_advance first ih

theorem Faithful.advance (h : s.Faithful) (step : Advance s s') (clean : s'.Clean) :
    s'.Faithful := by
  cases step with
  | still sender link past => rwa [Faithful, link, effects, past]
  | event e inner unasked fx step link past =>
    rw [Faithful, link, effects_eq past, writes_append, Sender.writes_of_ne_reply step unasked,
      List.append_nil]
    exact h
  | reply id p holder r served fx step past =>
    have done := Tcp.served served clean
    rw [Faithful, effects_eq past, writes_append, Sender.writes_reply holder step, done.texts, h]

theorem Smooth.advance (h : Smooth lines s) (step : Advance s s') (clean : s'.Clean) :
    Smooth lines s' := by
  cases step with
  | still sender link past =>
    refine ⟨?_, by rw [link, h.connected]⟩
    rw [sender, effects, past]
    exact h.flowing
  | event e inner unasked fx step link past =>
    refine ⟨?_, by rw [link, h.connected]⟩
    rw [effects_eq past]
    exact h.flowing.step step inner fun r e => absurd e (unasked r)
  | reply id p holder r served fx step past =>
    have other : p.request ≠ .shutdown := by
      obtain rfl | ⟨line, rfl⟩ := h.flowing.direct id p holder <;> simp [Phase.request]
    obtain ⟨rfl, connected⟩ := (Tcp.served served clean).met other (.inr h.connected)
    refine ⟨?_, connected⟩
    rw [effects_eq past]
    exact h.flowing.step step rfl fun r' e => by cases e; exact ⟨rfl, rfl⟩

theorem Reaches.of_clean {P : Session (Tcp (Recorded ν)) → Prop}
    (step : ∀ {s s'}, P s → Advance s s' → s'.Clean → P s') (h : Reaches s s') (clean : s'.Clean)
    (start : P s) : P s' := by
  induction h with
  | refl => exact start
  | tail _ last ih => exact step (ih (clean_of_advance last clean)) last clean

section

variable {op : Op}

theorem clean_settle_of_call (clean : (s.call op).2.Clean) : (s.settle s.moves).Clean := by
  have clean := clean_of_reaches (s.reaches_call op).2 clean
  rwa [Clean, link_apply] at clean

theorem clean_of_call (clean : (s.call op).2.Clean) : s.Clean :=
  clean_of_reaches (s.reaches_settle s.moves) (clean_settle_of_call clean)

theorem Faithful.call (h : s.Faithful) (clean : (s.call op).2.Clean) : (s.call op).2.Faithful := by
  obtain ⟨before, after⟩ := s.reaches_call op
  have h₁ := before.of_clean Faithful.advance (clean_settle_of_call clean) h
  exact after.of_clean Faithful.advance clean (h₁.start (by simp))

theorem Smooth.call {lines' : List String} (h : Smooth lines s) (tended : Tended lines [] s)
    (clean : (s.call op).2.Clean) (hop : ∀ elapsed, op ≠ .tick elapsed)
    (start : ∀ (sender : Sender) (past : List Effect), sender.Flowing lines past →
      Sender.sending sender.inTurn = [] →
      Sender.Flowing lines' (past ++ (sender.start op).2) (sender.start op).1) :
    Smooth lines' (s.call op).2 := by
  obtain ⟨before, after⟩ := s.reaches_call op
  have h₁ := before.of_clean Smooth.advance (clean_settle_of_call clean) h
  obtain ⟨tended₁, -⟩ := tended.settle s.moves
  generalize s.settle s.moves = s₁ at after h₁ tended₁
  have alone : Sender.sending s₁.sender.inTurn = [] := by
    rw [← Sender.underway_of_open h₁.flowing.retiring]
    exact tended₁.attended.sending_eq
  have started := start _ _ h₁.flowing alone
  refine after.of_clean Smooth.advance clean ⟨?_, by rw [link_apply, h₁.connected]⟩
  obtain ⟨-, -, step, past, -⟩ := tended₁.start hop
  rw [Sender.step_start step] at started
  rwa [effects_eq past]

end

theorem Smooth.send (h : Smooth lines s) (tended : Tended lines [] s) {line : String}
    (clean : (s.send line).2.Clean) :
    (s.send line).1 = .sent ∧ Smooth (lines ++ [terminated line]) (s.send line).2 := by
  have next : Smooth (lines ++ [terminated line]) (s.send line).2 := by
    rw [send_snd] at clean ⊢
    exact h.call tended clean (by simp) fun sender past flowing alone => flowing.send alone line
  obtain ⟨id, returned⟩ := tended.outcome_send line
  exact ⟨next.flowing.sent _ returned _ rfl, next⟩

theorem Smooth.drain (h : Smooth lines s) (tended : Tended lines [] s) (clean : s.drain.Clean) :
    Smooth lines s.drain :=
  h.call tended clean (by simp) fun _ _ flowing _ => flowing.drain

end MetricRelay.Session
