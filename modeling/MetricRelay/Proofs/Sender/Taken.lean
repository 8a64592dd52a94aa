import MetricRelay.Proofs.Sender.Advance
import MetricRelay.Proofs.Sender.Writes

namespace MetricRelay.Session

open Effect

variable {ν : Type} {s s' : Session (Tcp (Recorded ν))}

def Truthful (s : Session (Tcp (Recorded ν))) : Prop := s.link.network.taken = writes s.effects

theorem Truthful.quiet {fx : List Effect} (h : s.Truthful) (link : s'.link = s.link)
    (past : s'.past = fx.reverse ++ s.past) (silent : writes fx = []) : s'.Truthful := by
  rw [Truthful, link, effects_eq past, writes_append, silent, List.append_nil]
  exact h

theorem Truthful.apply {e : Event} (h : s.Truthful) (other : ∀ r, e ≠ .reply r) :
    (s.apply e).1.Truthful := by
  unfold Session.apply
  split
  · exact h
  · rename_i sender fx step
    exact h.quiet rfl rfl (Sender.writes_of_ne_reply step other)

variable [Network ν]

theorem Truthful.advance (h : s.Truthful) (advance : Advance s s') : s'.Truthful := by
  cases advance with
  | still sender link past => rwa [Truthful, link, effects, past]
  | event e inner unasked fx step link past =>
    exact h.quiet link past (Sender.writes_of_ne_reply step unasked)
  | reply id p holder r served fx step past =>
    rw [Truthful, effects_eq past, writes_append, Sender.writes_reply holder step,
      Tcp.taken_served served, h]

theorem Truthful.reaches (h : s.Truthful) (reaches : Reaches s s') : s'.Truthful := by
  induction reaches with
  | refl => exact h
  | tail _ last ih => exact ih.advance last

theorem Truthful.call (h : s.Truthful) (op : Op) : (s.call op).2.Truthful := by
  obtain ⟨before, after⟩ := s.reaches_call op
  exact ((h.reaches before).apply (by simp)).reaches after

theorem Truthful.send (h : s.Truthful) (line : String) : (s.send line).2.Truthful := by
  rw [send_snd]
  exact h.call _

theorem truthful_connect {config : SenderConfig} {endpoint : String}
    {link link' : Tcp (Recorded ν)} {moves : List Move} (fresh : link.network.taken = [])
    (h : connect config endpoint link moves = (.ok s, link')) : s.Truthful := by
  obtain ⟨reply, sender, served, -, rfl⟩ := connect_ok h
  have taken := Tcp.taken_served served
  rw [fresh, Request.texts, ite_self] at taken
  · exact taken
  · simp

end MetricRelay.Session
