import Mathlib.Algebra.Order.BigOperators.Group.List
import Mathlib.Algebra.Order.Group.Nat
import MetricRelay.Proofs.Command.Ending
import MetricRelay.Proofs.Relay.Agreement

namespace MetricRelay.Relay

open Text

theorem inputLines_nil : inputLines "" = [] := by decide

theorem inputLines_compose_append (command : Command) (rest : String) :
    inputLines (command.compose ++ rest) = trimEnd command.compose :: inputLines rest := by
  have visible : isBlank (trimEnd command.compose) = false :=
    (isBlank_trimEnd _).trans command.isBlank_compose
  have line : trimEnd command.compose = String.ofList (dropBlanksEnd command.body) := by
    rw [trimEnd, command.toList_compose, dropBlanksEnd_concat _ (by decide)]
  rw [inputLines, String.toList_append, command.toList_compose, List.append_assoc,
    List.singleton_append, splitOn_append command.lineFeed_notMem_body, List.map_cons,
    ← List.singleton_append, legible_append, legible, List.map_singleton, trimEnd_ofList, ← line,
    List.filter_singleton, visible]
  rfl

theorem inputLines_commands (commands : List Command) :
    inputLines (String.join (commands.map Command.compose)) =
      commands.map fun command => trimEnd command.compose := by
  induction commands with
  | nil => exact inputLines_nil
  | cons command commands ih =>
    rw [List.map_cons, String.join_cons, inputLines_compose_append, ih, List.map_cons]

section

variable {α : Type} {f g : α → String} {l : List α}

theorem join_eq_join_iff (h : ∀ a ∈ l, (f a).length ≤ (g a).length) :
    String.join (l.map f) = String.join (l.map g) ↔ ∀ a ∈ l, f a = g a := by
  induction l with
  | nil => simp
  | cons a l ih =>
    obtain ⟨here, rest⟩ := List.forall_mem_cons.1 h
    rw [List.map_cons, List.map_cons, String.join_cons, String.join_cons, List.forall_mem_cons,
      ← ih rest]
    refine ⟨fun same => ?_, fun same => by rw [same.1, same.2]⟩
    have total := congrArg String.length same
    rw [String.length_append, String.length_append] at total
    have : (String.join (l.map f)).length ≤ (String.join (l.map g)).length := by
      rw [String.length_join, String.length_join, List.map_map, List.map_map]
      exact List.sum_le_sum rest
    rw [← String.toList_inj, ← String.toList_inj]
    rw [← String.toList_inj, String.toList_append, String.toList_append] at same
    refine List.append_inj same ?_
    rw [String.length_toList, String.length_toList]
    omega

end

variable {ν σ : Type} {c : Config} {moves : List Move} {stamp : Stamp} {chunks : List Bytes}
  {w : World ν σ} {mounted : Option Mounted}

/-- What has left: all that was put on the connection, or the bodies of the posts. -/
def outgoing (c : Config) (w : World (Recorded ν) (Http.Recorded σ)) : String :=
  if c.viaHttp then String.join w.server.bodies else w.network.text

variable [Network ν] [Http.Server σ]

theorem outgoing_of_succeeds {text : String}
    (h : Plain.Succeeds c moves stamp chunks w mounted ∨
      Posting.Succeeds c moves stamp chunks w mounted)
    (read : chunks.flatten = Text.bytes text)
    (light : ¬Overburdened c.batchSize (mounted.map (·.spool))) :
    let r := run c moves stamp (fed _ chunks) w.recorded
    let lines := readable c w.disk ++ inputLines text
    r.1.result = .ok (.complete (inputLines text).length (readable c w.disk).length) ∧
      outgoing c r.2 = String.join (lines.map terminated) := by
  obtain plain | posting := h
  · obtain ⟨result, texts⟩ := plain.delivered read light
    refine ⟨result, ?_⟩
    rw [outgoing, plain.viaHttp, if_neg Bool.false_ne_true, Recorded.text, texts]
  · obtain ⟨result, batches, flat, -, bodies⟩ := posting.delivered read light
    refine ⟨result, ?_⟩
    rw [outgoing, if_pos posting.viaHttp, bodies, Http.Client.join_map_body, flat]
    rfl

theorem outgoing_of_overburdened
    (h : Plain.Succeeds c moves stamp chunks w mounted ∨
      Posting.Succeeds c moves stamp chunks w mounted)
    (none_ : readable c w.disk = [])
    (burdened : Overburdened c.batchSize (mounted.map (·.spool))) :
    let r := run c moves stamp (fed _ chunks) w.recorded
    r.1.result = .panicked .capacityOverflow ∧ outgoing c r.2 = "" := by
  obtain plain | posting := h
  · obtain ⟨stopped, texts⟩ := plain.panicked burdened
    refine ⟨stopped, ?_⟩
    rw [outgoing, plain.viaHttp, if_neg Bool.false_ne_true, Recorded.text, texts none_]
    rfl
  · obtain ⟨stopped, bodies⟩ := posting.panicked burdened
    refine ⟨stopped, ?_⟩
    rw [outgoing, if_pos posting.viaHttp, bodies none_]
    rfl

/-- Of composed commands as many lines are read as there are commands, and each of them leaves
without the white space at its end. So what leaves is what was composed exactly if no command ends
with white space outside quotes. But nothing leaves if the program stops since no memory can hold what
it is to hold at once. -/
theorem outgoing_of_commands {commands : List Command}
    (h : Plain.Succeeds c moves stamp chunks w mounted ∨
      Posting.Succeeds c moves stamp chunks w mounted)
    (none_ : readable c w.disk = [])
    (read : chunks.flatten = Text.bytes (String.join (commands.map Command.compose))) :
    let r := run c moves stamp (fed _ chunks) w.recorded
    let burdened := Overburdened c.batchSize (mounted.map (·.spool))
    (burdened → r.1.result = .panicked .capacityOverflow ∧ outgoing c r.2 = "") ∧
      (¬burdened → r.1.result = .ok (.complete commands.length 0) ∧
        outgoing c r.2 = String.join (commands.map Command.trimmed) ∧
        (outgoing c r.2 = String.join (commands.map Command.compose) ↔
          ∀ command ∈ commands, command.endsBlank = false)) := by
  refine ⟨outgoing_of_overburdened h none_, fun light => ?_⟩
  have lines : (inputLines (String.join (commands.map Command.compose))).map terminated =
      commands.map Command.trimmed := by
    rw [inputLines_commands, List.map_map]
    exact List.map_congr_left fun command _ => by
      rw [Function.comp_apply, terminated_trimEnd, Command.trimmed]
  have count : (inputLines (String.join (commands.map Command.compose))).length =
      commands.length := by
    rw [inputLines_commands, List.length_map]
  obtain ⟨result, leaves⟩ := outgoing_of_succeeds h read light
  rw [none_, count] at result
  rw [none_, List.nil_append, lines] at leaves
  refine ⟨result, leaves, ?_⟩
  rw [leaves, join_eq_join_iff fun command _ => command.length_trimmed_le]
  exact forall₂_congr fun command _ => command.trimmed_eq_iff

def spaced : Message := ⟨⟨"e", by decide⟩, none, none, none, none, .empty, "x\u00a0"⟩

def willing : World Peer Http.Scripted :=
  { disk := .build [] [] []
    network := .new (.loopback 8081) true
    server := .new (.loopback 8088) true [] }

theorem outgoing_of_commands_spaced :
    let c := { Config.default with viaHttp := true }
    let text := String.join ([.message spaced, .message spaced].map Command.compose)
    let r := run c [] ⟨0, 0, ""⟩ (fed _ [Text.bytes text]) willing.recorded
    Message.new "e" "x\u00a0" = .ok spaced ∧ r.1.result = .ok ⟨2, 0, 2, 0, 0⟩ ∧
      outgoing c r.2 = "message e:e m:x\nmessage e:e m:x\n" ∧ outgoing c r.2 ≠ text := by
  let text := String.join ([.message spaced, .message spaced].map Command.compose)
  have posting : Posting.Succeeds { Config.default with viaHttp := true } [] ⟨0, 0, ""⟩
      [Text.bytes text] willing none :=
    ⟨rfl, by decide, rfl, ⟨_, rfl⟩, by decide +kernel⟩
  have read : [Text.bytes text].flatten =
      Text.bytes (String.join ([.message spaced, .message spaced].map Command.compose)) :=
    List.flatten_singleton
  obtain ⟨result, leaves, same⟩ :=
    (outgoing_of_commands (.inr posting) rfl read).2 (by decide +kernel)
  exact ⟨rfl, result, leaves.trans (by decide +kernel), mt same.1 (by decide +kernel)⟩

theorem not_outgoing_of_message :
    ¬∀ (entity text : String) (m : Message) (c : Config) (moves : List Move) (stamp : Stamp)
      (w : World Peer Http.Scripted) (mounted : Option Mounted), Message.new entity text = .ok m →
      c.validate w.disk = .ok () →
      Plain.Succeeds c moves stamp [Text.bytes (Command.message m).compose] w mounted →
      readable c w.disk = [] →
      (run c moves stamp (fed _ [Text.bytes (Command.message m).compose]) w.recorded).2.network.text
        = (Command.message m).compose := by
  intro verbatim
  have ok : (run Config.default [] ⟨0, 0, ""⟩
      (fed _ [Text.bytes (Command.message spaced).compose]) willing.recorded).1.result =
        .ok ⟨1, 0, 1, 0, 0⟩ := by
    decide +kernel
  obtain ⟨mounted, p, link, mounts, connects, -⟩ := runPlain_of_run_ok rfl ok
  have plain : Plain.Succeeds Config.default [] ⟨0, 0, ""⟩
      [Text.bytes (Command.message spaced).compose] willing mounted :=
    ⟨rfl, by decide, mounts, ⟨p, link, connects⟩, by decide +kernel⟩
  have := verbatim "e" "x\u00a0" spaced Config.default [] ⟨0, 0, ""⟩ willing mounted rfl
    (by decide +kernel) plain rfl
  revert this
  decide +kernel

end MetricRelay.Relay
