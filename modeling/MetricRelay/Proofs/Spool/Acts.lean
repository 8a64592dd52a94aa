import Mathlib.Data.Set.Finite.Basic
import MetricRelay.Proofs.Spool.Deposits
import MetricRelay.Proofs.Spool.Expiry

namespace MetricRelay.Spool

/-- What is done with a spool. -/
inductive Act
  | store (stamp : Stamp) (lines : List String)
  | load (id : String)
  | delete (id : String)
  | restore
  | cleanup (now : Nat)
  /-- Takes the folder into use anew. -/
  | reopen (config : SpoolConfig)
  deriving DecidableEq, Repr

inductive Answer
  | stored (id : Option String)
  | lines (lines : List String)
  | count (n : Nat)
  | done
  deriving DecidableEq, Repr

def act (s : Spool) : Act → Result SpoolError Answer × Spool
  | .store stamp lines => (s.store stamp lines).map (fun r => (Result.ofExcept r).map .stored) id
  | .load id => ((s.load id).map .lines, s)
  | .delete id => (s.delete id).map (fun r => (Result.ofExcept r).map fun _ => .done) (fun s => s)
  | .restore => s.restore.map (·.map .lines) id
  | .cleanup now => (s.cleanup now).map (·.map .count) id
  | .reopen config => (.ok .done, mount config s.folder)

def after (s : Spool) (as : List Act) : Spool := as.foldl (fun s a => (s.act a).2) s

/-- A store goes by a name that nothing in the folder has. An id that is to be deleted is not empty,
or names nothing. -/
def Proper (s : Spool) : Act → Prop
  | .store stamp _ => fileName stamp.id ∉ s.folder.keys
  | .delete id => id = "" → fileName id ∉ s.folder.keys
  | _ => True

def ProperAll (s : Spool) : List Act → Prop
  | [] => True
  | a :: as => s.Proper a ∧ (s.act a).2.ProperAll as

instance (s : Spool) : (a : Act) → Decidable (s.Proper a)
  | .store .. => inferInstanceAs (Decidable (_ ∉ _))
  | .delete _ => inferInstanceAs (Decidable (_ = _ → _ ∉ _))
  | .load _ | .restore | .cleanup _ | .reopen _ => inferInstanceAs (Decidable True)

instance (s : Spool) : (as : List Act) → Decidable (s.ProperAll as)
  | [] => inferInstanceAs (Decidable True)
  | a :: as =>
    have := instDecidableProperAll (s.act a).2 as
    inferInstanceAs (Decidable (_ ∧ _))

variable {s s' : Spool} {a : Act} {as : List Act} {id : String} {lines : List String}
  {stamp : Stamp} {config : SpoolConfig} {folder : Folder} {now : Nat}

theorem act_cases (s : Spool) (a : Act) :
    (s.act a).2 = s ∨
      (∃ stamp lines, a = .store stamp lines ∧ s.Stores stamp lines (s.act a).2) ∨
      (∃ id, a = .delete id ∧ (s.act a).2 = s.remove id) ∨
      (∃ ids ⊆ s.list, (s.act a).2 = s.without ids) ∨
      ∃ config, a = .reopen config ∧ (s.act a).2 = mount config s.folder := by
  cases a with
  | store stamp lines =>
    obtain ⟨-, stored⟩ | ⟨-, s', stored, stores⟩ | ⟨-, -, stored⟩ | ⟨-, -, -, stored⟩ :=
      s.store_cases stamp lines
    · exact .inl (congrArg Prod.snd stored)
    · exact .inr (.inl ⟨stamp, lines, rfl, by rwa [act, stored]⟩)
    · exact .inl (congrArg Prod.snd stored)
    · exact .inl (congrArg Prod.snd stored)
  | load id => exact .inl rfl
  | delete id =>
    obtain ⟨e, deleted⟩ | deleted := delete_cases id s
    · exact .inl (congrArg Prod.snd deleted)
    · exact .inr (.inr (.inl ⟨id, rfl, congrArg Prod.snd deleted⟩))
  | restore =>
    refine .inr (.inr (.inr (.inl ⟨s.taken, fun id mem => ?_, congrArg Prod.snd s.restore_eq⟩)))
    exact (List.takeWhile_sublist _).subset (List.mem_filter.1 mem).1
  | cleanup now =>
    refine .inr (.inr (.inr (.inl ⟨s.outdated now, fun id mem => ?_,
      congrArg Prod.snd (s.cleanup_eq now)⟩)))
    exact (List.takeWhile_sublist _).subset (List.mem_filter.1 mem).1
  | reopen config => exact .inr (.inr (.inr (.inr ⟨config, rfl, rfl⟩)))

theorem Exact.act (h : s.Exact) (proper : s.Proper a) : (s.act a).2.Exact := by
  obtain same | ⟨stamp, lines, rfl, stores⟩ | ⟨id, rfl, gone⟩ | ⟨ids, listed, gone⟩ |
    ⟨config, rfl, fresh⟩ := s.act_cases a
  · rwa [same]
  · exact h.stores stores proper
  · exact gone ▸ h.remove proper
  · exact gone ▸ h.without fun id mem => (mem_list.1 (listed mem)).1
  · exact fresh ▸ exact_mount h.honest config

theorem Exact.after (h : s.Exact) (proper : s.ProperAll as) : (s.after as).Exact := by
  induction as generalizing s with
  | nil => exact h
  | cons a as ih => exact ih (h.act proper.1) proper.2

def tight : SpoolConfig :=
  { SpoolConfig.default with maxUsage := 120, compression := false }

def stamped (n : Nat) : Stamp := ⟨1700000000000, n, "00000000-0000-4000-8000-000000000000"⟩

def busy : List Act :=
  [.restore, .delete "old", .store (stamped 0) ["a\n"], .store (stamped 1) ["b\n"],
    .reopen { tight with maxUsage := 180 }, .store (stamped 2) ["b\n"], .load (stamped 2).id,
    .delete (stamped 0).id, .delete "none", .restore, .cleanup 1700000000001,
    .store (stamped 3) ["c\n"]]

def linked : Folder :=
  .ofList [("l.spool", .link (.file [1, 108, 0, 1, 1, 113])), ("note", .file [1, 2])]

end MetricRelay.Spool
