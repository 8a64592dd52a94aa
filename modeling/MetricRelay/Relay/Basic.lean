import MetricRelay.Http.Client
import MetricRelay.Relay.Notice
import MetricRelay.Sender.Basic
import MetricRelay.Spool.Spool

namespace MetricRelay.Relay

structure Summary where
  /-- The lines of the input that are not blank. -/
  read : Nat
  restored : Nat
  delivered : Nat
  spooled : Nat
  lost : Nat
  deriving DecidableEq, Repr

def Summary.text (s : Summary) : String :=
  s!"Finished: read={s.read} restored={s.restored} delivered={s.delivered}" ++
    s!" spooled={s.spooled} lost={s.lost}"

inductive Error
  | sender (cause : SenderError)
  | http (cause : Http.Error)
  | spool (cause : SpoolError)
  | input (fault : IoFault)
  deriving DecidableEq, Repr

def keep (stamp : Stamp) (lines : List String) (spool : Option Spool) (s : Summary) :
    Summary × Option Spool :=
  if lines.isEmpty then (s, spool)
  else
    match spool with
    | none => ({ s with lost := lines.length }, none)
    | some sp =>
      match sp.store stamp lines with
      | (.ok _, sp) => ({ s with spooled := lines.length }, some sp)
      | (.error _, sp) => ({ s with lost := lines.length }, some sp)

def restore : Option Spool → Result SpoolError (List String) × Option Spool
  | none => (.ok [], none)
  | some sp =>
    let (r, sp) := sp.restore
    (r, some sp)

def restoreNotices (spool : Option Spool) : List Notice :=
  match spool with
  | none => []
  | some s =>
    let found := s.list.map (s.load ·)
    let skipped := (found.takeWhile fun r => !r matches .panicked _).any (· matches .error _)
    let restored :=
      match s.restore.1 with
      | .ok lines => !lines.isEmpty
      | _ => false
    (if skipped then [.fileSkipped] else []) ++ if restored then [.linesRestored] else []

def Summary.notices (s : Summary) (spool : Option Spool) : List Notice :=
  if 0 < s.spooled then [.fileStored, .linesSpooled]
  else if s.lost = 0 then []
  else if spool.isSome then [.spoolFailed]
  else [.linesLost]

end MetricRelay.Relay
