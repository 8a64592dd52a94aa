import MetricRelay.Command.Line
import MetricRelay.Sender.Session
import MetricRelay.Sender.Timeline

namespace MetricRelay

structure BatchReport where
  total : Nat
  attempted : Nat
  sent : Nat
  deriving DecidableEq, Repr

namespace BatchReport

def allSent (r : BatchReport) : Bool := r.sent == r.total

def aborted (r : BatchReport) : Bool := r.attempted < r.total

end BatchReport

namespace Batch

variable {σ : Type}

def dispatchFrom (send : String → σ → Outcome × σ) (tolerant : Bool) :
    BatchReport → List String → σ → BatchReport × σ
  | r, [], s => (r, s)
  | r, line :: lines, s =>
    let (outcome, s) := send line s
    let r := { r with attempted := r.attempted + 1 }
    if outcome = .sent then dispatchFrom send tolerant { r with sent := r.sent + 1 } lines s
    else if tolerant then dispatchFrom send tolerant r lines s
    else (r, s)

def dispatch (send : String → σ → Outcome × σ) (tolerant : Bool) (lines : List String) (s : σ) :
    BatchReport × σ :=
  dispatchFrom send tolerant ⟨lines.length, 0, 0⟩ lines s

def dispatchCommands (send : String → σ → Outcome × σ) (tolerant : Bool) (commands : List Command)
    (s : σ) : BatchReport × σ :=
  dispatch send tolerant (commands.map Command.compose) s

end Batch

def Timeline.send (line : String) (t : Timeline) : Outcome × Timeline :=
  match t.call [.send line] with
  | ([.outcome o], t) => (o, t)
  | (_, t) => (.rejected, t)

end MetricRelay
