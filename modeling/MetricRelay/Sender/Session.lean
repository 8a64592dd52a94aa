import MetricRelay.Sender.Step

/-!
A sender used by one caller that waits for each call to return, while background probes come and go
as a list of moves tells.
-/
namespace MetricRelay

inductive Move
  | tick (elapsed : Nat)
  | background
  | foreground
  deriving DecidableEq, Repr

structure Session (τ : Type) where
  sender : Sender
  link : τ
  moves : List Move
  past : List Effect

namespace Session

variable {τ : Type}

def new (sender : Sender) (link : τ) (moves : List Move) : Session τ := ⟨sender, link, moves, []⟩

def apply (s : Session τ) (e : Event) : Session τ × List Effect :=
  match s.sender.step e with
  | none => (s, [])
  | some (sender, effects) => ({ s with sender, past := effects.reverse ++ s.past }, effects)

variable [Transport τ]

def connect (config : SenderConfig) (endpoint : String) (link : τ) (moves : List Move) :
    Except SenderError (Session τ) × τ :=
  match config.validate with
  | .error e => (.error e, link)
  | .ok () =>
    let (reply, link) := Transport.serve .connect link
    ((Sender.startConnected config endpoint reply).map fun s => new s link moves, link)

def reply (s : Session τ) : Session τ × List Effect :=
  match s.sender.holder with
  | none => (s, [])
  | some (_, phase) =>
    let (r, link) := Transport.serve phase.request s.link
    apply { s with link } (.reply r)

def proceed (s : Session τ) : Session τ × List Effect :=
  if s.sender.holder.isSome then s.reply
  else if !s.sender.queue.isEmpty then s.apply .grant
  else s.apply .retire

def proceedBackground (s : Session τ) : Session τ × List Effect :=
  match s.sender.holder, s.sender.queue with
  | some (id, _), _ => if s.sender.background = some id then s.reply else (s, [])
  | none, (id, _) :: _ => if s.sender.background = some id then s.apply .grant else (s, [])
  | none, [] => (s, [])

def turn (s : Session τ) : Session τ × List Effect :=
  match s.moves with
  | .tick elapsed :: moves => apply { s with moves } (.start (.tick elapsed))
  | .background :: moves => proceedBackground { s with moves }
  | .foreground :: moves => proceed { s with moves }
  | [] => s.proceed

def settle (s : Session τ) : List Move → Session τ
  | .tick elapsed :: moves => settle (s.apply (.start (.tick elapsed))).1 moves
  | .background :: moves => settle s.proceedBackground.1 moves
  | .foreground :: moves => { s with moves }
  | [] => { s with moves := [] }

def answer? (id : CallId) (effects : List Effect) : Option Answer :=
  effects.findSome? fun
    | .returned id' a => if id' = id then some a else none
    | _ => none

def await (id : CallId) : Nat → Session τ → Option Answer × Session τ
  | 0, s => (none, s)
  | fuel + 1, s =>
    let (s, effects) := s.turn
    match answer? id effects with
    | some a => (some a, s)
    | none => await id fuel s

def patience (s : Session τ) : Nat := s.sender.buffer.size + 8 * s.moves.length + 16

def call (s : Session τ) (op : Op) : Option Answer × Session τ :=
  let s := s.settle s.moves
  let id := s.sender.nextId
  let (s, effects) := s.apply (.start op)
  match answer? id effects with
  | some a => (some a, s)
  | none => await id s.patience s

def wake (elapsed : Nat) (s : Session τ) : Session τ :=
  s.settle (.tick elapsed :: List.replicate s.patience .background)

def send (line : String) (s : Session τ) : Outcome × Session τ :=
  match s.call (.send line) with
  | (some (.outcome o), s) => (o, s)
  | (_, s) => (.rejected, s)

def drain (s : Session τ) : Session τ := (s.call .drain).2

def close (s : Session τ) : Session τ := (s.call .close).2

def take (s : Session τ) : List String × Session τ := (s.sender.buffer.toList, (s.apply .take).1)

end Session

end MetricRelay
