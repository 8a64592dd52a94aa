import MetricRelay.Sender.Step

/-!
A sender among calls on several threads. A call that has passed its checks may be held up before it
asks for the transport, and other calls may run meanwhile.
-/
namespace MetricRelay

/-- What the event does up to the point where a call that it has let through asks for the
transport. -/
def Sender.stir (s : Sender) : Event → Option (Option (CallId × Job) × Sender × List Effect)
  | .start (.tick elapsed) => if s.background.isSome then none else some (s.screen (.tick elapsed))
  | .start op => some (s.screen op)
  | .retire =>
    match s.retiring, s.background with
    | some id, none => some (some (id, .close), { s with retiring := none }, [])
    | _, _ => none
  | e => (s.step e).map fun (s, effects) => (none, s, effects)

structure Crowd where
  sender : Sender
  /-- The calls that have passed their checks and have yet to ask for the transport. -/
  admitted : List (CallId × Job)

namespace Crowd

inductive Act
  | event (e : Event)
  | arrive (id : CallId) (job : Job)
  deriving DecidableEq, Repr

def step (c : Crowd) : Act → Option (Crowd × List Effect)
  | .event e => do
    let (newcomer, sender, effects) ← c.sender.stir e
    return (⟨sender, c.admitted ++ newcomer.toList⟩, effects)
  | .arrive id job =>
    if (id, job) ∈ c.admitted then
      let (sender, effects) := c.sender.arrive id job
      some (⟨sender, c.admitted.erase (id, job)⟩, effects)
    else none

def run (c : Crowd) : List Act → Option (Crowd × List Effect)
  | [] => some (c, [])
  | a :: as => do
    let (c, effects) ← c.step a
    let (c, effects') ← c.run as
    return (c, effects ++ effects')

end Crowd

end MetricRelay
