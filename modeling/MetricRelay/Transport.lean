/-!
The link that lines are written to, seen from the sender: it is asked for one thing at a time and
gives one reply to each.
-/
namespace MetricRelay

inductive IoFault
  | notFound
  | isDirectory
  | notDirectory
  | alreadyExists
  | invalidData
  | invalidPath
  | nameTooLong
  | connectionReset
  | connectionRefused
  | brokenPipe
  deriving DecidableEq, Repr

def spanText (ms : Nat) : String :=
  if ms = 0 then "0ns"
  else if ms < 1000 then s!"{ms}ms"
  else
    let tail := ((toString (ms % 1000 + 1000)).toList.drop 1).reverse.dropWhile (· == '0')
    if tail.isEmpty then s!"{ms / 1000}s"
    else s!"{ms / 1000}.{String.ofList tail.reverse}s"

inductive TransportFault
  | notConnected
  | connectFailed (endpoint : String) (cause : IoFault)
  | connectTimeout (endpoint : String) (ms : Nat)
  | writeTimeout (ms : Nat)
  | closed
  | io (cause : IoFault)
  deriving DecidableEq, Repr

def TransportFault.message (text : IoFault → String) : TransportFault → String
  | notConnected => "Not connected"
  | connectFailed endpoint cause => s!"Connection to {endpoint} failed: {text cause}"
  | connectTimeout endpoint ms => s!"Connection to {endpoint} timed out after {spanText ms}"
  | writeTimeout ms => s!"Write timed out after {spanText ms}"
  | closed => "Connection closed by peer"
  | io cause => s!"IO error: {text cause}"

inductive Request
  | connect
  | check
  | write (line : String)
  | shutdown
  deriving DecidableEq, Repr

/-- What a transport answers: what went wrong, if anything, and whether it is connected now. -/
structure Reply where
  fault : Option TransportFault
  connected : Bool
  deriving DecidableEq, Repr

class Transport (τ : Type) where
  serve : Request → τ → Reply × τ

structure Address where
  names : List String
  port : Nat
  deriving DecidableEq, Repr

namespace Address

def loopback (port : Nat) : Address := ⟨["localhost", "127.0.0.1"], port⟩

def admits (a : Address) (host : String) (port : Nat) : Bool :=
  a.names.contains (host.map Char.toLower) && a.port = port

end Address

end MetricRelay
