import MetricRelay.Result
import MetricRelay.Text.Lines
import MetricRelay.Text.Utf8
import MetricRelay.Transport

namespace MetricRelay.Relay

variable {τ : Type}

inductive Chunk (τ : Type)
  | data (b : Bytes)
  | change (f : τ → τ)

inductive Ending
  | eof
  /-- The relay is told to stop. What has come of a line is lost. -/
  | cancelled
  | failed (fault : IoFault)
  deriving DecidableEq, Repr

inductive Arrival (τ : Type)
  | line (s : String)
  | change (f : τ → τ)
  | stop
  | failed (fault : IoFault)

def lineFeed : UInt8 := 0x0a

def carriageReturn : UInt8 := 0x0d

/-- The lines that are complete, without their line feeds, and the one that has been begun. That one
is turned around, here as in what follows. -/
def cutLines (lines : List Bytes) (begun : Bytes) : Bytes → List Bytes × Bytes
  | [] => (lines.reverse, begun)
  | b :: rest =>
    if b = lineFeed then cutLines (begun.reverse :: lines) [] rest
    else cutLines lines (b :: begun) rest

def Arrival.ofBytes (b : Bytes) : Arrival τ :=
  match Text.decode? b with
  | some s => .line s
  | none => .failed .invalidData

def dropReturn (b : Bytes) : Bytes :=
  if b.getLast? = some carriageReturn then b.dropLast else b

def Ending.arrivals (begun : Bytes) : Ending → List (Arrival τ)
  | eof => if begun.isEmpty then [] else [.ofBytes begun.reverse]
  | cancelled => [.stop]
  | failed fault => [.failed fault]

def arrivals (ending : Ending) (begun : Bytes) : List (Chunk τ) → List (Arrival τ)
  | [] => ending.arrivals begun
  | .change f :: chunks => .change f :: arrivals ending begun chunks
  | .data b :: chunks =>
    let (lines, begun) := cutLines [] begun b
    lines.map (fun line => .ofBytes (dropReturn line)) ++ arrivals ending begun chunks

/-- A batch of lines, and what happened to the link before they were complete. -/
structure Round (τ : Type) where
  changes : List (τ → τ)
  lines : List String
  fault : Option IoFault
  stopped : Bool

/-- A batch that is being read. Its changes and its lines are turned around. -/
structure Gathering (τ : Type) where
  room : Nat
  changes : List (τ → τ)
  lines : List String

namespace Gathering

def new (size : Nat) : Gathering τ := ⟨size, [], []⟩

def round (g : Gathering τ) (fault : Option IoFault) : Round τ :=
  ⟨g.changes.reverse, g.lines.reverse, fault, false⟩

def add (g : Gathering τ) : Arrival τ → Gathering τ ⊕ Round τ
  | .change f => .inl { g with changes := f :: g.changes }
  | .stop => .inr { g.round none with stopped := true }
  | .failed fault => .inr (g.round (some fault))
  | .line s =>
    let s := Text.trimEnd s
    if Text.isBlank s then .inl g
    else
      let g := { g with room := g.room - 1, lines := s :: g.lines }
      if g.room = 0 then .inr (g.round none) else .inl g

end Gathering

def batchLimit : Nat := memoryLimit / 24

end MetricRelay.Relay
