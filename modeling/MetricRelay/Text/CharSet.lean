import MetricRelay.Text.Digits
import MetricRelay.Text.Lines

namespace MetricRelay.Text

structure CodeRange where
  first : Nat
  last : Nat
  deriving DecidableEq, Repr

namespace CodeRange

def contains (r : CodeRange) (c : Char) : Bool := r.first ≤ c.toNat && c.toNat ≤ r.last

/-- Reads `41-5A`, or `41` for one code point. -/
def read? (s : List Char) : Option CodeRange :=
  match splitOn '-' s with
  | [a] => (numeral? 16 a).map fun n => ⟨n, n⟩
  | [a, b] => return ⟨← numeral? 16 a, ← numeral? 16 b⟩
  | _ => none

end CodeRange

structure CharSet where
  ranges : Array CodeRange
  deriving DecidableEq, Repr

namespace CharSet

def ofTable (lines : List String) : CharSet where
  ranges := Array.mk <| lines.flatMap fun line => (splitOn ' ' line.toList).filterMap CodeRange.read?

def contains (s : CharSet) (c : Char) : Bool := s.ranges.any (·.contains c)

end CharSet

end MetricRelay.Text
