import MetricRelay.Decimal.Binary64

/-!
The shortest decimal that reads back as a given double, and of those the nearest to it. All
quantities are integers in units of a quarter of `10 ^ -1074`, in which doubles, the points halfway
between them and decimals are all whole.
-/
namespace MetricRelay

/-- The number `digits * 10 ^ (shift - 1074)`. -/
structure Decimal where
  digits : Nat
  shift : Nat
  deriving DecidableEq, Repr

/-- The numbers that round to a double: from `low` to `high`, the ends included if `closed`. -/
structure Rounding where
  low : Nat
  value : Nat
  high : Nat
  closed : Bool
  deriving DecidableEq, Repr

namespace Rounding

def unit (power : Nat) : Nat := Nat.pow 2 power * Nat.pow 5 1074

def ofBinary64 (x : Binary64) : Rounding :=
  let u := unit x.power
  { low := (4 * x.mantissa - if x.narrowBelow then 1 else 2) * u
    value := 4 * x.mantissa * u
    high := (4 * x.mantissa + 2) * u
    closed := x.mantissa % 2 == 0 }

def holds (r : Rounding) (n : Nat) : Bool :=
  if r.closed then r.low ≤ n && n ≤ r.high else r.low < n && n < r.high

def step (shift : Nat) : Nat := 4 * Nat.pow 10 shift

/-- The multiple of `step shift` next to the value that rounds to it, the nearer if both
neighbours do and the upper one at equal distance. -/
def onGrid? (r : Rounding) (shift : Nat) : Option Nat :=
  let g := step shift
  let d := r.value / g
  let rest := r.value % g
  if rest = 0 then some d
  else if r.holds (d * g) && !(r.holds ((d + 1) * g) && g ≤ 2 * rest) then some d
  else if r.holds ((d + 1) * g) then some (d + 1)
  else none

/-- The first decimal found on the way from coarse grids to fine ones. At shift zero every double
is on the grid. -/
def search (r : Rounding) : Nat → Decimal
  | 0 => ⟨r.value / 4, 0⟩
  | shift + 1 =>
    match r.onGrid? (shift + 1) with
    | some d => ⟨d, shift + 1⟩
    | none => r.search shift

def coarsest (r : Rounding) : Nat := (r.high.log2 + 1) * 30103 / 100000 + 1

def shortest (r : Rounding) : Decimal := r.search r.coarsest

end Rounding

end MetricRelay
