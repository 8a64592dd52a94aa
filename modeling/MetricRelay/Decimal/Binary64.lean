namespace MetricRelay

/-- A finite double, worth `± mantissa * 2 ^ (power - 1074)`. -/
structure Binary64 where
  negative : Bool
  mantissa : Nat
  power : Nat
  narrowBelow : Bool
  deriving DecidableEq, Repr

namespace Binary64

def fractionBits (b : UInt64) : Nat := b.toNat % Nat.pow 2 52

def exponentBits (b : UInt64) : Nat := b.toNat / Nat.pow 2 52 % Nat.pow 2 11

def ofBits? (b : UInt64) : Option Binary64 :=
  let negative := Nat.pow 2 63 ≤ b.toNat
  let fraction := fractionBits b
  match exponentBits b with
  | 2047 => none
  | 0 => some ⟨negative, fraction, 0, false⟩
  | e + 1 => some ⟨negative, Nat.pow 2 52 + fraction, e, fraction == 0 && e != 0⟩

end Binary64

/-- The double next to `m * 10 ^ e`. Far beyond the range of doubles the exponent does not matter. -/
def Decimal.scientific (m : Nat) (e : Int) : Float :=
  let digits := (Nat.toDigits 10 m).length
  if m = 0 || e + digits < -400 then 0
  else if 400 < e + digits then 1.0 / 0.0
  else Float.ofScientific m (e < 0) e.natAbs

end MetricRelay
