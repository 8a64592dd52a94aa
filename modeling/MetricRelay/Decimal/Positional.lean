import MetricRelay.Decimal.Shortest

namespace MetricRelay.Decimal

def zeros (n : Nat) : List Char := List.replicate n '0'

def pointed (digits : List Char) (places : Nat) : List Char :=
  if places = 0 then digits ++ ['.', '0']
  else
    let padded := zeros (places + 1 - digits.length) ++ digits
    padded.take (padded.length - places) ++ '.' :: padded.drop (padded.length - places)

def positional (d : Decimal) : List Char :=
  let digits := Nat.toDigits 10 d.digits
  if 1074 ≤ d.shift then pointed (digits ++ zeros (d.shift - 1074)) 0
  else pointed digits (1074 - d.shift)

/-- The text of the double with the given bits: the shortest one that reads back, and `NaN` for
everything that is not finite. -/
def ofBits (b : UInt64) : List Char :=
  match Binary64.ofBits? b with
  | none => ['N', 'a', 'N']
  | some x =>
    let text :=
      if x.mantissa = 0 then ['0', '.', '0']
      else positional (Rounding.ofBinary64 x).shortest
    if x.negative then '-' :: text else text

def ofFloat (x : Float) : List Char := ofBits x.toBits

end MetricRelay.Decimal
