import MetricRelay.Text.Utf8

namespace MetricRelay.Gzip

structure BitReader where
  data : Bytes
  bit : Nat

namespace BitReader

def ofBytes (data : Bytes) : BitReader := ⟨data, 0⟩

def next? (r : BitReader) : Option (Nat × BitReader) :=
  match r.data with
  | [] => none
  | b :: rest =>
    some (b.toNat / Nat.pow 2 r.bit % 2, if r.bit < 7 then ⟨r.data, r.bit + 1⟩ else ⟨rest, 0⟩)

def number? : Nat → BitReader → Option (Nat × BitReader)
  | 0, r => some (0, r)
  | n + 1, r => do
    let (b, r) ← r.next?
    let (high, r) ← number? n r
    return (b + 2 * high, r)

def rest (r : BitReader) : Bytes := if r.bit = 0 then r.data else r.data.drop 1

def bound (r : BitReader) : Nat := 8 * r.data.length

end BitReader

def ofBits : List Bool → Nat
  | [] => 0
  | b :: bits => b.toNat + 2 * ofBits bits

/-- Lowest bit first, filled up with zeros. -/
def packBits (bits : List Bool) : Bytes :=
  match bits with
  | [] => []
  | b :: rest =>
    let byte := (b :: rest).take 8
    UInt8.ofNat (ofBits byte) :: packBits (rest.drop 7)
termination_by bits.length
decreasing_by
  simp only [List.length_drop, List.length_cons]
  omega

def lowFirst (width n : Nat) : List Bool := (List.range width).map n.testBit

def highFirst (width n : Nat) : List Bool := (lowFirst width n).reverse

end MetricRelay.Gzip
