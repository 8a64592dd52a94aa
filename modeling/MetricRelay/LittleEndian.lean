import MetricRelay.Text.Utf8

namespace MetricRelay.LittleEndian

def decode : Bytes → Nat
  | [] => 0
  | b :: bs => b.toNat + 256 * decode bs

def encode : Nat → Nat → Bytes
  | 0, _ => []
  | width + 1, n => UInt8.ofNat (n % 256) :: encode width (n / 256)

def split? (n : Nat) (data : Bytes) : Option (Bytes × Bytes) :=
  let (first, rest) := data.splitAt n
  if first.length = n then some (first, rest) else none

@[simp] theorem length_encode (width n : Nat) : (encode width n).length = width := by
  induction width generalizing n with
  | zero => rfl
  | succ width ih => simp [encode, ih]

theorem decode_encode {width n : Nat} (h : n < Nat.pow 256 width) :
    decode (encode width n) = n := by
  induction width generalizing n with
  | zero =>
    have : n < 1 := h
    simp only [encode, decode]
    omega
  | succ width ih =>
    have h : n < Nat.pow 256 width * 256 := h
    have : n / 256 < Nat.pow 256 width := Nat.div_lt_of_lt_mul (by omega)
    simp only [encode, decode, ih this, UInt8.toNat_ofNat']
    omega

end MetricRelay.LittleEndian
