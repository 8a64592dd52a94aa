import MetricRelay.Gzip.Member
import MetricRelay.Proofs.Gzip.Deflate

namespace MetricRelay

theorem LittleEndian.split?_append {n : Nat} {a : Bytes} (h : a.length = n) (b : Bytes) :
    split? n (a ++ b) = some (a, b) := by
  subst h
  simp [split?]

namespace Gzip

theorem skipHeader_header (body : Bytes) : skipHeader (header ++ body) = some body := rfl

theorem decompress_compress (content : Bytes) : decompress (compress content) = some content := by
  have sum : (crc32 content).toNat < Nat.pow 256 4 := (crc32 content).toNat_lt
  have size : content.length % Nat.pow 2 32 < Nat.pow 256 4 := Nat.mod_lt _ (by decide)
  have decoded := LittleEndian.decode_encode sum
  have decoded' := LittleEndian.decode_encode size
  have split (n : Nat) (rest : Bytes) := LittleEndian.split?_append
    (LittleEndian.length_encode 4 n) rest
  simp only [decompress, compress, List.append_assoc, skipHeader_header, Option.bind_eq_bind,
    Option.bind_some, inflate_deflate, split, decoded]
  rw [← List.append_nil (LittleEndian.encode 4 (content.length % Nat.pow 2 32)), split]
  simp [decoded']

theorem decompress_eq_none {b : UInt8} (h : b ≠ 0x1f) (data : Bytes) :
    decompress (b :: data) = none := by
  have unmarked : skipHeader (b :: data) = none := by
    unfold skipHeader
    split
    · rename_i e
      exact absurd (List.cons.inj e).1 h
    · rfl
  rw [decompress, unmarked]
  rfl

end Gzip

end MetricRelay
