import Mathlib.Tactic.MkIffOfInductiveProp
import MetricRelay.Proofs.Gzip.Member
import MetricRelay.Proofs.Text.Utf8
import MetricRelay.Spool.Spool

namespace MetricRelay

namespace SpoolRecord

theorem decodeNat?_encodeNat {n : Nat} (h : n < Nat.pow 2 64) (rest : Bytes) :
    decodeNat? (encodeNat n ++ rest) = some (n, rest) := by
  have following (width : Nat) (h : n < Nat.pow 256 width) :
      ((LittleEndian.split? width (LittleEndian.encode width n ++ rest)).bind fun read =>
        some (LittleEndian.decode read.1, read.2)) = some (n, rest) := by
    rw [LittleEndian.split?_append (LittleEndian.length_encode width n)]
    simp [LittleEndian.decode_encode h]
  unfold encodeNat
  split_ifs with byte two four
  · have less : UInt8.ofNat n < 251 := by
      rw [UInt8.lt_iff_toNat_lt, UInt8.toNat_ofNat']
      exact Nat.lt_of_le_of_lt (Nat.mod_le ..) byte
    have same : (UInt8.ofNat n).toNat = n := by
      rw [UInt8.toNat_ofNat']
      omega
    simp [decodeNat?, less, same]
  · exact following 2 two
  · exact following 4 four
  · exact following 8 h

theorem decodeString_encodeString {s : String} (h : s.utf8ByteSize ≤ memoryLimit) (rest : Bytes) :
    decodeString (encodeString s ++ rest) = .ok (s, rest) := by
  have number : s.utf8ByteSize < Nat.pow 2 64 := Nat.lt_of_le_of_lt h (by decide)
  rw [decodeString, encodeString, List.append_assoc, decodeNat?_encodeNat number]
  simp only [needed, Option.elim_some, bind, Except.bind, if_neg (Nat.not_lt.2 h), pure, Except.pure,
    LittleEndian.split?_append (Text.length_bytes s), Text.decode?_bytes]

theorem decodeStrings_flatMap {lines : List String} (h : ∀ l ∈ lines, l.utf8ByteSize ≤ memoryLimit)
    (rest : Bytes) :
    decodeStrings lines.length (lines.flatMap encodeString ++ rest) = .ok (lines, rest) := by
  induction lines with
  | nil => rfl
  | cons l lines ih =>
    obtain ⟨first, others⟩ := List.forall_mem_cons.1 h
    rw [List.length_cons, decodeStrings, List.flatMap_cons, List.append_assoc,
      decodeString_encodeString first]
    simp only [bind, Except.bind, ih others]
    rfl

/-- All texts in the record fit into memory, and its time and its count are numbers of 64 bits. -/
@[mk_iff fits_iff]
structure Fits (r : SpoolRecord) : Prop where
  id : r.id.utf8ByteSize ≤ memoryLimit
  storedAt : r.storedAt < Nat.pow 2 64
  count : r.lines.length < Nat.pow 2 64
  lines : ∀ l ∈ r.lines, l.utf8ByteSize ≤ memoryLimit

instance (r : SpoolRecord) : Decidable r.Fits := decidable_of_iff _ (fits_iff r).symm

theorem decode_encode {r : SpoolRecord} (fits : r.Fits) : decode r.encode = .ok r := by
  have strings := decodeStrings_flatMap fits.lines []
  rw [List.append_nil] at strings
  simp only [decode, encode, List.append_assoc, decodeString_encodeString fits.id,
    decodeNat?_encodeNat fits.storedAt, decodeNat?_encodeNat fits.count, strings, needed,
    Option.elim_some, bind, Except.bind]
  rfl

theorem encodeNat_eq_cons {n : Nat} (h : 32 ≤ n) :
    ∃ b data, b ≠ 0x1f ∧ encodeNat n = b :: data := by
  unfold encodeNat
  split_ifs with byte two four
  · refine ⟨_, _, fun marked => ?_, rfl⟩
    have value := congrArg UInt8.toNat marked
    rw [UInt8.toNat_ofNat', Nat.mod_eq_of_lt (Nat.lt_trans byte (by decide))] at value
    exact absurd value (Nat.ne_of_gt h)
  all_goals exact ⟨_, _, by decide, rfl⟩

theorem encode_eq_cons {r : SpoolRecord} (long : 32 ≤ r.id.utf8ByteSize) :
    ∃ b data, b ≠ 0x1f ∧ r.encode = b :: data := by
  obtain ⟨b, data, unmarked, e⟩ := encodeNat_eq_cons long
  rw [encode, encodeString, e]
  exact ⟨b, _, unmarked, rfl⟩

end SpoolRecord

theorem Spool.decode_encode (config : SpoolConfig) {r : SpoolRecord} (fits : r.Fits)
    (long : 32 ≤ r.id.utf8ByteSize) : decode (encode config r) = .ok r := by
  have data : (Gzip.decompress (encode config r)).getD (encode config r) = r.encode := by
    unfold encode
    split
    · rw [Gzip.decompress_compress]
      rfl
    · obtain ⟨b, data, unmarked, e⟩ := SpoolRecord.encode_eq_cons long
      rw [e, Gzip.decompress_eq_none unmarked]
      rfl
  rw [decode, data, SpoolRecord.decode_encode fits]

end MetricRelay
