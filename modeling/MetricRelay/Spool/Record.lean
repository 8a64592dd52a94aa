import MetricRelay.LittleEndian
import MetricRelay.Result

namespace MetricRelay

structure SpoolRecord where
  id : String
  /-- In milliseconds since the epoch. -/
  storedAt : Nat
  lines : List String
  deriving DecidableEq, Repr

namespace SpoolRecord

inductive Fault
  | malformed
  | oversized
  deriving DecidableEq, Repr

def encodeNat (n : Nat) : Bytes :=
  if n < 251 then [UInt8.ofNat n]
  else if n < Nat.pow 2 16 then 251 :: LittleEndian.encode 2 n
  else if n < Nat.pow 2 32 then 252 :: LittleEndian.encode 4 n
  else 253 :: LittleEndian.encode 8 n

def decodeNat? : Bytes → Option (Nat × Bytes)
  | [] => none
  | b :: data =>
    let following := fun width => do
      let (n, data) ← LittleEndian.split? width data
      return (LittleEndian.decode n, data)
    if b < 251 then some (b.toNat, data)
    else if b = 251 then following 2
    else if b = 252 then following 4
    else if b = 253 then following 8
    else none

def encodeString (s : String) : Bytes := encodeNat s.utf8ByteSize ++ Text.bytes s

def needed {α : Type} (o : Option α) : Except Fault α := o.elim (.error .malformed) .ok

/-- Room is made for the text before its bytes are looked for. -/
def decodeString (data : Bytes) : Except Fault (String × Bytes) := do
  let (size, data) ← needed (decodeNat? data)
  if memoryLimit < size then throw .oversized
  let (text, data) ← needed (LittleEndian.split? size data)
  return (← needed (Text.decode? text), data)

def decodeStrings : Nat → Bytes → Except Fault (List String × Bytes)
  | 0, data => .ok ([], data)
  | n + 1, data => do
    let (s, data) ← decodeString data
    let (rest, data) ← decodeStrings n data
    return (s :: rest, data)

def encode (r : SpoolRecord) : Bytes :=
  encodeString r.id ++ encodeNat r.storedAt ++ encodeNat r.lines.length
    ++ r.lines.flatMap encodeString

def decode (data : Bytes) : Except Fault SpoolRecord := do
  let (id, data) ← decodeString data
  let (storedAt, data) ← needed (decodeNat? data)
  let (count, data) ← needed (decodeNat? data)
  let (lines, _) ← decodeStrings count data
  return { id, storedAt, lines }

end SpoolRecord

end MetricRelay
