import MetricRelay.Gzip.Deflate
import MetricRelay.LittleEndian

namespace MetricRelay.Gzip

def crcBit (c : UInt32) : UInt32 := if c &&& 1 = 1 then (c >>> 1) ^^^ 0xedb88320 else c >>> 1

def crcByte (c : UInt32) (b : UInt8) : UInt32 :=
  Nat.repeat crcBit 8 (c ^^^ b.toUInt32)

def crc32 (b : Bytes) : UInt32 := ~~~ (b.foldl crcByte 0xffffffff)

def maxText : Nat := 65535

def skipText (data : Bytes) : Option Bytes :=
  match data.span (· != 0) with
  | (text, _ :: rest) => if text.length ≤ maxText then some rest else none
  | (_, []) => none

def skipHeader (data : Bytes) : Option Bytes :=
  match data with
  | 0x1f :: 0x8b :: 8 :: flags :: _ :: _ :: _ :: _ :: _ :: _ :: rest => do
    let has := fun bit => flags.toNat.testBit bit
    if 0x20 ≤ flags then none
    else
      let rest ←
        if has 2 then do
          let (size, rest) ← LittleEndian.split? 2 rest
          Prod.snd <$> LittleEndian.split? (LittleEndian.decode size) rest
        else some rest
      let rest ← if has 3 then skipText rest else some rest
      let rest ← if has 4 then skipText rest else some rest
      if has 1 then
        let (sum, rest') ← LittleEndian.split? 2 rest
        let header := data.take (data.length - rest.length)
        if LittleEndian.decode sum = (crc32 header).toNat % 65536 then some rest' else none
      else some rest
  | _ => none

def decompress (data : Bytes) : Option Bytes := do
  let body ← skipHeader data
  let (content, rest) ← inflate body
  let (sum, rest) ← LittleEndian.split? 4 rest
  let (size, _) ← LittleEndian.split? 4 rest
  if LittleEndian.decode sum = (crc32 content).toNat
      && LittleEndian.decode size = content.length % Nat.pow 2 32 then
    some content
  else none

def header : Bytes := [0x1f, 0x8b, 8, 0, 0, 0, 0, 0, 4, 0xff]

def compress (content : Bytes) : Bytes :=
  header ++ deflate content ++ LittleEndian.encode 4 (crc32 content).toNat
    ++ LittleEndian.encode 4 (content.length % Nat.pow 2 32)

end MetricRelay.Gzip
