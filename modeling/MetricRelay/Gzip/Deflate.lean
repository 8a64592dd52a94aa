import MetricRelay.Gzip.Inflate
import Std.Data.TreeMap

namespace MetricRelay.Gzip

inductive Piece
  | literal (b : UInt8)
  | copy (length distance : Nat)
  deriving DecidableEq, Repr

/-- How many bytes from `i` on are the same as from `j` on, up to `limit`. -/
def matchLength (data : Array UInt8) (i j : Nat) : Nat → Nat
  | 0 => 0
  | limit + 1 =>
    if i < data.size && data.getD i 0 == data.getD j 0 then
      matchLength data (i + 1) (j + 1) limit + 1
    else 0

def maxCopy : Nat := 258

def maxDistance : Nat := 32768

/-- Cuts the data from `i` on into pieces. `seen` tells where three bytes were last begun with. -/
def cut (data : Array UInt8) : Nat → Nat → Std.TreeMap Nat Nat → List Piece → List Piece
  | 0, _, _, pieces => pieces.reverse
  | fuel + 1, i, seen, pieces =>
    if h : i < data.size then
      let later := (data.getD (i + 1) 0).toNat + 256 * (data.getD (i + 2) 0).toNat
      let key := data[i].toNat + 256 * later
      let earlier := seen[key]?
      let seen := seen.insert key i
      match earlier with
      | some j =>
        let length := matchLength data i j maxCopy
        if 3 ≤ length && i - j ≤ maxDistance then
          cut data fuel (i + length) seen (.copy length (i - j) :: pieces)
        else cut data fuel (i + 1) seen (.literal data[i] :: pieces)
      | none => cut data fuel (i + 1) seen (.literal data[i] :: pieces)
    else pieces.reverse

def fixedCode (s : Nat) : List Bool :=
  if s < 144 then highFirst 8 (0x30 + s)
  else if s < 256 then highFirst 9 (0x190 + (s - 144))
  else if s < 280 then highFirst 7 (s - 256)
  else highFirst 8 (0xc0 + (s - 280))

/-- The last base that is not above `n`, with its place in the table and what is left over. -/
def slot (bases : List Nat) (n : Nat) : Nat × Nat :=
  let i := (bases.filter (· ≤ n)).length - 1
  (i, n - bases.getD i 0)

def Piece.bits : Piece → List Bool
  | literal b => fixedCode b.toNat
  | copy length distance =>
    let (l, more) := slot lengthBase length
    let (d, further) := slot distanceBase distance
    fixedCode (257 + l) ++ lowFirst (lengthExtra.getD l 0) more ++ highFirst 5 d
      ++ lowFirst (distanceExtra.getD d 0) further

def deflate (data : Bytes) : Bytes :=
  let pieces := cut data.toArray (data.length + 1) 0 ∅ []
  packBits ([true, true, false] ++ pieces.flatMap Piece.bits ++ fixedCode endOfBlock)

end MetricRelay.Gzip
