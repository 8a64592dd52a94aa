import MetricRelay.Gzip.Huffman

namespace MetricRelay.Gzip

def endOfBlock : Nat := 256

def lengthBase : List Nat :=
  [3, 4, 5, 6, 7, 8, 9, 10, 11, 13, 15, 17, 19, 23, 27, 31, 35, 43, 51, 59, 67, 83, 99, 115, 131,
    163, 195, 227, 258]

def lengthExtra : List Nat :=
  [0, 0, 0, 0, 0, 0, 0, 0, 1, 1, 1, 1, 2, 2, 2, 2, 3, 3, 3, 3, 4, 4, 4, 4, 5, 5, 5, 5, 0]

def distanceBase : List Nat :=
  [1, 2, 3, 4, 5, 7, 9, 13, 17, 25, 33, 49, 65, 97, 129, 193, 257, 385, 513, 769, 1025, 1537, 2049,
    3073, 4097, 6145, 8193, 12289, 16385, 24577]

def distanceExtra : List Nat :=
  [0, 0, 0, 0, 1, 1, 2, 2, 3, 3, 4, 4, 5, 5, 6, 6, 7, 7, 8, 8, 9, 9, 10, 10, 11, 11, 12, 12, 13, 13]

def fixedLengths : List Nat :=
  List.replicate 144 8 ++ List.replicate 112 9 ++ List.replicate 24 7 ++ List.replicate 8 8

structure Codes where
  literals : Huffman
  distances : Huffman

def fixedCodes : Codes := ⟨.ofLengths fixedLengths, .ofLengths (List.replicate 32 5)⟩

/-- Copies bytes that lie `distance` back. Before the first byte there are zeros. -/
def copyBack (distance : Nat) : Nat → Array UInt8 → Array UInt8
  | 0, out => out
  | n + 1, out =>
    let b := if distance ≤ out.size then out.getD (out.size - distance) 0 else 0
    copyBack distance n (out.push b)

/-- One literal or copy, or the end of the block. Tells whether it was the end. -/
def inflateSymbol (codes : Codes) (r : BitReader) (out : Array UInt8) :
    Option (Bool × Array UInt8 × BitReader) := do
  let (s, r) ← codes.literals.symbol? r
  if s < endOfBlock then return (false, out.push (UInt8.ofNat s), r)
  else if s = endOfBlock then return (true, out, r)
  else
    let base ← lengthBase[s - 257]?
    let (extra, r) ← r.number? (← lengthExtra[s - 257]?)
    let (d, r) ← codes.distances.symbol? r
    let far ← distanceBase[d]?
    let (further, r) ← r.number? (← distanceExtra[d]?)
    return (false, copyBack (far + further) (base + extra) out, r)

def inflateSymbols (codes : Codes) :
    Nat → BitReader → Array UInt8 → Option (Array UInt8 × BitReader)
  | 0, _, _ => none
  | fuel + 1, r, out => do
    let (ended, out, r) ← inflateSymbol codes r out
    if ended then return (out, r) else inflateSymbols codes fuel r out

def inflateStored (r : BitReader) (out : Array UInt8) : Option (Array UInt8 × BitReader) :=
  match r.rest with
  | a :: b :: c :: d :: data =>
    let size := a.toNat + 256 * b.toNat
    if size + (c.toNat + 256 * d.toNat) = 65535 && size ≤ data.length then
      some (out ++ (data.take size).toArray, .ofBytes (data.drop size))
    else none
  | _ => none

def lengthOrder : List Nat := [16, 17, 18, 0, 8, 7, 9, 6, 10, 5, 11, 4, 12, 3, 13, 2, 14, 1, 15]

def readNumbers : Nat → Nat → BitReader → Option (List Nat × BitReader)
  | 0, _, r => some ([], r)
  | n + 1, width, r => do
    let (a, r) ← r.number? width
    let (rest, r) ← readNumbers n width r
    return (a :: rest, r)

/-- Code lengths until there are `total` of them. `done` holds those before, last one first. -/
def readLengths (h : Huffman) (total : Nat) :
    Nat → List Nat → BitReader → Option (List Nat × BitReader)
  | 0, _, _ => none
  | fuel + 1, done, r =>
    if total ≤ done.length then if done.length = total then some (done.reverse, r) else none
    else do
      let (s, r) ← h.symbol? r
      match s with
      | 16 =>
        let last ← done.head?
        let (n, r) ← r.number? 2
        readLengths h total fuel (List.replicate (n + 3) last ++ done) r
      | 17 =>
        let (n, r) ← r.number? 3
        readLengths h total fuel (List.replicate (n + 3) 0 ++ done) r
      | 18 =>
        let (n, r) ← r.number? 7
        readLengths h total fuel (List.replicate (n + 11) 0 ++ done) r
      | s => readLengths h total fuel (s :: done) r

def readCodes (r : BitReader) : Option (Codes × BitReader) := do
  let (literals, r) ← r.number? 5
  let (distances, r) ← r.number? 5
  let (lengths, r) ← r.number? 4
  let literals := literals + 257
  let distances := distances + 1
  if 286 < literals || 30 < distances then none
  else
    let (given, r) ← readNumbers (lengths + 4) 3 r
    let ofSymbol := fun s => ((lengthOrder.zip given).lookup s).getD 0
    let h := Huffman.ofLengths ((List.range 19).map ofSymbol)
    if !h.isComplete then none
    else
      let total := literals + distances
      let (all, r) ← readLengths h total (total + 1) [] r
      let codes : Codes := ⟨.ofLengths (all.take literals), .ofLengths (all.drop literals)⟩
      if codes.literals.isUsable && codes.distances.isUsable then return (codes, r) else none

def inflateBlock (r : BitReader) (out : Array UInt8) :
    Option (Bool × Array UInt8 × BitReader) := do
  let (last, r) ← r.number? 1
  let (kind, r) ← r.number? 2
  let (out, r) ←
    match kind with
    | 0 => inflateStored r out
    | 1 => inflateSymbols fixedCodes (r.bound + 1) r out
    | 2 => do
      let (codes, r) ← readCodes r
      inflateSymbols codes (r.bound + 1) r out
    | _ => none
  return (last == 1, out, r)

def inflateBlocks : Nat → BitReader → Array UInt8 → Option (Array UInt8 × BitReader)
  | 0, _, _ => none
  | fuel + 1, r, out => do
    let (last, out, r) ← inflateBlock r out
    if last then return (out, r) else inflateBlocks fuel r out

def inflate (data : Bytes) : Option (Bytes × Bytes) := do
  let (out, r) ← inflateBlocks (8 * data.length + 1) (.ofBytes data) #[]
  return (out.toList, r.rest)

end MetricRelay.Gzip
