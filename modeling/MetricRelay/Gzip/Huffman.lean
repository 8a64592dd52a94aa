import MetricRelay.Gzip.Bits

/-!
Canonical Huffman codes: the lengths of the codes say all. Codes of one length are consecutive
numbers in the order of their symbols, and follow the shorter codes.
-/
namespace MetricRelay.Gzip

structure Huffman where
  counts : List Nat
  symbols : Array Nat
  deriving Repr

namespace Huffman

def maxLength : Nat := 15

/-- The code in which the symbol `i` has the length `lengths[i]`, zero for none. -/
def ofLengths (lengths : List Nat) : Huffman :=
  let ofLength := fun l => lengths.zipIdx.filterMap fun (l', i) => if l' = l then some i else none
  let groups := (List.range' 1 maxLength).map ofLength
  ⟨groups.map List.length, groups.flatten.toArray⟩

def mass (h : Huffman) : Nat := h.counts.foldl (fun n count => 2 * n + count) 0

def isComplete (h : Huffman) : Bool := h.mass == Nat.pow 2 maxLength

/-- A code without symbols need not be complete, nor one whose only symbol takes one bit. -/
def isUsable (h : Huffman) : Bool :=
  h.isComplete || h.symbols.isEmpty || (h.symbols.size == 1 && h.counts.head? == some 1)

/-- Reads bits until they make a code. `first` is the first code of the present length, less one
bit, and `index` the place of its symbol. -/
def symbolFrom? (symbols : Array Nat) :
    List Nat → Nat → Nat → Nat → BitReader → Option (Nat × BitReader)
  | [], _, _, _, _ => none
  | count :: counts, code, first, index, r => do
    let (b, r) ← r.next?
    let code := 2 * code + b
    let first := 2 * first
    if code < first + count then
      let s ← symbols[index + (code - first)]?
      return (s, r)
    else symbolFrom? symbols counts code (first + count) (index + count) r

def symbol? (h : Huffman) (r : BitReader) : Option (Nat × BitReader) :=
  symbolFrom? h.symbols h.counts 0 0 0 r

end Huffman

end MetricRelay.Gzip
