import MetricRelay.Proofs.Gzip.Codes

namespace MetricRelay.Gzip

def Piece.expand (out : Array UInt8) : Piece → Array UInt8
  | literal b => out.push b
  | copy length distance => copyBack distance length out

def Piece.Coded : Piece → Prop
  | literal _ => True
  | copy length distance => 3 ≤ length ∧ length ≤ maxCopy ∧ 1 ≤ distance ∧ distance ≤ maxDistance

section

variable {data : Bytes}

theorem push_take {i : Nat} (h : i < data.length) :
    (data.take i).toArray.push data[i] = (data.take (i + 1)).toArray := by
  rw [List.push_toArray, List.take_append_getElem]

theorem matchLength_le (array : Array UInt8) (i j limit : Nat) :
    matchLength array i j limit ≤ limit := by
  induction limit generalizing i j with
  | zero => exact Nat.le_refl _
  | succ limit ih =>
    rw [matchLength]
    split
    · exact Nat.succ_le_succ (ih ..)
    · exact Nat.zero_le _

theorem copyBack_matchLength {i j : Nat} (earlier : j < i) (limit : Nat) (within : i ≤ data.length) :
    copyBack (i - j) (matchLength data.toArray i j limit) (data.take i).toArray =
      (data.take (i + matchLength data.toArray i j limit)).toArray ∧
        i + matchLength data.toArray i j limit ≤ data.length := by
  induction limit generalizing i j with
  | zero => exact ⟨rfl, within⟩
  | succ limit ih =>
    rw [matchLength]
    split
    · rename_i same
      simp only [List.size_toArray, Bool.and_eq_true, decide_eq_true_eq, beq_iff_eq] at same
      obtain ⟨inside, same⟩ := same
      have size : (data.take i).toArray.size = i := by
        rw [List.size_toArray, List.length_take, Nat.min_eq_left within]
      have byte : (data.take i).toArray.getD (i - (i - j)) 0 = data[i] := by
        have before : j < data.length := by omega
        rw [Nat.sub_sub_self (Nat.le_of_lt earlier)]
        simpa [earlier, before, inside] using same.symm
      obtain ⟨copied, room⟩ := ih (i := i + 1) (j := j + 1) (Nat.succ_lt_succ earlier) inside
      rw [Nat.succ_sub_succ] at copied
      rw [copyBack, size, if_pos (Nat.sub_le ..), byte, push_take inside, copied]
      exact ⟨by congr 2; omega, by omega⟩
    · exact ⟨rfl, within⟩

/-- Up to `i` the pieces make up the data, and the places that were seen lie before `i`. -/
structure Cut (data : Bytes) (i : Nat) (seen : Std.TreeMap Nat Nat) (pieces : List Piece) :
    Prop where
  within : i ≤ data.length
  before : ∀ key j : Nat, seen[key]? = some j → j < i
  coded : ∀ p ∈ pieces, p.Coded
  expands : pieces.reverse.foldl Piece.expand #[] = (data.take i).toArray

theorem cut_zero (data : Bytes) : Cut data 0 ∅ [] where
  within := Nat.zero_le _
  before := by simp
  coded := List.forall_mem_nil _
  expands := rfl

variable {i : Nat} {seen : Std.TreeMap Nat Nat} {pieces : List Piece}

theorem Cut.step (h : Cut data i seen pieces) {p : Piece} {i' : Nat} (key : Nat) (later : i < i')
    (within : i' ≤ data.length) (coded : p.Coded)
    (expands : p.expand (data.take i).toArray = (data.take i').toArray) :
    Cut data i' (seen.insert key i) (p :: pieces) where
  within := within
  before key' j found := by
    rw [Std.TreeMap.getElem?_insert] at found
    split at found
    · cases found
      exact later
    · exact Nat.lt_trans (h.before key' j found) later
  coded := List.forall_mem_cons.2 ⟨coded, h.coded⟩
  expands := by rw [List.reverse_cons, List.foldl_append, h.expands, List.foldl_cons, expands,
    List.foldl_nil]

theorem Cut.literal (h : Cut data i seen pieces) (key : Nat) (inside : i < data.length) :
    Cut data (i + 1) (seen.insert key i) (.literal data[i] :: pieces) :=
  h.step key (Nat.lt_succ_self i) inside trivial (push_take inside)

theorem Cut.copy (h : Cut data i seen pieces) (key : Nat) {j : Nat} (earlier : j < i)
    (long : 3 ≤ matchLength data.toArray i j maxCopy) (near : i - j ≤ maxDistance) :
    Cut data (i + matchLength data.toArray i j maxCopy) (seen.insert key i)
      (.copy (matchLength data.toArray i j maxCopy) (i - j) :: pieces) := by
  obtain ⟨copied, room⟩ := copyBack_matchLength earlier maxCopy h.within
  refine h.step key (by omega) room ⟨long, matchLength_le .., by omega, near⟩ copied

theorem Cut.cut {fuel : Nat} (h : Cut data i seen pieces) (enough : data.length < i + fuel) :
    (∀ p ∈ cut data.toArray fuel i seen pieces, p.Coded) ∧
      (cut data.toArray fuel i seen pieces).foldl Piece.expand #[] = data.toArray := by
  induction fuel generalizing i seen pieces with
  | zero => exact absurd h.within (by omega)
  | succ fuel ih =>
    unfold Gzip.cut
    split
    · rename_i inside
      rw [List.size_toArray] at inside
      dsimp only
      split
      · rename_i j found
        have earlier := h.before _ j found
        split
        · rename_i good
          simp only [Bool.and_eq_true, decide_eq_true_eq] at good
          exact ih (h.copy _ earlier good.1 good.2) (by omega)
        · exact ih (h.literal _ inside) (by omega)
      · exact ih (h.literal _ inside) (by omega)
    · rename_i done
      rw [List.size_toArray] at done
      refine ⟨fun p mem => h.coded p (List.mem_reverse.1 mem), ?_⟩
      rw [h.expands, List.take_of_length_le (Nat.not_lt.1 done)]

end

variable {r r' : BitReader} {out : Array UInt8}

theorem length_highFirst (width n : Nat) : (highFirst width n).length = width := by
  simp [highFirst, lowFirst]

theorem length_fixedCode_pos (s : Nat) : 0 < (fixedCode s).length := by
  unfold fixedCode
  split
  · rw [length_highFirst]; decide
  · split
    · rw [length_highFirst]; decide
    · split
      · rw [length_highFirst]; decide
      · rw [length_highFirst]; decide

theorem inflateSymbol_literal {b : UInt8} (reads : Reads (Piece.literal b).bits r r') :
    inflateSymbol fixedCodes r out = some (false, out.push b, r') := by
  have byte : b.toNat < 256 := b.toNat_lt
  have symbol := symbol?_fixedCode (by omega) reads
  simp [inflateSymbol, symbol, endOfBlock, byte]

theorem inflateSymbol_copy {length distance : Nat} (coded : (Piece.copy length distance).Coded)
    (reads : Reads (Piece.copy length distance).bits r r') :
    inflateSymbol fixedCodes r out = some (false, copyBack distance length out, r') := by
  obtain ⟨long, short, some_, near⟩ := coded
  obtain ⟨l_lt, length_eq, more_lt⟩ :=
    ruled_lengths.slot (n := length) (by decide) long (by rw [maxCopy] at short; omega)
  obtain ⟨d_lt, distance_eq, further_lt⟩ :=
    ruled_distances.slot (n := distance) (by decide) some_ (by rw [maxDistance] at near; omega)
  simp only [Piece.bits, reads_append] at reads
  generalize slot lengthBase length = l at *
  generalize slot distanceBase distance = d at *
  obtain ⟨r₃, ⟨r₂, ⟨r₁, symbol, more⟩, symbol'⟩, further⟩ := reads
  have l_lt' : l.1 < 29 := l_lt
  have d_lt' : d.1 < 30 := d_lt
  have found {table : List Nat} {i : Nat} (h : i < table.length) :
      table[i]? = some (table.getD i 0) := by
    rw [List.getElem?_eq_getElem h, List.getElem_eq_getD]
  have extra := found (show l.1 < lengthExtra.length from l_lt')
  have extra' := found (show d.1 < distanceExtra.length from d_lt')
  have symbol := symbol?_fixedCode (by omega) symbol
  have symbol' := symbol?_highFirst (by omega) symbol'
  have literal : ¬ 257 + l.1 < endOfBlock := by rw [endOfBlock]; omega
  have last : 257 + l.1 ≠ endOfBlock := by rw [endOfBlock]; omega
  simp only [inflateSymbol, symbol, Option.bind_eq_bind, Option.bind_some, if_neg literal,
    if_neg last, Nat.add_sub_cancel_left, found l_lt, extra, more.number? more_lt, symbol',
    found d_lt, extra', further.number? further_lt, length_eq, distance_eq, Option.pure_def]

theorem inflateSymbol_bits {p : Piece} (coded : p.Coded) (reads : Reads p.bits r r') :
    inflateSymbol fixedCodes r out = some (false, p.expand out, r') := by
  cases p with
  | literal b => exact inflateSymbol_literal reads
  | copy length distance => exact inflateSymbol_copy coded reads

theorem inflateSymbols_bits {pieces : List Piece} {fuel : Nat} (coded : ∀ p ∈ pieces, p.Coded)
    (enough : pieces.length < fuel)
    (reads : Reads (pieces.flatMap Piece.bits ++ fixedCode endOfBlock) r r') :
    inflateSymbols fixedCodes fuel r out = some (pieces.foldl Piece.expand out, r') := by
  induction pieces generalizing fuel r out with
  | nil =>
    obtain ⟨fuel, rfl⟩ := Nat.exists_eq_add_of_le' enough
    have symbol := symbol?_fixedCode (s := endOfBlock) (by decide) reads
    simp [inflateSymbols, inflateSymbol, symbol]
  | cons p pieces ih =>
    obtain ⟨fuel, rfl⟩ := Nat.exists_eq_add_of_le' (Nat.zero_lt_of_lt enough)
    obtain ⟨first, coded⟩ := List.forall_mem_cons.1 coded
    rw [List.flatMap_cons, List.append_assoc] at reads
    obtain ⟨r₁, reads, later⟩ := reads_append.1 reads
    have symbol : inflateSymbol fixedCodes r out = some (false, p.expand out, r₁) :=
      inflateSymbol_bits first reads
    simp [inflateSymbols, symbol, ih coded (Nat.lt_of_succ_lt_succ enough) later]

theorem length_le_bits (pieces : List Piece) :
    pieces.length ≤ (pieces.flatMap Piece.bits).length := by
  induction pieces with
  | nil => exact Nat.zero_le _
  | cons p pieces ih =>
    have some_ : 0 < p.bits.length := by
      cases p with
      | literal b => exact length_fixedCode_pos _
      | copy length distance =>
        have := length_fixedCode_pos (257 + (slot lengthBase length).1)
        simp only [Piece.bits, List.length_append]
        omega
    rw [List.flatMap_cons, List.length_append, List.length_cons]
    omega

theorem inflateBlocks_bits {pieces : List Piece} (coded : ∀ p ∈ pieces, p.Coded)
    (within : r.bit ≤ 7)
    (reads : Reads ([true, true, false] ++ pieces.flatMap Piece.bits ++ fixedCode endOfBlock) r r')
    (fuel : Nat) :
    inflateBlocks (fuel + 1) r out = some (pieces.foldl Piece.expand out, r') := by
  have header : [true, true, false] = lowFirst 1 1 ++ lowFirst 2 1 := rfl
  rw [header, List.append_assoc, List.append_assoc] at reads
  obtain ⟨r₁, final, reads⟩ := reads_append.1 reads
  obtain ⟨r₂, kind, reads⟩ := reads_append.1 reads
  have within := (kind.remaining (final.remaining within).1).1
  -- Each piece takes a bit at least, so that fuel for all bits is fuel for all pieces.
  have enough : pieces.length < r₂.bound + 1 := by
    have length_le := (reads.remaining within).2
    have := length_le_bits pieces
    rw [List.length_append] at length_le
    rw [BitReader.bound]
    omega
  have symbols : inflateSymbols fixedCodes (r₂.bound + 1) r₂ out = _ :=
    inflateSymbols_bits coded enough reads
  simp [inflateBlocks, inflateBlock, final.number? (by decide : 1 < 2 ^ 1),
    kind.number? (by decide : 1 < 2 ^ 2), symbols]

theorem inflate_deflate (data more : Bytes) :
    inflate (deflate data ++ more) = some (data, more) := by
  have enough : data.length < 0 + (data.length + 1) := by omega
  obtain ⟨coded, expands⟩ := (cut_zero data).cut enough
  obtain ⟨r, reads, rest⟩ := reads_packBits ([true, true, false] ++
    (cut data.toArray (data.length + 1) 0 ∅ []).flatMap Piece.bits ++ fixedCode endOfBlock) more
  have blocks (fuel : Nat) : inflateBlocks (fuel + 1) (.ofBytes _) #[] = _ :=
    inflateBlocks_bits coded (Nat.zero_le _) reads fuel
  simp only [inflate, deflate, blocks, expands, rest, Option.bind_eq_bind, Option.bind_some,
    Option.pure_def]

end MetricRelay.Gzip
