namespace MetricRelay.Url.Punycode

def digitChar (d : Nat) : Char :=
  if d < 26 then Char.ofNat ('a'.toNat + d) else Char.ofNat ('0'.toNat + (d - 26))

def digitValue? (c : Char) : Option Nat :=
  if 'a' ≤ c && c ≤ 'z' then some (c.toNat - 'a'.toNat)
  else if 'A' ≤ c && c ≤ 'Z' then some (c.toNat - 'A'.toNat)
  else if '0' ≤ c && c ≤ '9' then some (c.toNat - '0'.toNat + 26)
  else none

def threshold (k bias : Nat) : Nat := max 1 (min 26 (k - bias))

def adaptLoop (delta k : Nat) : Nat × Nat :=
  if 455 < delta then adaptLoop (delta / 35) (k + 36) else (delta, k)
termination_by delta

def adapt (delta points : Nat) (first : Bool) : Nat :=
  let delta := if first then delta / 700 else delta / 2
  let (delta, k) := adaptLoop (delta + delta / points) 0
  k + 36 * delta / (delta + 38)

theorem threshold_bounds (k bias : Nat) : 1 ≤ threshold k bias ∧ threshold k bias ≤ 26 := by
  unfold threshold
  omega

def encodeNumber (bias k q : Nat) : List Char :=
  let t := threshold k bias
  if q < t then [digitChar q]
  else digitChar (t + (q - t) % (36 - t)) :: encodeNumber bias (k + 36) ((q - t) / (36 - t))
termination_by q
decreasing_by
  have := threshold_bounds k bias
  have := Nat.div_le_self (q - threshold k bias) (36 - threshold k bias)
  omega

structure Progress where
  written : List Char
  delta : Nat
  bias : Nat
  count : Nat

def pass (basic m : Nat) (p : Progress) (c : Char) : Progress :=
  if c.toNat < m then { p with delta := p.delta + 1 }
  else if c.toNat = m then
    { written := (encodeNumber p.bias 36 p.delta).reverse ++ p.written
      delta := 0
      bias := adapt p.delta (p.count + 1) (p.count == basic)
      count := p.count + 1 }
  else p

def encodeLoop (label : List Char) (basic : Nat) : List Nat → Nat → Progress → Progress
  | [], _, p => p
  | m :: ms, n, p =>
    let p := label.foldl (pass basic m) { p with delta := p.delta + (m - n) * (p.count + 1) }
    encodeLoop label basic ms (m + 1) { p with delta := p.delta + 1 }

def encode (label : List Char) : List Char :=
  let basic := label.filter (·.toNat < 0x80)
  let others := (label.map Char.toNat).filter (0x80 ≤ ·)
  let turns := (others.mergeSort (· ≤ ·)).eraseDups
  let p := encodeLoop label basic.length turns 0x80 ⟨[], 0, 72, basic.length⟩
  basic ++ (if basic.isEmpty then [] else ['-']) ++ p.written.reverse

def decodeNumber? (bias : Nat) : Nat → Nat → Nat → List Char → Option (Nat × List Char)
  | _, _, _, [] => none
  | k, weight, n, c :: s => do
    let d ← digitValue? c
    let t := threshold k bias
    let n := n + d * weight
    if d < t then some (n, s) else decodeNumber? bias (k + 36) (weight * (36 - t)) n s

theorem decodeNumber?_length {bias k weight n : Nat} {s rest : List Char} {m : Nat}
    (h : decodeNumber? bias k weight n s = some (m, rest)) : rest.length < s.length := by
  induction s generalizing k weight n with
  | nil => simp [decodeNumber?] at h
  | cons c s ih =>
    simp only [decodeNumber?, Option.bind_eq_bind, Option.bind_eq_some_iff] at h
    obtain ⟨d, -, h⟩ := h
    split at h
    · simp only [Option.some.injEq, Prod.mk.injEq] at h
      simp [← h.2]
    · have := ih h
      simp only [List.length_cons]
      omega

def decodeLoop? (n i bias : Nat) (label : List Char) (s : List Char) : Option (List Char) :=
  if s.isEmpty then some label
  else
    match h : decodeNumber? bias 36 1 i s with
    | none => none
    | some (j, rest) =>
      have := decodeNumber?_length h
      let size := label.length + 1
      let n := n + j / size
      let spot := j % size
      if n.isValidChar then
        decodeLoop? n (spot + 1) (adapt (j - i) size (i == 0))
          (label.take spot ++ Char.ofNat n :: label.drop spot) rest
      else none
termination_by s.length

def decode? (s : List Char) : Option (List Char) :=
  match s.reverse.span (· != '-') with
  | (tail, []) => decodeLoop? 0x80 0 72 [] tail.reverse
  | (_, [_]) => none
  | (tail, _ :: basic) =>
    if basic.all (·.toNat < 0x80) then decodeLoop? 0x80 0 72 basic.reverse tail.reverse else none

end MetricRelay.Url.Punycode
