/-!
Text as bytes. `decode?` refuses ill-formed bytes; `decodeLossy` puts one replacement character in
the place of each longest run that begins a character and does not finish it.
-/
namespace MetricRelay

abbrev Bytes := List UInt8

namespace Text

def bytes (s : String) : Bytes := s.toUTF8.data.toList

def decode? (b : Bytes) : Option String := String.fromUTF8? ⟨b.toArray⟩

def replacement : Char := '\ufffd'

def isTail (b : UInt8) : Bool := 0x80 ≤ b && b ≤ 0xbf

def isSecond (a b : UInt8) : Bool :=
  if a = 0xe0 then 0xa0 ≤ b && b ≤ 0xbf
  else if a = 0xed then 0x80 ≤ b && b ≤ 0x9f
  else if a = 0xf0 then 0x90 ≤ b && b ≤ 0xbf
  else if a = 0xf4 then 0x80 ≤ b && b ≤ 0x8f
  else isTail b

def codePoint (high : Nat) (tails : Bytes) : Char :=
  Char.ofNat (tails.foldl (fun n b => n * 64 + b.toNat % 64) high)

def nextLossy (a : UInt8) (rest : Bytes) : Char × Bytes :=
  if a < 0x80 then (Char.ofNat a.toNat, rest)
  else if 0xc2 ≤ a && a ≤ 0xdf then
    match rest with
    | b :: r => if isTail b then (codePoint (a.toNat % 32) [b], r) else (replacement, rest)
    | [] => (replacement, rest)
  else if 0xe0 ≤ a && a ≤ 0xef then
    match rest with
    | b :: r =>
      if isSecond a b then
        match r with
        | c :: r' => if isTail c then (codePoint (a.toNat % 16) [b, c], r') else (replacement, r)
        | [] => (replacement, r)
      else (replacement, rest)
    | [] => (replacement, rest)
  else if 0xf0 ≤ a && a ≤ 0xf4 then
    match rest with
    | b :: r =>
      if isSecond a b then
        match r with
        | c :: r' =>
          if isTail c then
            match r' with
            | d :: r'' =>
              if isTail d then (codePoint (a.toNat % 8) [b, c, d], r'') else (replacement, r')
            | [] => (replacement, r')
          else (replacement, r)
        | [] => (replacement, r)
      else (replacement, rest)
    | [] => (replacement, rest)
  else (replacement, rest)

theorem nextLossy_length_le (a : UInt8) (rest : Bytes) :
    (nextLossy a rest).2.length ≤ rest.length := by
  unfold nextLossy
  (repeat' split) <;> simp only [List.length_cons] <;> omega

def decodeLossyChars : Bytes → List Char
  | [] => []
  | a :: rest => (nextLossy a rest).1 :: decodeLossyChars (nextLossy a rest).2
termination_by b => b.length
decreasing_by
  have := nextLossy_length_le a rest
  simp only [List.length_cons]
  omega

def decodeLossy (b : Bytes) : String :=
  (decode? b).getD (String.ofList (decodeLossyChars b))

end Text

end MetricRelay
