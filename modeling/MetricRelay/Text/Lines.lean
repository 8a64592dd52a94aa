namespace MetricRelay

def terminated (line : String) : String := if line.endsWith "\n" then line else line.push '\n'

namespace Text

def splitOn (c : Char) : List Char → List (List Char)
  | [] => [[]]
  | a :: s =>
    if a = c then [] :: splitOn c s
    else
      match splitOn c s with
      | [] => [[a]]
      | part :: parts => (a :: part) :: parts

def blankRanges : List (Nat × Nat) :=
  [(0x09, 0x0d), (0x20, 0x20), (0x85, 0x85), (0xa0, 0xa0), (0x1680, 0x1680), (0x2000, 0x200a),
    (0x2028, 0x2029), (0x202f, 0x202f), (0x205f, 0x205f), (0x3000, 0x3000)]

def isBlankChar (c : Char) : Bool :=
  blankRanges.any fun r => r.1 ≤ c.toNat && c.toNat ≤ r.2

example : (blankRanges.map fun r => r.2 - r.1 + 1).sum = 25 := by decide

def isBlank (s : String) : Bool := s.toList.all isBlankChar

def dropBlanksEnd (s : List Char) : List Char := (s.reverse.dropWhile isBlankChar).reverse

def trimEnd (s : String) : String := String.ofList (dropBlanksEnd s.toList)

def trim (s : String) : String := String.ofList (dropBlanksEnd (s.toList.dropWhile isBlankChar))

end Text

end MetricRelay
