import MetricRelay.Text.Lines
import MetricRelay.Url.Percent

namespace MetricRelay.Url

open Text (numeral? splitOn)

def ipv4Part? : List Char → Option Nat
  | [] => none
  | '0' :: 'x' :: s => numeral? 16 s
  | '0' :: 'X' :: s => numeral? 16 s
  | '0' :: c :: s => numeral? 8 (c :: s)
  | s => numeral? 10 s

def endsInNumber (host : List Char) : Bool :=
  let parts := (splitOn '.' host).reverse
  let last :=
    match parts with
    | [] :: last :: _ => last
    | last :: _ => last
    | [] => []
  !last.isEmpty && (last.all Char.isDigit || (ipv4Part? last).isSome)

def parseIpv4 (host : List Char) : Option Nat := do
  let parts := splitOn '.' host
  let parts := if parts.getLast? = some [] then parts.dropLast else parts
  if 4 < parts.length then none
  else
    let numbers ← parts.mapM ipv4Part?
    let last ← numbers.getLast?
    let front := numbers.dropLast
    if front.all (· < 256) && last < Nat.pow 256 (4 - front.length) then
      some (front.zipIdx.foldl (fun sum (n, i) => sum + n * Nat.pow 256 (3 - i)) last)
    else none

def showIpv4 (n : Nat) : List Char :=
  ['.'].intercalate ([3, 2, 1, 0].map fun i => Nat.toDigits 10 (n / Nat.pow 256 i % 256))

def dottedQuad? (s : List Char) : Option (List Nat) := do
  let numbers ← (splitOn '.' s).mapM fun part =>
    match part with
    | [] => none
    | '0' :: _ :: _ => none
    | _ => (numeral? 10 part).filter (· < 256)
  match numbers with
  | [a, b, c, d] => some [256 * a + b, 256 * c + d]
  | _ => none

/-- Groups between colons. Only the last may be a dotted quad, and only if `tail` holds. -/
def ipv6Groups? (tail : Bool) (s : List Char) : Option (List Nat) :=
  if s.isEmpty then some []
  else do
    let groups := splitOn ':' s
    let last ← groups.getLast?
    let hex (g : List Char) : Option (List Nat) :=
      if g.isEmpty || 4 < g.length then none else (numeral? 16 g).map ([·])
    let front ← groups.dropLast.mapM hex
    let back ← if tail && last.contains '.' then dottedQuad? last else hex last
    return front.flatten ++ back

def cutDoubleColon : List Char → Option (List Char × List Char)
  | ':' :: ':' :: s => some ([], s)
  | c :: s => (cutDoubleColon s).map fun (a, b) => (c :: a, b)
  | [] => none

def parseIpv6 (s : List Char) : Option (List Nat) :=
  match cutDoubleColon s with
  | none => (ipv6Groups? true s).filter (·.length = 8)
  | some (a, b) => do
    let front ← ipv6Groups? false a
    let back ← ipv6Groups? true b
    if front.length + back.length ≤ 7 then
      return front ++ List.replicate (8 - front.length - back.length) 0 ++ back
    else none

def longestZeros (groups : List Nat) : Option (Nat × Nat) :=
  let runs := (List.range 8).map fun i => (i, ((groups.drop i).takeWhile (· == 0)).length)
  let best := runs.foldl (fun best r => if best.2 < r.2 then r else best) (0, 1)
  if 1 < best.2 then some best else none

def showGroups (groups : List Nat) : List Char := [':'].intercalate (groups.map (Nat.toDigits 16))

def showIpv6 (groups : List Nat) : List Char :=
  match longestZeros groups with
  | none => showGroups groups
  | some (start, length) =>
    showGroups (groups.take start) ++ [':', ':'] ++ showGroups (groups.drop (start + length))

end MetricRelay.Url
