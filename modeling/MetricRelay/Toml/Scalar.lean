import MetricRelay.Decimal.Binary64
import MetricRelay.Text.Lines
import MetricRelay.Toml.Text
import MetricRelay.Toml.Value

namespace MetricRelay.Toml

/-- The digits, without underscores, which only stand between two digits. -/
def digits? (isDigit : Char → Bool) (s : List Char) : Option (List Char) :=
  let groups := Text.splitOn '_' s
  if groups.all fun g => !g.isEmpty && g.all isDigit then some groups.flatten else none

def decimal? (s : List Char) : Option Nat := do
  let digits ← digits? Char.isDigit s
  match digits with
  | '0' :: _ :: _ => none
  | _ => Text.numeral? 10 digits

def based? (base : Nat) (s : List Char) : Option Int := do
  let digits ← digits? (fun c => (Text.digitIn? base c).isSome) s
  return ← Text.numeral? base digits

def splitSign : List Char → Bool × List Char
  | '-' :: s => (true, s)
  | '+' :: s => (false, s)
  | s => (false, s)

def integer? (s : List Char) : Option Int := do
  let n ←
    match s with
    | '0' :: 'x' :: s => based? 16 s
    | '0' :: 'o' :: s => based? 8 s
    | '0' :: 'b' :: s => based? 2 s
    | s => do
      let (negative, s) := splitSign s
      let n ← decimal? s
      some (if negative then -(n : Int) else n)
  if -(Nat.pow 2 63 : Int) ≤ n && n < Nat.pow 2 63 then some n else none

def digitsValue? (s : List Char) : Option Nat := (digits? Char.isDigit s).bind (Text.numeral? 10)

def exponent? : List Char → Option Int
  | [] => some 0
  | _ :: s => do
    let (negative, s) := splitSign s
    let n ← digitsValue? s
    return if negative then -(n : Int) else n

/-- A number with a point or an exponent. Too large a number is none, unless it is negative. -/
def isDecimalFloat (negative : Bool) (s : List Char) : Bool :=
  let (mantissa, exponent) := s.span fun c => c != 'e' && c != 'E'
  let (whole, fraction) := mantissa.span (· != '.')
  let value? : Option Float := do
    let _ ← decimal? whole
    let fraction ←
      match fraction with
      | [] => some []
      | _ :: f => digits? Char.isDigit f
    let m ← digitsValue? (whole ++ fraction)
    return Decimal.scientific m ((← exponent? exponent) - fraction.length)
  !(fraction.isEmpty && exponent.isEmpty) && value?.any fun x => negative || !x.isInf

def isFloat (s : List Char) : Bool :=
  let (negative, s) := splitSign s
  s = ['i', 'n', 'f'] || s = ['n', 'a', 'n'] || isDecimalFloat negative s

def fixed? (width : Nat) (s : List Char) : Option Nat :=
  if s.length = width && s.all Char.isDigit then Text.numeral? 10 s else none

def daysIn (year month : Nat) : Nat :=
  let leap := year % 4 = 0 && (year % 100 ≠ 0 || year % 400 = 0)
  if month = 2 then if leap then 29 else 28
  else if [4, 6, 9, 11].contains month then 30
  else 31

def isDate (s : List Char) : Bool :=
  match Text.splitOn '-' s with
  | [y, m, d] =>
    match fixed? 4 y, fixed? 2 m, fixed? 2 d with
    | some y, some m, some d => 1 ≤ m && m ≤ 12 && 1 ≤ d && d ≤ daysIn y m
    | _, _, _ => false
  | _ => false

def isClock (s : List Char) : Bool :=
  let (s, fraction) := s.span (· != '.')
  let goodFraction :=
    match fraction with
    | [] => true
    | _ :: f => !f.isEmpty && f.all Char.isDigit
  match Text.splitOn ':' s with
  | [h, m, s] =>
    match fixed? 2 h, fixed? 2 m, fixed? 2 s with
    | some h, some m, some s => h ≤ 23 && m ≤ 59 && s ≤ 60 && goodFraction
    | _, _, _ => false
  | _ => false

def isOffset (s : List Char) : Bool :=
  match Text.splitOn ':' s with
  | [h, m] =>
    match fixed? 2 h, fixed? 2 m with
    | some h, some m => h ≤ 23 && m ≤ 59
    | _, _ => false
  | _ => false

def isZonedClock (s : List Char) : Bool :=
  match s.span fun c => !List.contains ['Z', 'z', '+', '-'] c with
  | (clock, []) => isClock clock
  | (clock, z :: rest) =>
    isClock clock && (if z = 'Z' || z = 'z' then rest.isEmpty else isOffset rest)

def isDateTime (s : List Char) : Bool :=
  match s.drop 10 with
  | t :: clock => (t = 'T' || t = 't') && isDate (s.take 10) && isZonedClock clock
  | [] => false

def isTime (s : List Char) : Bool := isDate s || isClock s || isDateTime s

def isScalarChar (c : Char) : Bool :=
  c.isAlphanum || c = '_' || c = '-' || c = '+' || c = '.' || c = ':'

def scalarText (s : List Char) : List Char × List Char :=
  let (text, rest) := s.span isScalarChar
  match rest with
  | ' ' :: rest' =>
    let (clock, rest'') := rest'.span isScalarChar
    if isDate text && isZonedClock clock then (text ++ 'T' :: clock, rest'') else (text, rest)
  | _ => (text, rest)

def scalar? (s : List Char) : Option (Value × List Char) :=
  let (text, rest) := scalarText s
  let value : Option Value :=
    if text = ['t', 'r', 'u', 'e'] then some (.boolean true)
    else if text = ['f', 'a', 'l', 's', 'e'] then some (.boolean false)
    else
      match integer? text with
      | some n => some (.integer n)
      | none =>
        if isFloat text then some (.float (String.ofList text))
        else if isTime text then some (.time (String.ofList text))
        else none
  value.map (·, rest)

end MetricRelay.Toml
