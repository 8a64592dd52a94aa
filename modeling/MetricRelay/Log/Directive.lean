import MetricRelay.Decimal.Binary64
import MetricRelay.Decimal.Positional
import MetricRelay.Log.Level
import MetricRelay.Pattern.Basic
import MetricRelay.Text.Digits
import MetricRelay.Text.Letter
import MetricRelay.Text.Lines

namespace MetricRelay.Log

structure FieldMatch where
  name : String
  value : Option String
  deriving DecidableEq, Repr

structure Directive where
  target : Option String
  span : Option String
  fields : List FieldMatch
  level : LevelFilter
  deriving DecidableEq, Repr

def decimal? (s : List Char) : Option Nat := if s.isEmpty then none else Text.numeral? 10 s

def natural? : List Char → Option Nat
  | '+' :: s => decimal? s
  | s => decimal? s

def level? (s : List Char) : Option LevelFilter :=
  match natural? s with
  | some n => LevelFilter.all[n]?
  | none =>
    let name := (String.ofList s).map Char.toLower
    if name.isEmpty then some (some .error) else LevelFilter.all.find? fun f => f.name = name

def givenLevel? (s : List Char) : Option LevelFilter :=
  if s.isEmpty then some (some .trace) else level? s

def integerText? (s : List Char) : Option String :=
  match s with
  | '-' :: digits => do
    let n ← decimal? digits
    if n ≤ Nat.pow 2 63 then some (if n = 0 then "0" else s!"-{n}") else none
  | s => do
    let n ← natural? s
    if n < Nat.pow 2 64 then some (toString n) else none

def exponent? : List Char → Option Int
  | [] => some 0
  | _ :: '-' :: s => (decimal? s).map fun n => -(n : Int)
  | _ :: s => (natural? s).map fun n => (n : Int)

def floatText? (s : List Char) : Option String := do
  let (sign, s) :=
    match s with
    | '-' :: s => ("-", s)
    | '+' :: s => ("", s)
    | s => ("", s)
  let word := (String.ofList s).map Char.toLower
  if word = "nan" then some "NaN"
  else if word = "inf" || word = "infinity" then some (sign ++ "inf")
  else
    let (mantissa, exponent) := s.span fun c => c != 'e' && c != 'E'
    let (whole, fraction) := mantissa.span (· != '.')
    let fraction := fraction.drop 1
    let m ← decimal? (whole ++ fraction)
    let e ← exponent? exponent
    let x := Decimal.scientific m (e - fraction.length)
    if x.isInf then some (sign ++ "inf")
    else
      let text := Decimal.ofFloat x
      let text := if text.reverse.take 2 = ['0', '.'] then text.dropLast.dropLast else text
      some (sign ++ String.ofList text)

def valueText? (s : List Char) : Option String :=
  if s = ['t', 'r', 'u', 'e'] || s = ['f', 'a', 'l', 's', 'e'] then some (String.ofList s)
  else
    match integerText? s with
    | some text => some text
    | none =>
      match floatText? s with
      | some text => some text
      | none => if isPattern s then some (String.ofList s) else none

def field? (s : List Char) : Option FieldMatch :=
  match Text.splitOn '=' s with
  | [name] => some ⟨String.ofList name, none⟩
  | name :: value :: _ => do return ⟨String.ofList name, some (← valueText? value)⟩
  | [] => none

inductive Stage
  | start
  | levelOrTarget (start : Nat)
  | span (start : Nat)
  | field (start : Nat)
  | fields
  | target
  | level (start : Nat)
  | complete
  deriving DecidableEq, Repr

structure Progress where
  stage : Stage
  directive : Directive
  place : Nat

def dropBytes : Nat → List Char → List Char
  | 0, s => s
  | _, [] => []
  | n + 1, c :: s => dropBytes (n + 1 - c.utf8Size) s

def takeBytes : Nat → List Char → List Char
  | 0, _ => []
  | _, [] => []
  | n + 1, c :: s => c :: takeBytes (n + 1 - c.utf8Size) s

def slice (s : List Char) (start stop : Nat) : List Char :=
  takeBytes (stop - start) (dropBytes start s)

def levelOrTarget (d : Directive) (s : List Char) : Directive :=
  match level? s with
  | some level => { d with level }
  | none => { d with target := some (String.ofList s) }

def startsDirective (c : Char) : Bool :=
  c = '-' || c = ':' || c = '_' || Text.isAlphanumeric c

/-- The next character. Places count bytes, and parts are cut out of `text`, whatever the character
was taken from. A comma ends a directive; one that stands alone includes it. -/
def Progress.next (text : List Char) (p : Progress) (c : Char) : Option Progress :=
  let d := p.directive
  let i := p.place
  let behind := i + c.utf8Size
  let cut := fun start => slice text start i
  let pushField := fun start stage => do
    if start = i then none
    else
      let f ← field? (cut start)
      return ⟨stage, { d with fields := d.fields ++ [f] }, behind⟩
  match p.stage with
  | .start =>
    if c = '[' then some ⟨.span (i + 1), d, behind⟩
    else if startsDirective c then some ⟨.levelOrTarget i, d, behind⟩
    else none
  | .levelOrTarget start =>
    let named := { d with target := some (String.ofList (cut start)) }
    if c = '=' then some ⟨.level (i + 1), named, behind⟩
    else if c = '[' then some ⟨.span (i + 1), named, behind⟩
    else if c = ',' then some ⟨.complete, levelOrTarget d (dropBytes start text), behind⟩
    else some { p with place := behind }
  | .span start =>
    if c = ']' then some ⟨.target, { d with span := some (String.ofList (cut start)) }, behind⟩
    else if c = '\x7b' then
      let span := if start = i then none else some (String.ofList (cut start))
      some ⟨.field (i + 1), { d with span }, behind⟩
    else some { p with place := behind }
  | .field start =>
    if c = '\x7d' then pushField start .fields
    else if c = ',' then pushField start (.field (i + 1))
    else some { p with place := behind }
  | .fields => if c = ']' then some ⟨.target, d, behind⟩ else none
  | .target => if c = '=' then some ⟨.level (i + 1), d, behind⟩ else none
  | .level start =>
    if c = ',' then do return ⟨.complete, { d with level := ← givenLevel? (cut start) }, behind⟩
    else some { p with place := behind }
  | .complete => none

def Progress.finish (text : List Char) (p : Progress) : Option Directive :=
  match p.stage with
  | .levelOrTarget start => some (levelOrTarget p.directive (dropBytes start text))
  | .level start => do return { p.directive with level := ← givenLevel? (dropBytes start text) }
  | .target => some p.directive
  | .complete => some p.directive
  | _ => none

/-- Reads a directive. Blanks around the text are skipped, yet count where parts of it are cut
out. -/
def parse (s : String) : Option Directive := do
  let text := s.toList
  let p ← (Text.trim s).toList.foldlM (Progress.next text)
    (⟨.start, ⟨none, none, [], some .trace⟩, 0⟩ : Progress)
  p.finish text

def FieldMatch.text (f : FieldMatch) : String :=
  match f.value with
  | none => f.name
  | some v => f.name ++ "=" ++ v

def Directive.text (d : Directive) : String :=
  let fields :=
    if d.fields.isEmpty then ""
    else "\x7b" ++ ",".intercalate (d.fields.map FieldMatch.text) ++ "\x7d"
  let scope :=
    if d.span.isNone && d.fields.isEmpty then "" else "[" ++ d.span.getD "" ++ fields ++ "]"
  let subject := d.target.getD "" ++ scope
  if d.target.isNone && scope.isEmpty then d.level.name else subject ++ "=" ++ d.level.name

end MetricRelay.Log
