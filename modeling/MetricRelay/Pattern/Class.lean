import MetricRelay.Pattern.Mode

/-!
Regular expressions, part two: classes of characters in brackets. What has been read of one is kept
as a list of depths, which tell how deeply classes are nested in each member.
-/
namespace MetricRelay.Pattern

/-- Several things in a row are one level above the deepest of them. -/
def rowDepth (depths : List Nat) : Nat :=
  match depths with
  | [] => 0
  | [d] => d
  | ds => ds.foldl max 0 + 1

def operandDepth (left : Option Nat) (members : List Nat) : Nat :=
  match left with
  | none => rowDepth members
  | some d => max d (rowDepth members) + 1

def classNames : List String :=
  ["alnum", "alpha", "ascii", "blank", "cntrl", "digit", "graph", "lower", "print", "punct",
    "space", "upper", "word", "xdigit"]

def named? (s : List Char) : Option (Bool × List Char) :=
  match s with
  | ':' :: s =>
    let (negated, s) :=
      match s with
      | '^' :: s => (true, s)
      | s => (false, s)
    match s.span (· != ':') with
    | (name, ':' :: ']' :: s) =>
      if classNames.contains (String.ofList name) then some (negated, s) else none
    | _ => none
  | _ => none

def member? (m : Mode) : List Char → Option (Option Char × List Char)
  | [] => none
  | '\\' :: s =>
    match escape? m s with
    | some (.literal c _, s) => some (some c, s)
    | some (.shorthand negated, s) => if m.admitsShorthand negated then some (none, s) else none
    | _ => none
  | c :: s => some (some c, s)

def afterHyphen (m : Mode) (s : List Char) : Option Char :=
  if m.verbose then
    match s.dropWhile Text.isBlankChar with
    | '#' :: s => (s.dropWhile Text.isBlankChar).head?
    | s => s.head?
  else s.head?

def range? (m : Mode) (s : List Char) : Option (List Char) := do
  let (first, s) ← member? m s
  let alone := if first.all m.admitsMember then some (m.skip s) else none
  match m.skip s with
  | '-' :: s =>
    if afterHyphen m s = some ']' || afterHyphen m s = some '-' then alone
    else
      match first, ← member? m (m.skip s) with
      | some a, (some b, s) =>
        if a ≤ b && m.admitsMember a && m.admitsMember b then some s else none
      | _, _ => none
  | _ => alone

/-- Reads a class up to its closing bracket. Hyphens at its beginning (`opening`) are members, and
so is a bracket at the very beginning. A negated class of bytes would hold some above ASCII. -/
def class? (m : Mode) : Nat → Bool → Option Nat → List Nat → List Char → Option (Nat × List Char)
  | 0, _, _, _, _ => none
  | fuel + 1, opening, left, members, s =>
    let operator := fun s => class? m fuel false (some (operandDepth left members)) [] s
    match m.skip s with
    | [] => none
    | '[' :: s =>
      match named? s with
      | some (negated, s) =>
        if m.admitsNamed negated then class? m fuel false left (0 :: members) s else none
      | none => do
        let (depth, s) ←
          match m.skip s with
          | '^' :: s => if m.unicode then class? m fuel true none [] s else none
          | s => class? m fuel true none [] s
        class? m fuel false left ((depth + 1) :: members) s
    | ']' :: s =>
      if opening && members.isEmpty then
        if m.admitsMember ']' then class? m fuel false left [0] s else none
      else some (operandDepth left members, s)
    | '-' :: s =>
      if opening then
        if m.admitsMember '-' then class? m fuel true left (0 :: members) s else none
      else
        match s with
        | '-' :: s => operator s
        | s => (range? m ('-' :: s)).bind (class? m fuel false left (0 :: members))
    | '&' :: '&' :: s => operator s
    | '~' :: '~' :: s => operator s
    | s => (range? m s).bind (class? m fuel false left (0 :: members))

def bracketed? (m : Mode) (s : List Char) : Option (Nat × List Char) := do
  let (depth, s) ←
    match m.skip s with
    | '^' :: s => if m.unicode then class? m (s.length + 1) true none [] s else none
    | s => class? m (s.length + 1) true none [] s
  return (depth + 1, s)

end MetricRelay.Pattern
