import MetricRelay.Pattern.Class
import MetricRelay.Text.Letter

namespace MetricRelay.Pattern

structure Part where
  depth : Nat
  repeatable : Bool
  deriving DecidableEq, Repr

structure Group where
  mode : Mode
  /-- The sequence that is being read, last part first. -/
  parts : List Part
  choices : List Nat
  deriving DecidableEq, Repr

def Group.add (g : Group) (depth : Nat) : Group := { g with parts := ⟨depth, true⟩ :: g.parts }

def Group.choicesWithLast (g : Group) : List Nat := rowDepth (g.parts.map Part.depth) :: g.choices

def Group.depth (g : Group) : Nat := rowDepth g.choicesWithLast

structure Progress where
  group : Group
  outer : List Group
  names : List (List Char)
  deriving DecidableEq, Repr

def Progress.add (p : Progress) (depth : Nat) : Progress := { p with group := p.group.add depth }

def Progress.openGroup (p : Progress) (mode : Mode) : Progress :=
  { p with group := ⟨mode, [], []⟩, outer := p.group :: p.outer }

def isGroupName : List Char → Bool
  | [] => false
  | c :: s =>
    (c = '_' || Text.isAlphabetic c)
      && s.all fun c => ['_', '.', '[', ']'].contains c || Text.isAlphanumeric c

def Progress.parenthesis? (p : Progress) (s : List Char) : Option (Progress × List Char) :=
  let mode := p.group.mode
  let named := fun (s : List Char) =>
    match s.span (· != '>') with
    | (name, _ :: s) =>
      if isGroupName name && !p.names.contains name then
        some ({ p with names := name :: p.names }.openGroup mode, s)
      else none
    | _ => none
  match mode.skip s with
  | '?' :: 'P' :: '<' :: s => named s
  | '?' :: '<' :: s => named s
  | '?' :: ')' :: _ => none
  | '?' :: s =>
    match mode.flags? [] s with
    | some (mode, ':' :: s) => some (p.openGroup mode, s)
    | some (mode, _ :: s) =>
      some ({ p with group := { p.group with mode, parts := ⟨0, false⟩ :: p.group.parts } }, s)
    | _ => none
  | s => some (p.openGroup mode, s)

def Progress.close? (p : Progress) : Option Progress :=
  match p.outer with
  | [] => none
  | g :: outer => some { p with group := g.add (p.group.depth + 1), outer }

def Progress.repeat? (p : Progress) : Option Progress :=
  match p.group.parts with
  | ⟨depth, true⟩ :: parts =>
    some { p with group := { p.group with parts := ⟨depth + 1, true⟩ :: parts } }
  | _ => none

/-- The end of a word is only found among bytes, for lack of a table. -/
def Progress.escape? (p : Progress) (s : List Char) : Option (Progress × List Char) := do
  let mode := p.group.mode
  let (e, s) ← Pattern.escape? mode s
  let fits :=
    match e with
    | .literal c written => mode.admits c written
    | .shorthand negated => mode.admitsShorthand negated
    | .textEdge => true
    | .wordEdge => !mode.unicode
  if fits then some (p.add 0, s) else none

/-- Reads to the end. Each round reads a character at least, so that fuel for one round more than
there are characters is enough. -/
def Progress.read? : Nat → Progress → List Char → Option Progress
  | 0, _, _ => none
  | fuel + 1, p, s =>
    let mode := p.group.mode
    match mode.skip s with
    | [] => some p
    | '(' :: s => (p.parenthesis? s).bind fun (p, s) => read? fuel p s
    | ')' :: s => p.close?.bind (read? fuel · s)
    | '|' :: s =>
      let group := { p.group with parts := [], choices := p.group.choicesWithLast }
      read? fuel { p with group } s
    | '[' :: s => (bracketed? mode s).bind fun (depth, s) => read? fuel (p.add depth) s
    | '\x7b' :: _ => none
    | '\\' :: s => (p.escape? s).bind fun (p, s) => read? fuel p s
    | '^' :: s => read? fuel (p.add 0) s
    | '$' :: s => read? fuel (p.add 0) s
    | '.' :: s => if mode.unicode then read? fuel (p.add 0) s else none
    | c :: s =>
      if c = '*' || c = '+' || c = '?' then
        let s :=
          match s with
          | '?' :: s => s
          | s => s
        p.repeat?.bind (read? fuel · s)
      else if mode.admits c false then read? fuel (p.add 0) s
      else none

def depthLimit : Nat := 250

end MetricRelay.Pattern

namespace MetricRelay

/-- Whether the text is a regular expression. Braces, which could only count repetitions, are not
part of it. -/
def isPattern (s : List Char) : Bool :=
  match Pattern.Progress.read? (s.length + 1) ⟨⟨.start, [], []⟩, [], []⟩ s with
  | some p => p.outer.isEmpty && p.group.depth ≤ Pattern.depthLimit
  | none => false

end MetricRelay
