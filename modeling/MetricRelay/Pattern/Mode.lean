import MetricRelay.Text.Digits
import MetricRelay.Text.Lines

namespace MetricRelay.Pattern

structure Mode where
  ignoreCase : Bool
  unicode : Bool
  verbose : Bool
  deriving DecidableEq, Repr

def skipBlanks (comment : Bool) : List Char → List Char
  | [] => []
  | c :: s =>
    if comment then skipBlanks (c != '\n') s
    else if Text.isBlankChar c then skipBlanks false s
    else if c = '#' then skipBlanks true s
    else c :: s

namespace Mode

def start : Mode := ⟨false, true, false⟩

def skip (m : Mode) (s : List Char) : List Char := if m.verbose then skipBlanks false s else s

def set? (m : Mode) (flag : Char) (on : Bool) : Option Mode :=
  match flag with
  | 'i' => some { m with ignoreCase := on }
  | 'u' => some { m with unicode := on }
  | 'x' => some { m with verbose := on }
  | c => if ['m', 's', 'U', 'R'].contains c then some m else none

/-- Letters up to a colon or a parenthesis, which is left. None comes twice, and those after a hyphen
are turned off. `seen` is what has been read, last letter first. -/
def flags? (seen : List Char) (m : Mode) : List Char → Option (Mode × List Char)
  | [] => none
  | c :: s =>
    if c = ':' || c = ')' then if seen.head? = some '-' then none else some (m, c :: s)
    else if seen.contains c then none
    else if c = '-' then flags? ('-' :: seen) m s
    else (m.set? c (!seen.contains '-')).bind fun m => flags? (c :: seen) m s

/-- Whether the character can stand for itself. `written` tells that it is written as a byte. Case
is only ignored among bytes, for lack of a table. -/
def admits (m : Mode) (c : Char) (written : Bool) : Bool :=
  if m.unicode then !m.ignoreCase else !written || c.toNat < 0x80

def admitsMember (m : Mode) (c : Char) : Bool :=
  if m.unicode then !m.ignoreCase else c.toNat < 0x80

def admitsNamed (m : Mode) (negated : Bool) : Bool := if m.unicode then !m.ignoreCase else !negated

def admitsShorthand (m : Mode) (negated : Bool) : Bool := !m.unicode && !negated

end Mode

inductive Escape
  | literal (c : Char) (written : Bool)
  | shorthand (negated : Bool)
  | textEdge
  | wordEdge
  deriving DecidableEq, Repr

def hexadecimal? (m : Mode) : Nat → Nat → List Char → Option (Nat × List Char)
  | 0, value, s => some (value, s)
  | n + 1, value, s =>
    match m.skip s with
    | [] => none
    | c :: s => (Text.digit? c).bind fun d => hexadecimal? m n (16 * value + d) s

def controlLetters : List (Char × Char) :=
  [('a', '\x07'), ('f', '\x0c'), ('n', '\n'), ('r', '\r'), ('t', '\t'), ('v', '\x0b')]

def escape? (m : Mode) : List Char → Option (Escape × List Char)
  | [] => none
  | c :: s =>
    let coded := fun digits written => do
      let (n, s) ← hexadecimal? m digits 0 s
      if n.isValidChar then some (Escape.literal (Char.ofNat n) written, s) else none
    if c = 'x' then coded 2 true
    else if c = 'u' then coded 4 false
    else if c = 'U' then coded 8 false
    else if ['d', 's', 'w'].contains c then some (.shorthand false, s)
    else if ['D', 'S', 'W'].contains c then some (.shorthand true, s)
    else if c = 'A' || c = 'z' then some (.textEdge, s)
    else if ['b', 'B', '<', '>'].contains c then some (.wordEdge, s)
    else
      match controlLetters.find? (·.1 = c) with
      | some (_, control) => some (.literal control false, s)
      | none => if c.toNat < 0x80 && !c.isAlphanum then some (.literal c false, s) else none

end MetricRelay.Pattern
