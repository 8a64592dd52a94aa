import MetricRelay.Text.Composite
import MetricRelay.Text.Mark

namespace MetricRelay.Text

/-- What the character stands for in the end. No character takes more than four steps. -/
def takeApart : Nat → Char → List Char
  | 0, c => [c]
  | n + 1, c =>
    match split? c with
    | some (a, b) => takeApart n a ++ [b]
    | none => [c]

def insertMark (m : Char) : List Char → List Char
  | [] => [m]
  | c :: s =>
    if combiningClass c ≤ combiningClass m then c :: insertMark m s else m :: c :: s

/-- Orders each run of marks by class; marks of one class keep their order. `run` is the run before
the text. -/
def orderMarks (run : List Char) : List Char → List Char
  | [] => run
  | c :: s =>
    if combiningClass c = 0 then run ++ c :: orderMarks [] s else orderMarks (insertMark c run) s

/-- Text whose end may still change: a character, and the marks after it that it did not take in,
last mark first. -/
structure Composing where
  base : Char
  marks : List Char
  deriving DecidableEq, Repr

def Composing.text (p : Composing) : List Char := p.base :: p.marks.reverse

def Composing.reaches (p : Composing) (c : Char) : Bool :=
  match p.marks with
  | [] => true
  | m :: _ => combiningClass m < combiningClass c

def compose : Option Composing → List Char → List Char
  | none, [] => []
  | some p, [] => p.text
  | none, c :: s => if combiningClass c = 0 then compose (some ⟨c, []⟩) s else c :: compose none s
  | some p, c :: s =>
    match if p.reaches c then join? p.base c else none with
    | some base => compose (some { p with base }) s
    | none =>
      if combiningClass c = 0 then p.text ++ compose (some ⟨c, []⟩) s
      else compose (some { p with marks := c :: p.marks }) s

def normalize (s : List Char) : List Char :=
  if s.all (·.toNat < 0x300) then s
  else compose none (orderMarks [] (s.flatMap (takeApart 4)))

end MetricRelay.Text
