import MetricRelay.Text.Direction
import MetricRelay.Text.Joining
import MetricRelay.Text.Normal
import MetricRelay.Url.Domain.Alphabet
import MetricRelay.Url.Punycode

namespace MetricRelay.Url

open Text (Direction Joining isMark isVirama normalize)

structure Label where
  text : List Char
  ascii : List Char
  deriving DecidableEq, Repr

namespace Label

def isAscii (s : List Char) : Bool := s.all (·.toNat < 0x80)

def meets (side : Joining → Bool) (s : List Char) : Bool :=
  match s.dropWhile (Joining.ofChar · = .transparent) with
  | c :: _ => side (Joining.ofChar c)
  | [] => false

/-- A joiner or non-joiner follows a virama; a non-joiner may also part two letters that would be
joined. `before` is what comes before the text, last character first. -/
def joinersFit (before : List Char) : List Char → Bool
  | [] => true
  | c :: s =>
    let fits :=
      if c.toNat = 0x200c then
        before.head?.any isVirama || (meets Joining.joinsLeft before && meets Joining.joinsRight s)
      else if c.toNat = 0x200d then before.head?.any isVirama
      else true
    fits && joinersFit (c :: before) s

def lengthLimit : Nat := 1000

def codeLimit : Nat := 2000

def isSound (s : List Char) : Bool :=
  !s.head?.any isMark && joinersFit [] s && (isAscii s || s.length ≤ lengthLimit)

def decode? (code : List Char) : Option (List Char) :=
  if !isAscii code || code.getLast?.all (· == '-') || codeLimit < code.length then none
  else do
    let text ← Punycode.decode? code
    if text.all (fun c => isPlainInDomain c && !isForbiddenInDomain c && c != '.')
        && normalize text = text && isSound text then some text
    else none

def ofText? (s : List Char) : Option Label :=
  match s with
  | 'x' :: 'n' :: '-' :: '-' :: code => (decode? code).map fun text => ⟨text, s⟩
  | _ =>
    if s.any isForbiddenInDomain || !isSound s then none
    else if isAscii s then some ⟨s, s⟩
    else some ⟨s, 'x' :: 'n' :: '-' :: '-' :: Punycode.encode s⟩

def isNeutral (d : Direction) : Bool :=
  [.europeanNumber, .europeanSeparator, .commonSeparator, .europeanTerminator, .otherNeutral,
    .boundaryNeutral, .nonspacingMark].contains d

def runsLeft (d : Direction) : Bool := d = .rightToLeft || d = .arabicLetter

/-- Whether the label can stand in a name in which some text runs to the left. It begins with a
letter, ends with a letter or a number, marks apart, and does not mix the two kinds of numbers if it
runs to the left itself. -/
def directionFits (s : List Char) : Bool :=
  match s.map Direction.ofChar with
  | [] => true
  | first :: rest =>
    match rest.reverse.dropWhile (· = .nonspacingMark) with
    | [] => first = .leftToRight || runsLeft first
    | last :: middle =>
      if first = .leftToRight then
        (last = .leftToRight || last = .europeanNumber)
          && middle.all fun d => d = .leftToRight || isNeutral d
      else
        runsLeft first
          && (runsLeft last || last = .europeanNumber || last = .arabicNumber)
          && (middle.all fun d => runsLeft d || d = .arabicNumber || isNeutral d)
          && !((last :: middle).contains .europeanNumber
            && (last :: middle).contains .arabicNumber)

end Label

end MetricRelay.Url
