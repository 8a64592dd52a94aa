import MetricRelay.Text.Digits

namespace MetricRelay.Toml

def isSpace (c : Char) : Bool := c = ' ' || c = '\t'

def skipSpaces (s : List Char) : List Char := s.dropWhile isSpace

def isTextChar (c : Char) : Bool := c = '\t' || (0x20 ≤ c.toNat && c.toNat ≠ 0x7f)

def newline? : List Char → Option (List Char)
  | '\n' :: s => some s
  | '\r' :: '\n' :: s => some s
  | _ => none

def skipComment : List Char → List Char
  | '#' :: s => s.dropWhile isTextChar
  | s => s

def endLine? (s : List Char) : Option (List Char) :=
  match skipComment (skipSpaces s) with
  | [] => some []
  | s => newline? s

def skipBlanks : Nat → List Char → List Char
  | 0, s => s
  | fuel + 1, s =>
    let s := skipComment (skipSpaces s)
    match newline? s with
    | some s => skipBlanks fuel s
    | none => s

def codePoint? (n : Nat) (s : List Char) : Option (Char × List Char) := do
  let digits := s.take n
  if digits.length < n then none
  else
    let code ← Text.numeral? 16 digits
    if code.isValidChar then some (Char.ofNat code, s.drop n) else none

def escape? : List Char → Option (Char × List Char)
  | 'b' :: s => some ('\x08', s)
  | 't' :: s => some ('\t', s)
  | 'n' :: s => some ('\n', s)
  | 'f' :: s => some ('\x0c', s)
  | 'r' :: s => some ('\r', s)
  | '"' :: s => some ('"', s)
  | '\\' :: s => some ('\\', s)
  | 'u' :: s => codePoint? 4 s
  | 'U' :: s => codePoint? 8 s
  | _ => none

def basicString? : Nat → List Char → Option (List Char × List Char)
  | 0, _ => none
  | _, [] => none
  | fuel + 1, c :: s =>
    if c = '"' then some ([], s)
    else if c = '\\' then do
      let (c, s) ← escape? s
      let (text, s) ← basicString? fuel s
      return (c :: text, s)
    else if isTextChar c then do
      let (text, s) ← basicString? fuel s
      return (c :: text, s)
    else none

def literalString? : List Char → Option (List Char × List Char)
  | [] => none
  | c :: s =>
    if c = '\'' then some ([], s)
    else if isTextChar c then do
      let (text, s) ← literalString? s
      return (c :: text, s)
    else none

/-- The quotes that end a string of many lines, up to two of which belong to it. -/
def closing? (quote : Char) (s : List Char) : Option (List Char × List Char) :=
  let quotes := min 5 (s.takeWhile (· == quote)).length
  if 3 ≤ quotes then some (List.replicate (quotes - 3) quote, s.drop quotes) else none

def skipFold? (fuel : Nat) (s : List Char) : Option (List Char) :=
  let rec go : Nat → List Char → List Char
    | 0, s => s
    | fuel + 1, s =>
      let s := skipSpaces s
      match newline? s with
      | some s => go fuel s
      | none => s
  (newline? (skipSpaces s)).map (go fuel)

def basicLines? : Nat → List Char → Option (List Char × List Char)
  | 0, _ => none
  | _, [] => none
  | fuel + 1, c :: s =>
    let go := fun (c : Char) (s : List Char) => do
      let (text, s) ← basicLines? fuel s
      return (c :: text, s)
    match closing? '"' (c :: s) with
    | some r => some r
    | none =>
      if c = '\\' then
        match skipFold? fuel s with
        | some s => basicLines? fuel s
        | none => do
          let (c, s) ← escape? s
          go c s
      else
        match newline? (c :: s) with
        | some s => go '\n' s
        | none => if isTextChar c then go c s else none

def literalLines? : Nat → List Char → Option (List Char × List Char)
  | 0, _ => none
  | _, [] => none
  | fuel + 1, c :: s =>
    let go := fun (c : Char) (s : List Char) => do
      let (text, s) ← literalLines? fuel s
      return (c :: text, s)
    match closing? '\'' (c :: s) with
    | some r => some r
    | none =>
      match newline? (c :: s) with
      | some s => go '\n' s
      | none => if isTextChar c then go c s else none

def skipFirst (s : List Char) : List Char := (newline? s).getD s

def string? (s : List Char) : Option (String × List Char) :=
  let fuel := s.length + 1
  let text : Option (List Char × List Char) :=
    match s with
    | '"' :: '"' :: '"' :: s => basicLines? fuel (skipFirst s)
    | '"' :: s => basicString? fuel s
    | '\'' :: '\'' :: '\'' :: s => literalLines? fuel (skipFirst s)
    | '\'' :: s => literalString? s
    | _ => none
  text.map fun (text, s) => (String.ofList text, s)

def isBare (c : Char) : Bool := c.isAlphanum || c = '_' || c = '-'

def simpleKey? (s : List Char) : Option (String × List Char) :=
  match s with
  | '"' :: s => (basicString? (s.length + 1) s).map fun (text, s) => (String.ofList text, s)
  | '\'' :: s => (literalString? s).map fun (text, s) => (String.ofList text, s)
  | s =>
    match s.span isBare with
    | ([], _) => none
    | (name, s) => some (String.ofList name, s)

def keys? : Nat → List Char → Option (List String × List Char)
  | 0, _ => none
  | fuel + 1, s => do
    let (k, s) ← simpleKey? (skipSpaces s)
    match skipSpaces s with
    | '.' :: s =>
      let (path, s) ← keys? fuel s
      return (k :: path, s)
    | s => return ([k], s)

def depthLimit : Nat := 80

def key? (s : List Char) : Option (List String × List Char) :=
  (keys? (s.length + 1) s).filter fun r => r.1.length < depthLimit

end MetricRelay.Toml
