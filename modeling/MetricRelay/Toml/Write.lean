import MetricRelay.Toml.Text

namespace MetricRelay.Toml

def longestRun (c : Char) (s : List Char) : Nat :=
  (s.foldl (fun (longest, run) a =>
    if a = c then (max longest (run + 1), run + 1) else (longest, 0)) (0, 0)).1

def needsEscape (c : Char) : Bool :=
  (c.toNat ≤ 0x1f && c ≠ '\t' && c ≠ '\n') || c.toNat = 0x7f

def hex4 (n : Nat) : List Char :=
  [n / 4096 % 16, n / 256 % 16, n / 16 % 16, n % 16].map fun d => (Nat.digitChar d).toUpper

def escapeChar (c : Char) : List Char :=
  match c with
  | '\x08' => ['\\', 'b']
  | '\t' => ['\\', 't']
  | '\x0c' => ['\\', 'f']
  | '\r' => ['\\', 'r']
  | '\\' => ['\\', '\\']
  | c => if needsEscape c then '\\' :: 'u' :: hex4 c.toNat else [c]

/-- Escapes what a string between double quotes cannot hold. At most `quotes` of them may stand
together; `run` is how many have just been written. -/
def escapeBasic (quotes : Nat) (lines : Bool) : Nat → List Char → List Char
  | _, [] => []
  | run, c :: s =>
    if c = '"' then
      if run < quotes then '"' :: escapeBasic quotes lines (run + 1) s
      else '\\' :: '"' :: escapeBasic quotes lines 0 s
    else if c = '\n' && !lines then '\\' :: 'n' :: escapeBasic quotes lines 0 s
    else escapeChar c ++ escapeBasic quotes lines 0 s

def quote (s : String) : String :=
  let text := s.toList
  let escapes := text.any needsEscape
  let backslash := text.contains '\\'
  let lines := text.contains '\n'
  let double := longestRun '"' text
  let single := longestRun '\'' text
  let three := fun c => [c, c, c]
  let first := if lines then ['\n'] else []
  let many := fun c (body : List Char) => three c ++ first ++ body ++ three c
  let basic := ['"'] ++ escapeBasic 0 false 0 text ++ ['"']
  let basicMany := many '"' (escapeBasic 2 true 0 text)
  String.ofList <|
    if !escapes && !backslash && double = 0 && !lines then basic
    else if !escapes && single = 0 && !lines then '\'' :: text ++ ['\'']
    else if !escapes && !backslash && double ≤ 2 then basicMany
    else if !escapes && single ≤ 2 then many '\'' text
    else if lines then basicMany
    else basic

def field (key value : String) : String := s!"{key} = {value}\n"

end MetricRelay.Toml
