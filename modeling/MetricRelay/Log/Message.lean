import MetricRelay.Log.Filter

namespace MetricRelay.Log

structure Message where
  level : LogLevel
  target : String
  text : String
  deriving DecidableEq, Repr

structure Logger where
  filter : Option (List Directive)
  format : LogFormat

def escapeChar (c : Char) : List Char :=
  match c with
  | '"' => ['\\', '"']
  | '\\' => ['\\', '\\']
  | '\n' => ['\\', 'n']
  | '\r' => ['\\', 'r']
  | '\t' => ['\\', 't']
  | c =>
    if c.toNat < 0x20 then
      ['\\', 'u', '0', '0', Nat.digitChar (c.toNat / 16), Nat.digitChar (c.toNat % 16)]
    else [c]

def quote (s : String) : String := String.ofList (['"'] ++ s.toList.flatMap escapeChar ++ ['"'])

def object (fields : List (String × String)) : String :=
  let field := fun (name, value) => quote name ++ ":" ++ value
  "\x7b" ++ ",".intercalate (fields.map field) ++ "\x7d"

def Message.render (m : Message) (time : String) : LogFormat → String
  | .compact => s!"{time} {m.level.name.map Char.toUpper} {m.target}: {m.text}"
  | .json =>
    object [("timestamp", quote time), ("level", quote (m.level.name.map Char.toUpper)),
      ("fields", object [("message", quote m.text)]), ("target", quote m.target)]

namespace Logger

def enables (l : Logger) (target : String) (level : LogLevel) : Bool :=
  l.filter.elim false fun directives => Log.enables directives target level

def line? (l : Logger) (time : String) (m : Message) : Option String :=
  if l.enables m.target m.level then some (m.render time l.format) else none

end Logger

end MetricRelay.Log
