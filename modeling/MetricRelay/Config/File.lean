import MetricRelay.Config.Environment
import MetricRelay.Toml.Parse
import MetricRelay.Toml.Write

namespace MetricRelay.Config

/-- The one of the names that the value gives, either as text or as the key of a table that holds
nothing else. -/
def choiceOf? {α : Type} (name : α → String) (choices : List α) : Toml.Value → Option α
  | .string s => readChoice? name choices s
  | .table _ [(k, v)] =>
    match v with
    | .array [] => readChoice? name choices k
    | .table _ [] => readChoice? name choices k
    | .tables [] => readChoice? name choices k
    | _ => none
  | _ => none

def ofToml? : (k : SettingKind) → Toml.Value → Option k.Value
  | .text, .string s => some s
  | .number width, .integer n => if 0 ≤ n && n < Nat.pow 2 width then some n.toNat else none
  | .switch, .boolean b => some b
  | .path, .string s => some (Text.bytes s)
  | .policy, v => choiceOf? OverflowPolicy.name OverflowPolicy.all v
  | .level, v => choiceOf? LogLevel.name LogLevel.all v
  | .format, v => choiceOf? LogFormat.name LogFormat.all v
  | _, _ => none

def setFromToml (e : Toml.Entries) (c : Config) (s : Setting) : Except ConfigError Config :=
  match e.lookup s.key with
  | none => .ok c
  | some v =>
    match ofToml? s.kind v with
    | some v => .ok (c.set s v)
    | none => .error .parse

def ofDocument (text : String) : Except ConfigError Config :=
  match Toml.parse text with
  | none => .error .parse
  | some e => Setting.all.foldlM (setFromToml e) default

def fromFile (path : Path) (d : Disk) : Except ConfigError Config := do
  match d.read path with
  | .error fault => throw (.file fault)
  | .ok data =>
    match Text.decode? data with
    | none => throw (.file .invalidData)
    | some text =>
      let c ← ofDocument text
      c.checked d

def toToml : (k : SettingKind) → k.Value → String
  | .text, s => Toml.quote s
  | .number _, n => toString (show Nat from n)
  | .switch, b => toString (show Bool from b)
  | .path, p => Toml.quote (Text.decodeLossy p)
  | .policy, p => Toml.quote (OverflowPolicy.name p)
  | .level, l => Toml.quote (LogLevel.name l)
  | .format, f => Toml.quote (LogFormat.name f)

def render (c : Config) : String :=
  String.join <| (Setting.all.filter (· ≠ .password)).map fun s =>
    match c.get? s with
    | some v => Toml.field s.key (toToml s.kind v)
    | none => ""

end MetricRelay.Config
