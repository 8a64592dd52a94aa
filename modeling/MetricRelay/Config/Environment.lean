import MetricRelay.Config.Setting

namespace MetricRelay

abbrev Environment := List (String × Bytes)

namespace Config

inductive NumeralError
  | empty
  | invalidDigit
  | tooLarge
  deriving DecidableEq, Repr

def NumeralError.message : NumeralError → String
  | empty => "cannot parse integer from empty string"
  | invalidDigit => "invalid digit found in string"
  | tooLarge => "number too large to fit in target type"

def readDigits (width : Nat) : Nat → List Char → Except NumeralError Nat
  | n, [] => .ok n
  | n, c :: s =>
    if !c.isDigit then .error .invalidDigit
    else
      let n := 10 * n + (c.toNat - '0'.toNat)
      if Nat.pow 2 width ≤ n then .error .tooLarge else readDigits width n s

def readNumber (width : Nat) (s : String) : Except NumeralError Nat :=
  match s.toList with
  | [] => .error .empty
  | ['+'] => .error .invalidDigit
  | '+' :: digits => readDigits width 0 digits
  | digits => readDigits width 0 digits

def readSwitch? (s : String) : Option Bool :=
  match s with
  | "true" => some true
  | "false" => some false
  | _ => none

def readChoice? {α : Type} (name : α → String) (choices : List α) (s : String) : Option α :=
  choices.find? fun a => name a = s

def readChoice {α : Type} (name : α → String) (choices : List α) (s : String) : Except String α :=
  match readChoice? name choices (s.map Char.toLower) with
  | some a => .ok a
  | none => .error s!"invalid variant: {s}"

def ofVariable : (k : SettingKind) → String → Except String k.Value
  | .text, s => .ok s
  | .number width, s => (readNumber width s).mapError NumeralError.message
  | .switch, s =>
    match readSwitch? s with
    | some b => .ok b
    | none => .error "provided string was not `true` or `false`"
  | .path, s => .ok (Text.bytes s)
  | .policy, s => readChoice OverflowPolicy.name OverflowPolicy.all s
  | .level, s => readChoice LogLevel.name LogLevel.all s
  | .format, s => readChoice LogFormat.name LogFormat.all s

def environmentOrder : List Setting :=
  [.host, .port, .checkPeriod, .bufferCapacity, .maxPendingWrites, .connectTimeout, .writeTimeout,
    .viaHttp, .httpEndpoint, .username, .password, .httpTimeout, .batchSize, .failFast, .spoolPath,
    .maxSpool, .configFile, .overflowPolicy, .logLevel, .logFormat]

def setFromEnvironment (env : Environment) (c : Config) (s : Setting) :
    Except ConfigError Config := do
  match s.envName? with
  | none => return c
  | some name =>
    match (env.lookup name).bind Text.decode? with
    | none => return c
    | some text =>
      match ofVariable s.kind text with
      | .ok v => return c.set s v
      | .error reason => throw (.environment s!"Invalid {name}: {reason}")

def fromEnvironment (env : Environment) (d : Disk) : Except ConfigError Config := do
  let c ← environmentOrder.foldlM (setFromEnvironment env) default
  c.checked d

end Config

end MetricRelay
