import MetricRelay.Config.File

namespace MetricRelay

inductive Asked
  | set (s : Setting)
  | help
  | version
  deriving DecidableEq, Repr

namespace Config

def readSigned? (s : String) : Option Int :=
  match s.toList with
  | '-' :: digits =>
    if digits.isEmpty then none else (readDigits 64 0 digits).toOption.map fun n => -(n : Int)
  | _ => (readNumber 64 s).toOption.map fun n => (n : Int)

def choiceOfArgument {α : Type} (name : α → String) (choices : List α) (b : Bytes) :
    Except UsageError α :=
  match (Text.decode? b).bind (readChoice? name choices) with
  | some a => .ok a
  | none => .error .invalidValue

def textOfArgument (b : Bytes) : Except UsageError String :=
  match Text.decode? b with
  | some s => .ok s
  | none => .error .invalidUtf8

/-- Short numbers are read with a sign, as part of the larger range that they lie in. -/
def numberOfArgument (width : Nat) (s : String) : Except UsageError Nat :=
  let n :=
    if width < 64 then readSigned? s else (readNumber width s).toOption.map fun n => (n : Int)
  match n with
  | some n => if 0 ≤ n && n < Nat.pow 2 width then .ok n.toNat else .error .valueValidation
  | none => .error .valueValidation

def ofArgument : (k : SettingKind) → Bytes → Except UsageError k.Value
  | .text, b => textOfArgument b
  | .number width, b => do numberOfArgument width (← textOfArgument b)
  | .switch, b =>
    match (Text.decode? b).bind readSwitch? with
    | some v => .ok v
    | none => .error .invalidValue
  | .path, b => if b.isEmpty then .error .invalidValue else .ok b
  | .policy, b => choiceOfArgument OverflowPolicy.name OverflowPolicy.all b
  | .level, b => choiceOfArgument LogLevel.name LogLevel.all b
  | .format, b => choiceOfArgument LogFormat.name LogFormat.all b

structure Reading where
  config : Config
  given : List Setting
  /-- The last option, with its value if it has come. It is looked at when the next one comes. -/
  pending : Option (Setting × Option Bytes)

namespace Reading

def setValue (r : Reading) (s : Setting) (b : Bytes) : Except UsageError Reading := do
  let v ← ofArgument s.kind b
  return { r with config := r.config.set s v, given := s :: r.given }

def give (r : Reading) (s : Setting) (b : Bytes) : Except UsageError Reading :=
  if r.given.contains s then .error .argumentConflict else r.setValue s b

def settle (r : Reading) : Except UsageError Reading :=
  let r' := { r with pending := none }
  match r.pending with
  | none => .ok r'
  | some (_, none) => .error .invalidValue
  | some (s, some b) => r'.give s b

def option (r : Reading) (request : Asked) (value : Option Bytes) : Except UsageError Reading :=
  match request, value with
  | .set s, value =>
    if s.kind = .switch then
      match value with
      | some _ => .error .tooManyValues
      | none => do (← r.settle).give s (Text.bytes "true")
    else do
      let r ← r.settle
      match value with
      | some b => r.give s b
      | none => return { r with pending := some (s, none) }
  | _, some _ => .error .tooManyValues
  | .help, none => do
    let _ ← r.settle
    throw .help
  | .version, none => do
    let _ ← r.settle
    throw .version

def longOption? (name : String) : Option Asked :=
  match name with
  | "help" => some .help
  | "version" => some .version
  | name => (Setting.all.find? fun s => s.option = name).map .set

def shortOption? (letter : UInt8) : Option Asked :=
  if letter = 'i'.toUInt8 then some (.set .input)
  else if letter = 'h'.toUInt8 then some .help
  else if letter = 'V'.toUInt8 then some .version
  else none

def dash : UInt8 := '-'.toUInt8

def equals : UInt8 := '='.toUInt8

def attached (b : Bytes) : Option Bytes :=
  match b with
  | [] => none
  | a :: rest => if a = equals then some rest else some b

def plain (r : Reading) (b : Bytes) : Except UsageError Reading :=
  match r.pending with
  | some (s, none) => .ok { r with pending := some (s, some b) }
  | _ => .error .unknownArgument

def next (r : Reading) (b : Bytes) : Except UsageError Reading :=
  match b with
  | a :: letter :: rest =>
    if a = dash && letter = dash then
      let (name, value) := rest.span (· != equals)
      match (Text.decode? name).bind longOption? with
      | none => .error .unknownArgument
      | some request => r.option request (if value.isEmpty then none else some (value.drop 1))
    else if a = dash then
      match shortOption? letter with
      | none => .error .unknownArgument
      | some (.set s) => r.option (.set s) (attached rest)
      | some request => r.option request none
    else r.plain b
  | b => r.plain b

def all (r : Reading) : List Bytes → Except UsageError Reading
  | [] => .ok r
  | b :: rest =>
    if b = [dash, dash] then if rest.isEmpty then .ok r else .error .unknownArgument
    else do (← r.next b).all rest

def complete (env : Environment) (r : Reading) (s : Setting) : Except UsageError Reading :=
  if r.given.contains s then .ok r
  else
    match s.envName?.bind (env.lookup ·) with
    | none => .ok r
    | some b => r.setValue s b

end Reading

def readArguments (args : List Bytes) (env : Environment) : Except UsageError Config := do
  let r ← Reading.all ⟨default, [], none⟩ (args.drop 1)
  let r ← r.settle
  let r ← Setting.all.foldlM (Reading.complete env) r
  return r.config

/-- A configuration file takes the place of all settings but the input. -/
def fromArguments (args : List Bytes) (env : Environment) (d : Disk) :
    Except ConfigError Config := do
  let c ← (readArguments args env).mapError .usage
  match c.configFile with
  | none => c.checked d
  | some path =>
    let fromFile ← fromFile path d
    return { fromFile with
      configFile := some path
      input := c.input.orElse fun _ => fromFile.input }

end Config

end MetricRelay
