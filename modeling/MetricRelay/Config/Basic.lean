import MetricRelay.Disk
import MetricRelay.Http.Client
import MetricRelay.Log.Level
import MetricRelay.Sender.Basic
import MetricRelay.Spool.Spool
import MetricRelay.Text.Lines
import MetricRelay.Transport.Tcp

namespace MetricRelay

structure Config where
  host : String
  port : Nat
  /-- In milliseconds. -/
  checkPeriod : Nat
  bufferCapacity : Nat
  overflowPolicy : OverflowPolicy
  maxPendingWrites : Nat
  /-- In seconds. -/
  connectTimeout : Nat
  /-- In seconds. -/
  writeTimeout : Nat
  viaHttp : Bool
  httpEndpoint : String
  username : Option String
  password : Option String
  /-- In seconds. -/
  httpTimeout : Nat
  batchSize : Nat
  failFast : Bool
  spoolPath : Option Path
  /-- In units of 2^20 bytes. -/
  maxSpool : Nat
  input : Option Path
  logLevel : LogLevel
  logFormat : LogFormat
  configFile : Option Path
  deriving DecidableEq, Repr

inductive UsageError
  | valueValidation
  | invalidValue
  | unknownArgument
  | argumentConflict
  | tooManyValues
  | invalidUtf8
  | help
  | version
  deriving DecidableEq, Repr

inductive ConfigError
  | invalidUrl (reason : String)
  | invalidConfig (reason : String)
  | file (cause : IoFault)
  | parse
  | environment (reason : String)
  | usage (cause : UsageError)
  deriving DecidableEq, Repr

def ConfigError.message (text : IoFault → String) : ConfigError → String
  | invalidUrl reason => s!"Invalid URL: {reason}"
  | invalidConfig reason => s!"Invalid configuration: {reason}"
  | file cause => s!"File error: {text cause}"
  | parse => "Parse error"
  | environment reason => s!"Environment error: {reason}"
  | usage _ => "Usage error"

namespace Config

def default : Config where
  host := "localhost"
  port := 8081
  checkPeriod := 5000
  bufferCapacity := 10000
  overflowPolicy := .dropOldest
  maxPendingWrites := 1024
  connectTimeout := 5
  writeTimeout := 10
  viaHttp := false
  httpEndpoint := "http://localhost:8088"
  username := none
  password := none
  httpTimeout := 30
  batchSize := 100
  failFast := false
  spoolPath := none
  maxSpool := 256
  input := none
  logLevel := .info
  logFormat := .compact
  configFile := none

def spoolParent? (c : Config) : Option Path :=
  (c.spoolPath.bind Path.parent?).filter (!·.isEmpty)

def require (condition : Bool) (reason : String) : Except ConfigError Unit :=
  if condition then .ok () else .error (.invalidConfig reason)

def validate (c : Config) (d : Disk) : Except ConfigError Unit := do
  require (!Text.isBlank c.host) "Host must not be empty"
  require (c.port != 0) "Port must be greater than 0"
  require (c.checkPeriod != 0) "Check period must be greater than 0"
  require (c.bufferCapacity != 0 && c.bufferCapacity ≤ Buffer.maxCapacity)
    s!"Buffer capacity must be between 1 and {Buffer.maxCapacity}, got {c.bufferCapacity}"
  require (c.maxPendingWrites != 0) "Max pending writes must be greater than 0"
  require (c.connectTimeout != 0 && c.writeTimeout != 0 && c.httpTimeout != 0)
    "Timeouts must be greater than 0"
  require (c.batchSize != 0) "Batch size must be greater than 0"
  if c.viaHttp then
    match Url.parse c.httpEndpoint with
    | .ok _ => pure ()
    | .error e =>
      throw (.invalidUrl s!"Invalid HTTP endpoint URL '{c.httpEndpoint}': {e.message}")
  match c.spoolParent? with
  | none => pure ()
  | some parent =>
    require (d.contains parent)
      s!"Spool parent directory does not exist: {Text.decodeLossy parent}"

def checked (c : Config) (d : Disk) : Except ConfigError Config := do
  c.validate d
  return c

def tcp (c : Config) : TcpConfig where
  host := c.host
  port := c.port
  connectTimeout := 1000 * c.connectTimeout
  writeTimeout := 1000 * c.writeTimeout
  nodelay := true

def sender (c : Config) : SenderConfig where
  checkPeriod := c.checkPeriod
  capacity := c.bufferCapacity
  policy := c.overflowPolicy
  maxPending := c.maxPendingWrites

def http (c : Config) : Http.Config :=
  { Http.Config.default with
    endpoint := c.httpEndpoint
    username := c.username
    password := c.password
    timeout := 1000 * c.httpTimeout }

/-- The limit is a number of 64 bits. -/
def spool (c : Config) : Except Panic (Option SpoolConfig) :=
  match c.spoolPath with
  | none => .ok none
  | some path =>
    let maxUsage := c.maxSpool * Nat.pow 2 20
    if maxUsage < Nat.pow 2 64 then .ok (some { SpoolConfig.default with path, maxUsage })
    else .error .multiplyOverflow

end Config

end MetricRelay
