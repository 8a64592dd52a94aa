import MetricRelay.Config.Basic

/-!
The fields of a configuration as a list, so that all sources of settings can be read alike.
-/
namespace MetricRelay

inductive SettingKind
  | text
  /-- Whole numbers below `2 ^ width`. -/
  | number (width : Nat)
  | switch
  | path
  | policy
  | level
  | format
  deriving DecidableEq, Repr

abbrev SettingKind.Value : SettingKind → Type
  | text => String
  | number _ => Nat
  | switch => Bool
  | path => Path
  | policy => OverflowPolicy
  | level => LogLevel
  | format => LogFormat

inductive Setting
  | host
  | port
  | checkPeriod
  | bufferCapacity
  | overflowPolicy
  | maxPendingWrites
  | connectTimeout
  | writeTimeout
  | viaHttp
  | httpEndpoint
  | username
  | password
  | httpTimeout
  | batchSize
  | failFast
  | spoolPath
  | maxSpool
  | input
  | logLevel
  | logFormat
  | configFile
  deriving DecidableEq, Repr

namespace Setting

def all : List Setting :=
  [host, port, checkPeriod, bufferCapacity, overflowPolicy, maxPendingWrites, connectTimeout,
    writeTimeout, viaHttp, httpEndpoint, username, password, httpTimeout, batchSize, failFast,
    spoolPath, maxSpool, input, logLevel, logFormat, configFile]

theorem mem_all (s : Setting) : s ∈ all := by
  cases s <;> decide

def key : Setting → String
  | host => "host"
  | port => "port"
  | checkPeriod => "check_period_ms"
  | bufferCapacity => "buffer_capacity"
  | overflowPolicy => "overflow_policy"
  | maxPendingWrites => "max_pending_writes"
  | connectTimeout => "connect_timeout_secs"
  | writeTimeout => "write_timeout_secs"
  | viaHttp => "via_http"
  | httpEndpoint => "http_endpoint"
  | username => "username"
  | password => "password"
  | httpTimeout => "http_timeout_secs"
  | batchSize => "batch_size"
  | failFast => "fail_fast"
  | spoolPath => "spool_path"
  | maxSpool => "max_spool_mb"
  | input => "input"
  | logLevel => "log_level"
  | logFormat => "log_format"
  | configFile => "config_file"

def option (s : Setting) : String := s.key.map fun c => if c = '_' then '-' else c

def envName? : Setting → Option String
  | input => none
  | s => some ("TSD_" ++ s.key.map Char.toUpper)

def kind : Setting → SettingKind
  | host => .text
  | port => .number 16
  | checkPeriod => .number 64
  | bufferCapacity => .number 64
  | overflowPolicy => .policy
  | maxPendingWrites => .number 64
  | connectTimeout => .number 64
  | writeTimeout => .number 64
  | viaHttp => .switch
  | httpEndpoint => .text
  | username => .text
  | password => .text
  | httpTimeout => .number 64
  | batchSize => .number 64
  | failFast => .switch
  | spoolPath => .path
  | maxSpool => .number 64
  | input => .path
  | logLevel => .level
  | logFormat => .format
  | configFile => .path

end Setting

namespace Config

def set (c : Config) : (s : Setting) → s.kind.Value → Config
  | .host, v => { c with host := v }
  | .port, v => { c with port := v }
  | .checkPeriod, v => { c with checkPeriod := v }
  | .bufferCapacity, v => { c with bufferCapacity := v }
  | .overflowPolicy, v => { c with overflowPolicy := v }
  | .maxPendingWrites, v => { c with maxPendingWrites := v }
  | .connectTimeout, v => { c with connectTimeout := v }
  | .writeTimeout, v => { c with writeTimeout := v }
  | .viaHttp, v => { c with viaHttp := v }
  | .httpEndpoint, v => { c with httpEndpoint := v }
  | .username, v => { c with username := some v }
  | .password, v => { c with password := some v }
  | .httpTimeout, v => { c with httpTimeout := v }
  | .batchSize, v => { c with batchSize := v }
  | .failFast, v => { c with failFast := v }
  | .spoolPath, v => { c with spoolPath := some v }
  | .maxSpool, v => { c with maxSpool := v }
  | .input, v => { c with input := some v }
  | .logLevel, v => { c with logLevel := v }
  | .logFormat, v => { c with logFormat := v }
  | .configFile, v => { c with configFile := some v }

def get? (c : Config) : (s : Setting) → Option s.kind.Value
  | .host => some c.host
  | .port => some c.port
  | .checkPeriod => some c.checkPeriod
  | .bufferCapacity => some c.bufferCapacity
  | .overflowPolicy => some c.overflowPolicy
  | .maxPendingWrites => some c.maxPendingWrites
  | .connectTimeout => some c.connectTimeout
  | .writeTimeout => some c.writeTimeout
  | .viaHttp => some c.viaHttp
  | .httpEndpoint => some c.httpEndpoint
  | .username => c.username
  | .password => c.password
  | .httpTimeout => some c.httpTimeout
  | .batchSize => some c.batchSize
  | .failFast => some c.failFast
  | .spoolPath => c.spoolPath
  | .maxSpool => some c.maxSpool
  | .input => c.input
  | .logLevel => some c.logLevel
  | .logFormat => some c.logFormat
  | .configFile => c.configFile

@[simp] theorem get?_set (c : Config) (s : Setting) (v : s.kind.Value) :
    (c.set s v).get? s = some v := by
  cases s <;> rfl

end Config

end MetricRelay
