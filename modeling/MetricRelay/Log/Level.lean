namespace MetricRelay

inductive LogLevel
  | error
  | warn
  | info
  | debug
  | trace
  deriving DecidableEq, Repr

namespace LogLevel

def all : List LogLevel := [error, warn, info, debug, trace]

def name : LogLevel → String
  | error => "error"
  | warn => "warn"
  | info => "info"
  | debug => "debug"
  | trace => "trace"

def rank : LogLevel → Nat
  | error => 1
  | warn => 2
  | info => 3
  | debug => 4
  | trace => 5

end LogLevel

inductive LogFormat
  | compact
  | json
  deriving DecidableEq, Repr

namespace LogFormat

def all : List LogFormat := [compact, json]

def name : LogFormat → String
  | compact => "compact"
  | json => "json"

end LogFormat

abbrev LevelFilter := Option LogLevel

namespace LevelFilter

def all : List LevelFilter := none :: LogLevel.all.map some

def name : LevelFilter → String
  | none => "off"
  | some l => l.name

def rank : LevelFilter → Nat
  | none => 0
  | some l => l.rank

def allows (f : LevelFilter) (l : LogLevel) : Bool := l.rank ≤ rank f

end LevelFilter

end MetricRelay
