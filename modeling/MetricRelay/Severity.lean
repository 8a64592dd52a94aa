namespace MetricRelay

inductive Severity
  | undefined
  | unknown
  | normal
  | warning
  | minor
  | major
  | critical
  | fatal
  deriving DecidableEq, Repr

namespace Severity

def all : List Severity :=
  [undefined, unknown, normal, warning, minor, major, critical, fatal]

def name : Severity → String
  | undefined => "UNDEFINED"
  | unknown => "UNKNOWN"
  | normal => "NORMAL"
  | warning => "WARNING"
  | minor => "MINOR"
  | major => "MAJOR"
  | critical => "CRITICAL"
  | fatal => "FATAL"

def ofName? (s : String) : Option Severity := all.find? fun v => v.name = s

def parse? (s : String) : Option Severity := ofName? (s.map Char.toUpper)

end Severity

end MetricRelay
