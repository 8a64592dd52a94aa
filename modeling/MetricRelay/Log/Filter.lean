import MetricRelay.Log.Directive
import MetricRelay.Text.Utf8

namespace MetricRelay.Log

def quietTargets : List String := ["hyper", "hyper_util", "reqwest", "h2", "rustls"]

def quietDirectives : List Directive :=
  quietTargets.map fun t => ⟨some t, none, [], some .warn⟩

def filterText (level : LogLevel) (directives : List Directive) : String :=
  ",".intercalate (level.name :: directives.map Directive.text)

def parseFilter (s : String) : Option (List Directive) :=
  let parts := (Text.splitOn ',' s.toList).filter (!·.isEmpty)
  parts.mapM fun part => parse (String.ofList part)

def Directive.concerns (d : Directive) (target : String) : Bool :=
  d.span.isNone && d.fields.all (fun f => f.name == "message" && f.value.isNone)
    && (d.target.getD "").isPrefixOf target

/-- How closely a directive looks. Without a target it looks least closely. -/
def Directive.weight (d : Directive) : Nat × Nat :=
  (d.target.elim 0 (·.utf8ByteSize + 1), d.fields.length)

/-- Of the directives that concern the target the closest decides, and the last of equals. -/
def enables (directives : List Directive) (target : String) (level : LogLevel) : Bool :=
  let closer := fun (a b : Directive) =>
    a.weight.1 < b.weight.1 || (a.weight.1 == b.weight.1 && a.weight.2 ≤ b.weight.2)
  let choose := fun (best : Option Directive) (d : Directive) =>
    if !d.concerns target then best
    else
      match best with
      | none => some d
      | some b => if closer b d then some d else some b
  if directives.isEmpty then LogLevel.error.rank = level.rank
  else
    match directives.foldl choose none with
    | none => false
    | some d => d.level.allows level

/-- The filter that applies: the one that the user asks for apart from the configuration, if it is
not blank. None if it makes no sense. -/
def effective (requested : Option Bytes) (level : LogLevel) : Option (List Directive) :=
  match requested.bind Text.decode? with
  | some s =>
    if Text.isBlank s then parseFilter (filterText level quietDirectives) else parseFilter s
  | none => parseFilter (filterText level quietDirectives)

end MetricRelay.Log
