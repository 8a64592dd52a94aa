import MetricRelay.OrderedMap
import MetricRelay.Severity
import MetricRelay.Text.Lines

namespace MetricRelay

inductive CommandError
  | missingEntity
  | missingPropertyType
  | missingMetric
  deriving DecidableEq, Repr

def CommandError.message : CommandError → String
  | .missingEntity => "Invalid argument: entity name is empty"
  | .missingPropertyType => "Invalid argument: property type is empty"
  | .missingMetric => "Invalid argument: metric name is empty"

structure Name where
  text : String
  visible : Text.isBlank text = false

def Name.of (e : CommandError) (s : String) : Except CommandError Name :=
  if h : Text.isBlank s = false then .ok ⟨s, h⟩ else .error e

structure Sample where
  time : Option Int
  value : Float
  text : Option String

namespace Sample

def new (value : Float) : Sample := ⟨none, value, none⟩

def withTime (s : Sample) (t : Int) : Sample := { s with time := some t }

def timed (t : Int) (value : Float) : Sample := (new value).withTime t

def withText (s : Sample) (text : String) : Sample :=
  { s with text := if text.isEmpty then none else some text }

end Sample

structure Series where
  entity : Name
  metric : Name
  sample : Sample
  tags : Tags

namespace Series

def new (entity metric : String) (sample : Sample) : Except CommandError Series := do
  let entity ← Name.of .missingEntity entity
  let metric ← Name.of .missingMetric metric
  return ⟨entity, metric, sample, .empty⟩

def withTag (c : Series) (k v : String) : Series := { c with tags := c.tags.insert k v }

def withTags (c : Series) (tags : Tags) : Series := { c with tags }

end Series

structure MultipleInsert where
  entity : Name
  time : Option Int
  tags : Tags
  numeric : OrderedMap Float
  texts : Tags

namespace MultipleInsert

def new (entity : String) (time : Option Int) (tags : Tags) (numeric : OrderedMap Float) :
    Except CommandError MultipleInsert := do
  let entity ← Name.of .missingEntity entity
  return ⟨entity, time, tags, numeric, .empty⟩

def withTexts (c : MultipleInsert) (texts : Tags) : MultipleInsert := { c with texts }

def withNumeric (c : MultipleInsert) (metric : String) (v : Float) : MultipleInsert :=
  { c with numeric := c.numeric.insert metric v }

def withText (c : MultipleInsert) (metric v : String) : MultipleInsert :=
  { c with texts := c.texts.insert metric v }

def withTag (c : MultipleInsert) (k v : String) : MultipleInsert :=
  { c with tags := c.tags.insert k v }

/-- Sets the time to the last whole millisecond of `secs` seconds and `nanos` nanoseconds. -/
def withTimestamp (c : MultipleInsert) (secs : Int) (nanos : Nat) : MultipleInsert :=
  { c with time := some (secs * 1000 + nanos / 1000000) }

end MultipleInsert

structure Property where
  entity : Name
  type : Name
  time : Option Int
  key : Tags
  tags : Tags

namespace Property

def new (entity type : String) : Except CommandError Property := do
  let entity ← Name.of .missingEntity entity
  let type ← Name.of .missingPropertyType type
  return ⟨entity, type, none, .empty, .empty⟩

def withTime (c : Property) (t : Int) : Property := { c with time := some t }

def withKey (c : Property) (k v : String) : Property := { c with key := c.key.insert k v }

def withTag (c : Property) (k v : String) : Property := { c with tags := c.tags.insert k v }

def withTags (c : Property) (tags : Tags) : Property := { c with tags }

end Property

structure Message where
  entity : Name
  time : Option Int
  type : Option String
  source : Option String
  severity : Option Severity
  tags : Tags
  text : String

namespace Message

def new (entity text : String) : Except CommandError Message := do
  let entity ← Name.of .missingEntity entity
  return ⟨entity, none, none, none, none, .empty, text⟩

def withTime (c : Message) (t : Int) : Message := { c with time := some t }

def withType (c : Message) (type : String) : Message := { c with type := some type }

def withSource (c : Message) (source : String) : Message := { c with source := some source }

def withSeverity (c : Message) (s : Severity) : Message := { c with severity := some s }

def withTag (c : Message) (k v : String) : Message := { c with tags := c.tags.insert k v }

end Message

inductive Command
  | series (c : Series)
  | multipleInsert (c : MultipleInsert)
  | property (c : Property)
  | message (c : Message)

namespace Command

def name : Command → String
  | series _ | multipleInsert _ => "series"
  | property _ => "property"
  | message _ => "message"

def entity : Command → String
  | series c => c.entity.text
  | multipleInsert c => c.entity.text
  | property c => c.entity.text
  | message c => c.entity.text

def time : Command → Option Int
  | series c => c.sample.time
  | multipleInsert c => c.time
  | property c => c.time
  | message c => c.time

end Command

end MetricRelay
