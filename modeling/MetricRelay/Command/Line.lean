import MetricRelay.Command
import MetricRelay.Decimal.Positional
import MetricRelay.Text.Quoted

/-!
The line of a command: its name, then tokens with a blank before each, then a line feed. A token is
a prefix such as `e:` and a quoted field, or a pair of them with an equals sign between.
-/
namespace MetricRelay

inductive Token
  | field (label : String) (value : String)
  | pair (label : String) (key value : String)
  | number (label : String) (key : String) (value : Float)
  | raw (label : String) (text : String)

namespace Token

def quoted (s : String) : List Char := Text.Quoted.encode s.toList

def text : Token → List Char
  | field label v => label.toList ++ quoted v
  | pair label k v => label.toList ++ quoted k ++ '=' :: quoted v
  | number label k v => label.toList ++ quoted k ++ '=' :: Decimal.ofFloat v
  | raw label s => label.toList ++ s.toList

def pairs (label : String) (m : Tags) : List Token := m.entries.map fun e => pair label e.1 e.2

def numbers (label : String) (m : OrderedMap Float) : List Token :=
  m.entries.map fun e => number label e.1 e.2

def optional (label key : String) (v : Option String) : List Token :=
  v.toList.map fun s => pair label key s

end Token

def lineChars (name : String) (tokens : List Token) : List Char :=
  name.toList ++ (tokens.flatMap fun t => ' ' :: t.text) ++ ['\n']

def line (name : String) (tokens : List Token) : String := String.ofList (lineChars name tokens)

namespace Command

def details : Command → List Token
  | series c =>
    Token.pairs "t:" c.tags ++ .number "m:" c.metric.text c.sample.value ::
      Token.optional "x:" c.metric.text c.sample.text
  | multipleInsert c =>
    Token.pairs "t:" c.tags ++ Token.numbers "m:" c.numeric ++ Token.pairs "x:" c.texts
  | property c =>
    .field "t:" c.type.text :: (Token.pairs "k:" c.key ++ Token.pairs "v:" c.tags)
  | message c =>
    Token.optional "t:" "type" c.type ++ Token.optional "t:" "source" c.source ++
      Token.optional "t:" "severity" (c.severity.map Severity.name) ++ Token.pairs "t:" c.tags ++
      if c.text.isEmpty then [] else [.field "m:" c.text]

def tokens (c : Command) : List Token :=
  .field "e:" c.entity :: ((c.time.toList.map fun t => .raw "ms:" (toString t)) ++ c.details)

def compose (c : Command) : String := line c.name c.tokens

end Command

end MetricRelay
