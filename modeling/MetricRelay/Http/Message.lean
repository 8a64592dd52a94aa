import MetricRelay.Http.Client
import MetricRelay.LittleEndian
import MetricRelay.Text.Digits
import MetricRelay.Text.Lines

namespace MetricRelay.Http

def Method.name : Method → String
  | get => "GET"
  | post => "POST"

def Request.host (r : Request) : String := String.ofList (r.url.host.elim [] Url.Host.text)

def Request.port (r : Request) : Nat :=
  r.url.port.getD ((Url.defaultPort r.url.scheme).getD 80)

def Request.fields (r : Request) : List (String × String) :=
  [("host", r.url.port.elim r.host fun p => s!"{r.host}:{p}"), ("user-agent", r.userAgent),
      ("accept", "*/*"), ("connection", "close"), ("content-length", toString r.body.utf8ByteSize)]
    ++ r.contentType.toList.map (fun v => ("content-type", v))
    ++ r.authorization.toList.map fun v => ("authorization", v)

def Request.text (r : Request) : String :=
  let first := s!"{r.method.name} {String.ofList r.url.target} HTTP/1.1"
  let rest := r.fields.map fun (name, value) => s!"{name}: {value}"
  "\r\n".intercalate (first :: rest) ++ "\r\n\r\n" ++ r.body

abbrev Field := String × String

/-- The lines up to an empty one, without their ends, and what follows that. `begun` is what has been
read of a line, turned around. -/
def cutHead (begun : Bytes) : Bytes → Option (List Bytes × Bytes)
  | [] => none
  | b :: data =>
    if b = 0x0a then
      let line := if begun.head? = some 0x0d then begun.tail.reverse else begun.reverse
      if line.isEmpty then some ([], data)
      else (cutHead [] data).map fun (lines, data) => (line :: lines, data)
    else cutHead (b :: begun) data

def code? (line : Bytes) : Option Status :=
  let text := (Text.decodeLossy line).toList
  let version := String.ofList (text.take 9)
  let digits := (text.drop 9).takeWhile Char.isDigit
  if (version = "HTTP/1.0 " || version = "HTTP/1.1 ") && digits.length = 3
      && (text.drop 12).head?.all (· = ' ') then
    Text.numeral? 10 digits
  else none

def isFieldNameChar (c : Char) : Bool := c.isAlphanum || "!#$%&'*+-.^_`|~".toList.contains c

def isFieldValueChar (c : Char) : Bool := c = '\t' || 0x20 ≤ c.toNat && c ≠ '\x7f'

def Field.ofBytes? (line : Bytes) : Option Field :=
  match (Text.decodeLossy line).toList.span (· != ':') with
  | (name, _ :: value) =>
    if !name.isEmpty && name.all isFieldNameChar && value.all isFieldValueChar then
      some ((String.ofList name).map Char.toLower, Text.trim (String.ofList value))
    else none
  | _ => none

def joinChunks : Nat → Bytes → Option Bytes
  | 0, _ => none
  | fuel + 1, data => do
    let (line, rest) := data.span (· != 0x0a)
    let digits := (Text.decodeLossy line).toList.takeWhile fun c => (Text.digitIn? 16 c).isSome
    let size ← Text.numeral? 16 digits
    if digits.isEmpty then none
    else if size = 0 then some []
    else
      let (chunk, rest) ← LittleEndian.split? size (rest.drop 1)
      return chunk ++ (← joinChunks fuel (rest.drop 2))

inductive Framing
  | chunks
  | length (size : Nat)
  | rest
  deriving DecidableEq, Repr

def Framing.ofFields? (fields : List Field) : Option Framing :=
  match fields.lookup "transfer-encoding" with
  | some coding => some (if coding.map Char.toLower = "chunked" then .chunks else .rest)
  | none =>
    match fields.lookup "content-length" with
    | none => some .rest
    | some size =>
      if size.isEmpty then none else (Text.numeral? 10 size.toList).map .length

def Framing.body? (data : Bytes) : Framing → Option Bytes
  | chunks => joinChunks (data.length + 1) data
  | length size => (LittleEndian.split? size data).map Prod.fst
  | rest => some data

/-- The first answer in the data that is not an interim one, of which there are fewer than `fuel`. Of
a body that breaks off nothing is kept. -/
def Answer.ofBytes? : Nat → Bytes → Option Answer
  | 0, _ => none
  | fuel + 1, data => do
    let (lines, data) ← cutHead [] (data.dropWhile fun b => b = 0x0d || b = 0x0a)
    let code ← code? (lines.headD [])
    let fields ← (lines.drop 1).mapM Field.ofBytes?
    if !code.isCode then none
    else if code.isInterim then Answer.ofBytes? fuel data
    else if code.hasBody then
      return .status code (((← Framing.ofFields? fields).body? data).getD [])
    else return .status code []

def Answer.ofBytes (data : Bytes) : Answer := (ofBytes? (data.length + 1) data).getD .broken

end MetricRelay.Http
