import MetricRelay.Command.Line
import MetricRelay.Http.Status
import MetricRelay.Text.Digits
import MetricRelay.Text.Lines
import MetricRelay.Url.Parse

namespace MetricRelay

def version : String := "0.1.0"

namespace Http

inductive Method
  | get
  | post
  deriving DecidableEq, Repr

structure Request where
  method : Method
  url : Url
  contentType : Option String
  authorization : Option String
  userAgent : String
  body : String
  deriving DecidableEq, Repr

inductive Answer
  | status (code : Status) (body : Bytes)
  | broken
  | timeout
  deriving DecidableEq, Repr

class Server (σ : Type) where
  exchange : Request → σ → Answer × σ

/-- Times are in milliseconds. -/
structure Config where
  endpoint : String
  username : Option String
  password : Option String
  timeout : Nat
  connectTimeout : Nat
  userAgent : String
  deriving DecidableEq, Repr

def Config.default : Config :=
  ⟨"http://localhost:8088", none, none, 30000, 10000, "tsd-client/" ++ version⟩

inductive Error
  | invalidConfiguration (reason : String)
  | requestTimeout (reason : String)
  | status (code : Status) (detail : String)
  | network
  deriving DecidableEq, Repr

def Error.message : Error → String
  | invalidConfiguration reason => s!"Invalid configuration: {reason}"
  | requestTimeout reason => s!"Request timeout: {reason}"
  | status code detail => s!"HTTP error: {code} - {detail}"
  | network => "Network error"

structure Stats where
  total : Nat
  successful : Nat
  failed : Nat
  posted : Nat
  deriving DecidableEq, Repr

def Stats.zero : Stats := ⟨0, 0, 0, 0⟩

def Stats.record (s : Stats) (success : Bool) : Stats :=
  { s with
    total := s.total + 1
    successful := if success then s.successful + 1 else s.successful
    failed := if success then s.failed else s.failed + 1 }

structure Client where
  config : Config
  commandUrl : Url
  versionUrl : Url
  stats : Stats
  deriving DecidableEq, Repr

namespace Client

def new (config : Config) : Except Error Client := do
  match Url.parse config.endpoint with
  | .error e => throw (.invalidConfiguration s!"Invalid endpoint URL: {e.message}")
  | .ok base =>
    let scheme := String.ofList base.scheme
    if scheme != "http" && scheme != "https" then
      throw (.invalidConfiguration s!"Unsupported URL scheme: {scheme}")
    return {
      config
      commandUrl := base.below ["api", "v1", "command"]
      versionUrl := base.below ["api", "v1", "version"]
      stats := .zero }

def authorization (c : Client) : Option String :=
  c.config.username.map fun name =>
    "Basic " ++ String.ofList (Text.base64 (Text.bytes (name ++ ":" ++ c.config.password.getD "")))

def request (c : Client) (method : Method) (url : Url) (contentType : Option String)
    (body : String) : Request :=
  { method, url, contentType, authorization := c.authorization, userAgent := c.config.userAgent,
    body }

variable {σ : Type} [Server σ]

def execute (c : Client) (what : String) (r : Request) (server : σ) :
    Except Error Unit × Client × σ :=
  let (answer, server) := Server.exchange r server
  let recorded := fun success => { c with stats := c.stats.record success }
  match answer with
  | .timeout => (.error (.requestTimeout s!"{what} timed out"), recorded false, server)
  | .broken => (.error .network, recorded false, server)
  | .status code body =>
    if code.isSuccess then (.ok (), recorded true, server)
    else
      let text := Text.decodeLossy body
      let detail := if text.isEmpty then s!"{what} failed: {code.text}" else text
      (.error (.status code detail), recorded false, server)

def post (c : Client) (body : String) (count : Nat) (server : σ) :
    Except Error Unit × Client × σ :=
  if count = 0 then (.ok (), c, server)
  else
    let r := c.request .post c.commandUrl (some "text/plain; charset=utf-8") body
    match c.execute "Command post" r server with
    | (.ok (), c, server) =>
      (.ok (), { c with stats := { c.stats with posted := c.stats.posted + count } }, server)
    | failure => failure

def sendLines (c : Client) (lines : List String) (server : σ) : Except Error Unit × Client × σ :=
  c.post (String.join (lines.map terminated)) lines.length server

def sendCommands (c : Client) (commands : List Command) (server : σ) :
    Except Error Unit × Client × σ :=
  c.post (String.join (commands.map Command.compose)) commands.length server

def health (c : Client) (server : σ) : Except Error Unit × Client × σ :=
  c.execute "Health check" (c.request .get c.versionUrl none "") server

end Client

end Http

end MetricRelay
