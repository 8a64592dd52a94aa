import MetricRelay.Url.Address
import MetricRelay.Url.Domain
import MetricRelay.Url.Percent

/-!
Absolute URLs, read the way web browsers read them: what can be put right is put right.
-/
namespace MetricRelay

inductive UrlError
  | relativeWithoutBase
  | emptyHost
  | invalidPort
  | invalidIpv4
  | invalidIpv6
  | invalidDomainName
  | invalidDomainCharacter
  deriving DecidableEq, Repr

def UrlError.message : UrlError → String
  | relativeWithoutBase => "relative URL without a base"
  | emptyHost => "empty host"
  | invalidPort => "invalid port number"
  | invalidIpv4 => "invalid IPv4 address"
  | invalidIpv6 => "invalid IPv6 address"
  | invalidDomainName => "invalid international domain name"
  | invalidDomainCharacter => "invalid domain character"

namespace Url

inductive Host
  | domain (name : List Char)
  | ipv4 (address : Nat)
  | ipv6 (groups : List Nat)
  deriving DecidableEq, Repr

def Host.text : Host → List Char
  | domain name => name
  | ipv4 address => showIpv4 address
  | ipv6 groups => '[' :: showIpv6 groups ++ [']']

inductive Path
  | segments (l : List (List Char))
  | text (s : List Char)
  deriving DecidableEq, Repr

def Path.render : Path → List Char
  | segments l => l.flatMap ('/' :: ·)
  | text s => s

end Url

structure Url where
  scheme : List Char
  username : List Char
  password : List Char
  host : Option Url.Host
  port : Option Nat
  path : Url.Path
  query : Option (List Char)
  fragment : Option (List Char)
  deriving DecidableEq, Repr

namespace Url

def defaultPort (scheme : List Char) : Option Nat :=
  match String.ofList scheme with
  | "http" => some 80
  | "https" => some 443
  | "ws" => some 80
  | "wss" => some 443
  | "ftp" => some 21
  | _ => none

def isFile (scheme : List Char) : Bool := String.ofList scheme == "file"

/-- A backslash means a slash in a URL with such a scheme, and a host is needed unless the URL
names a file. -/
def isSpecial (scheme : List Char) : Bool := (defaultPort scheme).isSome || isFile scheme

def isNoise (c : Char) : Bool := c == '\t' || c == '\n' || c == '\r'

def clean (s : List Char) : List Char :=
  let blank := fun c : Char => c.toNat ≤ 0x20
  (((s.dropWhile blank).reverse.dropWhile blank).reverse).filter (!isNoise ·)

def splitScheme? (s : List Char) : Option (List Char × List Char) :=
  match s with
  | [] => none
  | c :: _ =>
    let allowed := fun c : Char => c.isAlphanum || c == '+' || c == '-' || c == '.'
    match s.span allowed with
    | (scheme, ':' :: rest) => if c.isAlpha then some (scheme.map Char.toLower, rest) else none
    | _ => none

def parseHost (s : List Char) : Except UrlError Host :=
  match s with
  | '[' :: inner =>
    match inner.reverse with
    | ']' :: address =>
      match parseIpv6 address.reverse with
      | some groups => .ok (.ipv6 groups)
      | none => .error .invalidIpv6
    | _ => .error .invalidIpv6
  | _ =>
    match asciiDomain? (decode s) with
    | none => .error .invalidDomainName
    | some domain =>
      if domain.isEmpty then .error .emptyHost
      else if endsInNumber domain then
        match parseIpv4 domain with
        | some address => .ok (.ipv4 address)
        | none => .error .invalidIpv4
      else .ok (.domain domain)

def parseOpaqueHost (s : List Char) : Except UrlError Host :=
  match s with
  | '[' :: _ => parseHost s
  | _ =>
    if s.any isForbiddenInOpaqueHost then .error .invalidDomainCharacter
    else .ok (.domain (encode (fun c => c.toNat ≤ 0x1f || 0x7f ≤ c.toNat) s))

def cutPort : Bool → List Char → List Char × Option (List Char)
  | _, [] => ([], none)
  | false, ':' :: s => ([], some s)
  | inside, c :: s =>
    let inside := if c == '[' then true else if c == ']' then false else inside
    let (host, port) := cutPort inside s
    (c :: host, port)

def parsePort (s : List Char) : Except UrlError (Option Nat) :=
  if s.isEmpty then .ok none
  else
    match Text.numeral? 10 s with
    | some n => if n < 65536 then .ok (some n) else .error .invalidPort
    | none => .error .invalidPort

def cutUserinfo (s : List Char) : Option (List Char) × List Char :=
  match s.reverse.span (· != '@') with
  | (host, _ :: userinfo) => (some userinfo.reverse, host.reverse)
  | (_, []) => (none, s)

def cutPassword (userinfo : List Char) : List Char × List Char :=
  match userinfo.span (· != ':') with
  | (username, []) => (username, [])
  | (username, _ :: password) => (username, password)

structure Authority where
  username : List Char
  password : List Char
  host : Option Host
  port : Option Nat

def endsAuthority (special : Bool) (c : Char) : Bool :=
  c == '/' || c == '?' || c == '#' || (special && c == '\\')

/-- The authority at the start of `s`, and the rest of it. Where no host is needed a backslash ends
a port all the same, and begins a path. -/
def parseAuthority (scheme s : List Char) : Except UrlError (Authority × List Char) := do
  let special := isSpecial scheme
  let (text, rest) := s.span (!endsAuthority special ·)
  let (userinfo, text) := cutUserinfo text
  let (username, password) := cutPassword (userinfo.getD [])
  let (host, port) := cutPort false text
  if host.isEmpty then
    let named := !username.isEmpty || !password.isEmpty
    if special || named || port.isSome || (userinfo.isSome && userinfo.all (·.isEmpty)
        && !rest.isEmpty) then
      throw .emptyHost
  let host ←
    if host.isEmpty then pure none
    else some <$> if special then parseHost host else parseOpaqueHost host
  let (port, path) := (port.getD []).span (· != '\\')
  let port ← parsePort port
  return ({
    username := encode Part.userinfo.encodes username
    password := encode Part.userinfo.encodes password
    host
    port := port.filter fun p => some p != defaultPort scheme
  }, if path.isEmpty then rest else '/' :: path ++ rest)

def isDriveLetter : List Char → Bool
  | [a, b] => a.isAlpha && (b == ':' || b == '|')
  | _ => false

inductive Dots
  | one
  | two
  deriving DecidableEq, Repr

def dots? (segment : List Char) : Option Dots :=
  match (String.ofList segment).toLower with
  | "." => some .one
  | "%2e" => some .one
  | ".." => some .two
  | ".%2e" => some .two
  | "%2e." => some .two
  | "%2e%2e" => some .two
  | _ => none

def resolve (above : List (List Char)) : List (List Char) → List (List Char)
  | [] => above.reverse
  | s :: ss =>
    let last := if ss.isEmpty then [[]] else []
    match dots? s with
    | none => resolve (encode Part.path.encodes s :: above) ss
    | some .one => resolve (last ++ above) ss
    | some .two =>
      resolve (last ++ if above.head?.any isDriveLetter then above else above.drop 1) ss

def parseSegments (special : Bool) (s : List Char) : List (List Char) :=
  let s := if special then s.map fun c => if c == '\\' then '/' else c else s
  let s :=
    match s with
    | '/' :: s => s
    | s => s
  resolve [] (Text.splitOn '/' s)

def cutTail (s : List Char) : List Char × Option (List Char) × Option (List Char) :=
  let (s, fragment) :=
    match s.span (· != '#') with
    | (s, []) => (s, none)
    | (s, _ :: fragment) => (s, some fragment)
  match s.span (· != '?') with
  | (path, []) => (path, none, fragment)
  | (path, _ :: query) => (path, some query, fragment)

def queryEncodes (special : Bool) (c : Char) : Bool :=
  Part.query.encodes c || (special && c == '\'')

def assemble (scheme : List Char) (a : Authority) (plainPath : Bool) (s : List Char) : Url :=
  let (path, query, fragment) := cutTail s
  let special := isSpecial scheme
  let path :=
    if plainPath then .text (encode (fun c => c.toNat ≤ 0x1f || 0x7f ≤ c.toNat) path)
    else if !special && path.isEmpty then .segments []
    else .segments (parseSegments special path)
  { scheme
    username := a.username
    password := a.password
    host := a.host
    port := a.port
    path
    query := query.map (encode (queryEncodes special))
    fragment := fragment.map (encode Part.fragment.encodes) }

def isSlash (c : Char) : Bool := c == '/' || c == '\\'

def parseFile (scheme s : List Char) : Except UrlError Url := do
  let bare : Authority := ⟨[], [], none, none⟩
  match s with
  | a :: b :: rest =>
    if isSlash a && isSlash b then
      let (host, rest) := rest.span (!endsAuthority true ·)
      if host.isEmpty then return assemble scheme bare false rest
      else if isDriveLetter host then return assemble scheme bare false ('/' :: host ++ rest)
      else
        let host ← parseHost host
        let host := if host = .domain "localhost".toList then none else some host
        return assemble scheme { bare with host } false rest
    else return assemble scheme bare false s
  | _ => return assemble scheme bare false s

def parse (text : String) : Except UrlError Url :=
  match splitScheme? (clean text.toList) with
  | none => .error .relativeWithoutBase
  | some (scheme, s) =>
    if isFile scheme then parseFile scheme s
    else if isSpecial scheme then do
      let (authority, rest) ← parseAuthority scheme (s.dropWhile isSlash)
      return assemble scheme authority false rest
    else
      match s with
      | '/' :: '/' :: s => do
        let (authority, rest) ← parseAuthority scheme s
        return assemble scheme authority false rest
      | '/' :: _ => .ok (assemble scheme ⟨[], [], none, none⟩ false s)
      | _ => .ok (assemble scheme ⟨[], [], none, none⟩ true s)

def credentials (u : Url) : List Char :=
  let password := if u.password.isEmpty then [] else ':' :: u.password
  if u.username.isEmpty && u.password.isEmpty then [] else u.username ++ password ++ ['@']

def target (u : Url) : List Char :=
  u.path.render ++ u.query.elim [] ('?' :: ·)

def render (u : Url) : String :=
  let authority :=
    match u.host with
    | some host =>
      ['/', '/'] ++ u.credentials ++ host.text ++ u.port.elim [] fun p => ':' :: Nat.toDigits 10 p
    | none => if isFile u.scheme then ['/', '/'] else []
  String.ofList (u.scheme ++ [':'] ++ authority ++ u.target ++ u.fragment.elim [] ('#' :: ·))

def below (u : Url) (segments : List String) : Url :=
  match u.path with
  | .segments l =>
    { u with
      path := .segments ((l.reverse.dropWhile (·.isEmpty)).reverse ++ segments.map (·.toList)) }
  | .text _ => u

end Url

end MetricRelay
