import MetricRelay.Text.Digits
import MetricRelay.Text.Utf8

namespace MetricRelay.Url

inductive Part
  | fragment
  | query
  | path
  | userinfo
  deriving DecidableEq, Repr

def Part.reserved : Part → List Char
  | fragment => [' ', '"', '<', '>', '\x60']
  | query => [' ', '"', '#', '<', '>']
  | path => [' ', '"', '<', '>', '\x60', '#', '?', '\x7b', '\x7d']
  | userinfo =>
    [' ', '"', '<', '>', '\x60', '#', '?', '\x7b', '\x7d', '/', ':', ';', '=', '@', '[', '\\', ']',
      '^', '|']

def Part.encodes (p : Part) (c : Char) : Bool :=
  c.toNat ≤ 0x1f || 0x7f ≤ c.toNat || p.reserved.contains c

def upperHex (n : Nat) : Char := ((Nat.digitChar n).toUpper)

def encodeByte (b : UInt8) : List Char := ['%', upperHex (b.toNat / 16), upperHex (b.toNat % 16)]

def encodeChar (encodes : Char → Bool) (c : Char) : List Char :=
  if encodes c then (Text.bytes c.toString).flatMap encodeByte else [c]

def encode (encodes : Char → Bool) (s : List Char) : List Char := s.flatMap (encodeChar encodes)

/-- A percent sign without two hexadecimal digits after it stands for itself. -/
def decode : List Char → Bytes
  | [] => []
  | '%' :: a :: b :: s =>
    match Text.digit? a, Text.digit? b with
    | some x, some y => UInt8.ofNat (16 * x + y) :: decode s
    | _, _ => '%'.toUInt8 :: decode (a :: b :: s)
  | c :: s => Text.bytes c.toString ++ decode s

end MetricRelay.Url
