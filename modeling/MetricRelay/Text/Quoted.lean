/-!
Quoted fields. A field that holds a space, comma, equals sign, double quote, line break or tab is
written between double quotes; a quote inside is written twice, a line feed and a carriage return as
a backslash and a letter.
-/
namespace MetricRelay.Text.Quoted

def special : List Char := [' ', ',', '=', '"', '\n', '\r', '\t']

def needsQuotes (s : List Char) : Bool := s.any fun c => special.contains c

def escape : Char → List Char
  | '"' => ['"', '"']
  | '\n' => ['\\', 'n']
  | '\r' => ['\\', 'r']
  | c => [c]

def encode (s : List Char) : List Char :=
  if needsQuotes s then '"' :: (s.flatMap escape ++ ['"']) else s

end MetricRelay.Text.Quoted
