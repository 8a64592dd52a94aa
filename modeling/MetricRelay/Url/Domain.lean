import MetricRelay.Text.Utf8
import MetricRelay.Url.Domain.Label

namespace MetricRelay.Url

open Text (splitOn)

def labels? (name : List Char) : Option (List Label) := do
  let text := (← name.mapM domainChar?).flatten
  (splitOn '.' (Text.normalize text)).mapM Label.ofText?

def isBidirectional (name : List Label) : Bool :=
  name.any fun label => label.text.any fun c =>
    0x590 ≤ c.toNat && [.rightToLeft, .arabicLetter, .arabicNumber].contains (Text.Direction.ofChar c)

def asciiDomain? (b : Bytes) : Option (List Char) := do
  let name ← labels? (← Text.decode? b).toList
  if isBidirectional name && !name.all (Label.directionFits ·.text) then none
  else some (['.'].intercalate (name.map Label.ascii))

end MetricRelay.Url
