import MetricRelay.Http.Message
import MetricRelay.Transport

namespace MetricRelay.Http

structure Scripted where
  address : Address
  listening : Bool
  answers : List Answer
  /-- Newest first. -/
  requests : List Request

namespace Scripted

def new (address : Address) (listening : Bool) (answers : List Answer) : Scripted :=
  ⟨address, listening, answers, []⟩

def isReached (s : Scripted) (r : Request) : Bool :=
  s.listening && String.ofList r.url.scheme = "http" && s.address.admits r.host r.port

/-- What becomes of an answer on its way. After an interim one another is waited for, and so is read
in its body. -/
def delivered (code : Status) (body : Bytes) : Answer :=
  if !code.isCode then .broken
  else if code.isInterim then .ofBytes body
  else .status code (if code.hasBody then body else [])

instance : Server Scripted where
  exchange r s :=
    if !s.isReached r then (.broken, s)
    else
      let s' := { s with answers := s.answers.drop 1, requests := r :: s.requests }
      match s.answers with
      | .status code body :: _ => (delivered code body, s')
      | answer :: _ => (answer, s')
      | [] => (.status 200 [], s')

end Scripted

end MetricRelay.Http
