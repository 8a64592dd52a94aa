import MetricRelay.Config.Basic
import MetricRelay.Relay.Carrier

namespace MetricRelay.Relay

structure Posting (σ : Type) where
  client : Http.Client
  server : σ
  size : Nat
  tolerant : Bool
  delivered : List String
  undelivered : List String
  notices : List Notice

/-- Cuts a list into parts of `size`, but for the last one. No size leaves it in one part. -/
def parts {α : Type} (size : Nat) (l : List α) : List (List α) :=
  if _h : l = [] then []
  else if _h : size = 0 then [l]
  else l.take size :: parts size (l.drop size)
termination_by l.length
decreasing_by
  have := List.length_pos_iff.mpr ‹l ≠ []›
  simp only [List.length_drop]
  omega

namespace Posting

variable {σ : Type} [Http.Server σ]

def new (c : Config) (server : σ) : Except Http.Error (Posting σ) :=
  (Http.Client.new c.http).map fun client => ⟨client, server, c.batchSize, !c.failFast, [], [], []⟩

def post (p : Posting σ) (lines : List String) : Bool × Posting σ :=
  let notices := if lines.isEmpty then p.notices else p.notices ++ [.posting, .connecting, .dialling]
  match p.client.sendLines lines p.server with
  | (.ok (), client, server) =>
    (true, { p with client, server, notices, delivered := p.delivered ++ lines.map terminated })
  | (.error e, client, server) =>
    let refused := if e matches .status .. then [.postRefused] else []
    (false,
      { p with
        client
        server
        notices := notices ++ refused ++ [.batchFailed]
        undelivered := p.undelivered ++ lines.map terminated })

instance {τ : Type} : Carrier τ (Posting σ) where
  change _ p := p
  obstacle p := if p.size = 0 then some .zeroChunkSize else none
  resume lines p := (parts p.size lines).foldl (fun p part => (p.post part).2) p
  deliver lines p :=
    let (taken, p) := p.post lines
    if taken || p.tolerant then (true, p)
    else (false, { p with notices := p.notices ++ [.stopped] })
  finish p := (⟨p.delivered.length, p.undelivered⟩, p)
  notices p := p.notices

end Posting

end MetricRelay.Relay
