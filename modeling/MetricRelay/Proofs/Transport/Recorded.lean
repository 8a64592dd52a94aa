import MetricRelay.Transport.Tcp

namespace MetricRelay

inductive Exchange
  | connect (host : String) (port : Nat) (result : OpenResult)
  | put (text : String) (result : PutResult)
  | poll (result : PollResult)

namespace Exchange

def Succeeded : Exchange → Prop
  | connect _ _ result => result = .opened
  | put _ result => result = .done
  | poll result => result = .nothing ∨ result = .data

def texts : Exchange → List String
  | put text _ => [text]
  | _ => []

def taken : Exchange → List String
  | put text .done => [text]
  | _ => []

end Exchange

structure Recorded (ν : Type) where
  network : ν
  record : List Exchange

namespace Recorded

variable {ν : Type}

def start (network : ν) : Recorded ν := ⟨network, []⟩

def note (l : Recorded ν) (network : ν) (x : Exchange) : Recorded ν := ⟨network, l.record ++ [x]⟩

instance [Network ν] : Network (Recorded ν) where
  connect host port nodelay l :=
    let (result, network) := Network.connect host port nodelay l.network
    (result, l.note network (.connect host port result))
  put text l :=
    let (result, network) := Network.put text l.network
    (result, l.note network (.put text result))
  poll l :=
    let (result, network) := Network.poll l.network
    (result, l.note network (.poll result))
  close l := { l with network := Network.close l.network }

def Clean (l : Recorded ν) : Prop := ∀ x ∈ l.record, x.Succeeded

def texts (l : Recorded ν) : List String := l.record.flatMap Exchange.texts

def taken (l : Recorded ν) : List String := l.record.flatMap Exchange.taken

def text (l : Recorded ν) : String := String.join l.texts

instance : DecidablePred Exchange.Succeeded
  | .connect _ _ result => inferInstanceAs (Decidable (result = .opened))
  | .put _ result => inferInstanceAs (Decidable (result = .done))
  | .poll result => inferInstanceAs (Decidable (result = .nothing ∨ result = .data))

instance : DecidablePred (Clean (ν := ν)) :=
  fun l => inferInstanceAs (Decidable (∀ x ∈ l.record, x.Succeeded))

theorem clean_note {l : Recorded ν} {network : ν} {x : Exchange} :
    (l.note network x).Clean ↔ l.Clean ∧ x.Succeeded := by
  rw [Clean, note, List.forall_mem_append, List.forall_mem_singleton, Clean]

theorem texts_note (l : Recorded ν) (network : ν) (x : Exchange) :
    (l.note network x).texts = l.texts ++ x.texts := by
  simp [texts, note]

theorem taken_note (l : Recorded ν) (network : ν) (x : Exchange) :
    (l.note network x).taken = l.taken ++ x.taken := by
  simp [taken, note]

end Recorded

def Request.texts : Request → List String
  | write line => [line]
  | _ => []

namespace Tcp

variable {ν : Type}

structure Served (r : Request) (t : Tcp (Recorded ν)) (reply : Reply) (t' : Tcp (Recorded ν)) :
    Prop where
  clean : t.network.Clean
  texts : t'.network.texts = t.network.texts ++ if reply.fault.isNone then r.texts else []
  met : r ≠ .shutdown → r = .connect ∨ t.connected = true →
    reply = ⟨none, true⟩ ∧ t'.connected = true

theorem served_of_not_connected {r : Request} {t : Tcp (Recorded ν)} {fault : TransportFault}
    (other : r ≠ .connect) (connected : ¬t.connected = true) (clean : t.network.Clean) :
    Served r t ⟨some fault, false⟩ t :=
  ⟨clean, (List.append_nil _).symm, fun _ open_ => (open_.elim other connected).elim⟩

variable [Network ν]

theorem record_shutdown (t : Tcp (Recorded ν)) :
    t.shutdown.network.record = t.network.record := by
  unfold shutdown
  split <;> rfl

theorem served_connect (t : Tcp (Recorded ν)) :
    t.connect.2.network.Clean → Served .connect t t.connect.1 t.connect.2 := by
  have same := t.record_shutdown
  unfold connect
  dsimp only [Network.connect]
  generalize t.shutdown = t₁ at same
  rcases Network.connect t₁.config.host t₁.config.port t₁.config.nodelay t₁.network.network with
    ⟨result, network⟩
  cases result with
  | opened =>
    intro clean
    obtain ⟨clean, -⟩ := Recorded.clean_note.1 clean
    refine ⟨?_, ?_, fun _ _ => ⟨rfl, rfl⟩⟩
    · rwa [Recorded.Clean, ← same]
    · refine (Recorded.texts_note ..).trans ?_
      rw [Recorded.texts, same]
      rfl
  | unset | timedOut | failed =>
    intro clean
    have opened := (Recorded.clean_note.1 clean).2
    cases opened

theorem served_check (t : Tcp (Recorded ν)) :
    t.check.2.network.Clean → Served .check t t.check.1 t.check.2 := by
  unfold check
  split
  · rename_i lost
    exact served_of_not_connected (by simp) (by simpa using lost)
  · rename_i connected
    have connected : t.connected = true := by simpa using connected
    dsimp only [Network.poll]
    rcases Network.poll t.network.network with ⟨result, network⟩
    cases result with
    | nothing | data =>
      intro clean
      obtain ⟨clean, -⟩ := Recorded.clean_note.1 clean
      exact ⟨clean, Recorded.texts_note .., fun _ _ => ⟨congrArg _ connected, connected⟩⟩
    | ended | failed =>
      intro clean
      obtain ended | ended := (Recorded.clean_note.1 clean).2 <;> cases ended

theorem served_write (line : String) (t : Tcp (Recorded ν)) :
    (t.write line).2.network.Clean → Served (.write line) t (t.write line).1 (t.write line).2 := by
  unfold write
  split
  · rename_i lost
    exact served_of_not_connected (by simp) (by simpa using lost)
  · rename_i connected
    have connected : t.connected = true := by simpa using connected
    dsimp only [Network.put]
    rcases Network.put line t.network.network with ⟨result, network⟩
    cases result with
    | done =>
      intro clean
      obtain ⟨clean, -⟩ := Recorded.clean_note.1 clean
      exact ⟨clean, Recorded.texts_note .., fun _ _ => ⟨congrArg _ connected, connected⟩⟩
    | timedOut | failed =>
      intro clean
      have done := (Recorded.clean_note.1 clean).2
      cases done

theorem served {r : Request} {t t' : Tcp (Recorded ν)} {reply : Reply}
    (h : Transport.serve r t = (reply, t')) (clean : t'.network.Clean) : Served r t reply t' := by
  obtain rfl : (Transport.serve r t).1 = reply := congrArg Prod.fst h
  obtain rfl : (Transport.serve r t).2 = t' := congrArg Prod.snd h
  cases r with
  | connect => exact t.served_connect clean
  | check => exact t.served_check clean
  | write line => exact t.served_write line clean
  | shutdown =>
    have same := t.record_shutdown
    have clean : t.shutdown.network.Clean := clean
    rw [Recorded.Clean, same] at clean
    refine ⟨clean, ?_, fun other => absurd rfl other⟩
    change t.shutdown.network.texts = _
    rw [Recorded.texts, same]
    exact (List.append_nil _).symm

section

variable (t : Tcp (Recorded ν))

theorem taken_shutdown : t.shutdown.network.taken = t.network.taken := by
  rw [Recorded.taken, t.record_shutdown]
  rfl

theorem taken_connect : t.connect.2.network.taken = t.network.taken := by
  rw [← t.taken_shutdown]
  unfold connect
  dsimp only [Network.connect]
  generalize t.shutdown = t₁
  rcases Network.connect t₁.config.host t₁.config.port t₁.config.nodelay t₁.network.network with
    ⟨result, network⟩
  cases result <;> exact (Recorded.taken_note ..).trans (List.append_nil _)

theorem taken_check : t.check.2.network.taken = t.network.taken := by
  unfold check
  split
  · rfl
  · dsimp only [Network.poll]
    rcases Network.poll t.network.network with ⟨result, network⟩
    cases result <;> exact (Recorded.taken_note ..).trans (List.append_nil _)

variable {t}

theorem taken_write {line : String} {reply : Reply} {t' : Tcp (Recorded ν)}
    (h : t.write line = (reply, t')) :
    t'.network.taken = t.network.taken ++ if reply.fault.isNone then [line] else [] := by
  unfold write at h
  split at h
  · cases h
    exact (List.append_nil _).symm
  · dsimp only [Network.put] at h
    rcases hp : Network.put line t.network.network with ⟨result, network⟩
    rw [hp] at h
    cases result <;> (cases h; exact Recorded.taken_note ..)

theorem taken_served {r : Request} {reply : Reply} {t' : Tcp (Recorded ν)}
    (h : Transport.serve r t = (reply, t')) :
    t'.network.taken = t.network.taken ++ if reply.fault.isNone then r.texts else [] := by
  have other (none_ : r.texts = []) (same : (Transport.serve r t).2.network.taken = t.network.taken) :
      t'.network.taken = t.network.taken ++ if reply.fault.isNone then r.texts else [] := by
    rw [none_, ite_self, List.append_nil, ← same, h]
  cases r with
  | connect => exact other rfl t.taken_connect
  | check => exact other rfl t.taken_check
  | write line => exact taken_write h
  | shutdown => exact other rfl t.taken_shutdown

end

end Tcp

end MetricRelay
