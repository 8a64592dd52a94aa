import MetricRelay.Relay.Way
import MetricRelay.Spool.Mount

namespace MetricRelay.Relay

variable {ν σ : Type} [Network ν] [Http.Server σ]

def mount (c : Config) (d : Disk) : Result SpoolError (Option Mounted) :=
  match c.spool with
  | .error p => .panicked p
  | .ok none => .ok none
  | .ok (some config) => .ofExcept ((Mounted.new config d).map some)

def unmount (d : Disk) (mounted : Option Mounted) (spool : Option Spool) : Disk :=
  match mounted, spool with
  | some m, some spool => { m with spool }.disk
  | _, _ => d

structure Outcome where
  result : Result Error Summary
  notices : List Notice

structure Running (ν σ : Type) where
  world : World ν σ
  mounted : Option Mounted
  reading : Reading (Tcp ν) (Way ν σ)

namespace Running

def leave (w : World ν σ) (mounted : Option Mounted) (e : Ended (Way ν σ)) :
    Outcome × World ν σ :=
  (⟨e.result, e.notices⟩, e.carrier.leave { w with disk := unmount w.disk mounted e.spool })

def start (c : Config) (moves : List Move) (w : World ν σ) :
    Except (Outcome × World ν σ) (Running ν σ) :=
  match mount c w.disk with
  | .error e => .error (⟨.error (.spool e), []⟩, w)
  | .panicked p => .error (⟨.panicked p, []⟩, w)
  | .ok mounted =>
    let spool := mounted.map (·.spool)
    match Way.enter c moves { w with disk := unmount w.disk mounted spool } with
    | (.error e, w) => .error (⟨.error e, []⟩, w)
    | (.ok way, w) =>
      match Reading.start c.batchSize way spool with
      | .error e => .error (leave w mounted e)
      | .ok reading => .ok ⟨w, mounted, reading⟩

def take (r : Running ν σ) (a : Arrival (Tcp ν)) : Running ν σ :=
  { r with reading := r.reading.take a }

def finish (stamp : Stamp) (r : Running ν σ) : Outcome × World ν σ :=
  leave r.world r.mounted (r.reading.finish stamp)

end Running

def run (c : Config) (moves : List Move) (stamp : Stamp) (input : List (Arrival (Tcp ν)))
    (w : World ν σ) : Outcome × World ν σ :=
  match Running.start c moves w with
  | .error ended => ended
  | .ok r => (input.foldl Running.take r).finish stamp

/-- What there is to read: the input file, if there is to be one, or else standard input. A folder
can be opened but not read. -/
def openInput {τ : Type} (c : Config) (d : Disk) (standard : List (Arrival τ)) :
    Except IoFault (List (Arrival τ)) :=
  match c.input with
  | none => .ok standard
  | some path =>
    match d.read path with
    | .ok data => .ok (arrivals .eof [] [.data data])
    | .error .isDirectory => .ok [.failed .isDirectory]
    | .error fault => .error fault

def start (c : Config) (moves : List Move) (stamp : Stamp) (standard : List (Arrival (Tcp ν)))
    (w : World ν σ) : Outcome × World ν σ :=
  match openInput c w.disk standard with
  | .error fault => (⟨.error (.input fault), []⟩, w)
  | .ok input => run c moves stamp input w

end MetricRelay.Relay
