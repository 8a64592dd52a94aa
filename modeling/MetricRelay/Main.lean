import MetricRelay.Live.Files
import MetricRelay.Live.Input
import MetricRelay.Live.Sockets
import MetricRelay.Program
import MetricRelay.Text.Digits
import Std.Time.DateTime

namespace MetricRelay.Live

open Relay

def environment : IO Environment := do
  let names := "RUST_LOG" :: Setting.all.filterMap Setting.envName?
  let found ← names.mapM fun name => return (name, ← IO.getEnv name)
  return found.filterMap fun (name, value) => value.map fun v => (name, Text.bytes v)

def newStamp : IO Stamp := do
  let now ← Std.Time.Timestamp.now
  return {
    time := now.toMillisecondsSinceUnixEpoch.toInt.toNat
    sequence := 0
    unique := Text.uuid (← IO.getRandomBytes 16).toList }

def Sockets.act (n : Sockets) (f : OnPaper → OnPaper) (r : OnPaper) : IO OnPaper :=
  n.run (fun outside =>
    let r := f (r.within outside)
    (r, r.outside)) []

partial def feed (n : Sockets) (waiting : Option Waiting) (i : Intake) (r : OnPaper) :
    IO OnPaper := do
  if r.reading.progress.ended then return r
  match i.arrivals, waiting with
  | a :: rest, _ => feed n waiting { i with arrivals := rest } (← n.act (·.take a) r)
  | [], none => return r
  | [], some w =>
    if i.closed then return r
    match ← w.news with
    | .tick =>
      let elapsed := (← IO.monoMsNow) - (← n.lastDeed.get)
      feed n waiting i (← n.act (·.wake elapsed) r)
    | news => feed n waiting (i.add news) r

def start (c : Config) (disk : Disk) : IO Relay.Outcome := do
  match openInput c disk [] with
  | .error fault => return ⟨.error (.input fault), []⟩
  | .ok arrivals =>
    let waiting ← if c.input.isSome then pure none else some <$> Waiting.new c.checkPeriod
    let n ← Sockets.new c
    let begin := fun outside =>
      let started := Running.start c [] ⟨disk, outside, outside⟩
      (started,
        match started with
        | .error (_, w) => w.outside c
        | .ok r => r.outside)
    match ← n.run begin [] with
    | .error (outcome, w) =>
      save disk w.disk
      return outcome
    | .ok r =>
      save disk r.disk
      let r ← feed n waiting ⟨[], arrivals, c.input.isSome⟩ r
      let stamp ← newStamp
      let leave := fun outside =>
        let (outcome, w) := (r.within outside).finish stamp
        ((outcome, w.disk), w.outside c)
      let (outcome, after) ← n.run leave []
      try
        save r.disk after
        return outcome
      catch _ => return unsaved outcome

def timeText : IO String := do
  return (Std.Time.DateTime.ofTimestamp (← Std.Time.Timestamp.now) .UTC).toISO8601String

def run (args : List String) : IO Program.Finish := do
  let args := (Program.name :: args).map Text.bytes
  let env ← environment
  let disk ← diskFor args env
  match Config.fromArguments args env disk with
  | .error e => return .refused e
  | .ok c =>
    let logger := Program.logger env c
    (Program.greeting (← timeText) logger).forM IO.eprintln
    return .ran logger (← start c disk)

end MetricRelay.Live

def main (args : List String) : IO UInt32 := do
  let finish ← MetricRelay.Live.run args
  IO.print finish.output
  (finish.messages (← MetricRelay.Live.timeText)).forM IO.eprintln
  return UInt32.ofNat finish.exitCode
