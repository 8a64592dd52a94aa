import MetricRelay.Config.Arguments
import MetricRelay.Log.Message
import MetricRelay.Relay.Run

namespace MetricRelay.Program

def name : String := "tsd-send"

def logTarget : String := "tsd_client::app"

def faultText : IoFault → String
  | .notFound => "No such file or directory (os error 2)"
  | .alreadyExists => "File exists (os error 17)"
  | .notDirectory => "Not a directory (os error 20)"
  | .isDirectory => "Is a directory (os error 21)"
  | .brokenPipe => "Broken pipe (os error 32)"
  | .connectionReset => "Connection reset by peer (os error 104)"
  | .connectionRefused => "Connection refused (os error 111)"
  | .invalidData => "stream did not contain valid UTF-8"
  | .invalidPath => "file name contained an unexpected NUL byte"
  | .nameTooLong => "File name too long (os error 36)"

def usageText : UsageError → String
  | .valueValidation => "invalid value for an option"
  | .invalidValue => "invalid or missing value for an option"
  | .unknownArgument => "unexpected argument"
  | .argumentConflict => "an option is given more than once"
  | .tooManyValues => "unexpected value for an option"
  | .invalidUtf8 => "invalid UTF-8 in an argument"
  | .help => ""
  | .version => ""

def versionText : String := s!"tsd-client {version}\n"

def helpText : String :=
  let option := fun (s : Setting) =>
    if s.kind = .switch then s!"      --{s.option}\n" else s!"      --{s.option} <VALUE>\n"
  s!"Usage: {name} [OPTIONS]\n\nOptions:\n" ++ String.join (Setting.all.map option)
    ++ "  -h, --help\n  -V, --version\n"

def relayErrorText : Relay.Error → String
  | .sender e => e.message faultText
  | .http e => e.message
  | .spool e => e.message
  | .input fault => faultText fault

inductive Finish
  | refused (cause : ConfigError)
  | ran (logger : Log.Logger) (outcome : Relay.Outcome)

def closing : Result Relay.Error Relay.Summary → Option Log.Message
  | .ok s => some ⟨.info, logTarget, s.text⟩
  | .error e => some ⟨.error, logTarget, s!"{name} failed: {relayErrorText e}"⟩
  | .panicked _ => none

def opening : Log.Message := ⟨.info, logTarget, s!"Starting {name} v{version}"⟩

def lament (p : Panic) : String := s!"{name} panicked: {p.message}"

def noticed (n : Relay.Notice) : Log.Message := ⟨n.level, n.target, n.text⟩

def journal (o : Relay.Outcome) : List Log.Message :=
  opening :: o.notices.map noticed ++ (closing o.result).toList

namespace Finish

def exitCode : Finish → Nat
  | refused (.usage .help) => 0
  | refused (.usage .version) => 0
  | refused _ => 2
  | ran _ o =>
    match o.result with
    | .ok s => if s.lost = 0 then 0 else 1
    | .error _ => 1
    | .panicked _ => 101

def complaint? : Finish → Option String
  | refused (.usage _) => none
  | refused e => some (e.message faultText)
  | ran _ _ => none

def isMute : Finish → Bool
  | refused _ => false
  | ran logger _ => logger.filter.isNone

def report? : Finish → Option String
  | ran logger ⟨.ok s, _⟩ => if logger.enables logTarget .info then some s.text else none
  | _ => none

def isSilent : Finish → Bool
  | refused (.usage .help) => true
  | refused (.usage .version) => true
  | refused _ => false
  | ran _ ⟨.panicked _, _⟩ => false
  | ran logger o =>
    logger.filter.isSome && !(journal o).any fun m => logger.enables m.target m.level

def output : Finish → String
  | refused (.usage .help) => helpText
  | refused (.usage .version) => versionText
  | _ => ""

def messages (time : String) : Finish → List String
  | refused (.usage .help) => []
  | refused (.usage .version) => []
  | refused (.usage e) => [s!"error: {usageText e}"]
  | refused e => [s!"Configuration error: {e.message faultText}"]
  | ran logger o => (journal o).tail.filterMap (logger.line? time) ++ o.result.panic?.toList.map lament

end Finish

def logger (env : Environment) (c : Config) : Log.Logger :=
  ⟨Log.effective (env.lookup "RUST_LOG") c.logLevel, c.logFormat⟩

def greeting (time : String) (l : Log.Logger) : List String :=
  if l.filter.isNone then ["Warning: Logging initialization failed: invalid filter"]
  else (l.line? time opening).toList

variable {ν σ : Type} [Network ν] [Http.Server σ]

def run (args : List Bytes) (env : Environment) (moves : List Move) (stamp : Stamp)
    (standard : List (Relay.Arrival (Tcp ν))) (w : Relay.World ν σ) :
    Finish × Relay.World ν σ :=
  match Config.fromArguments args env w.disk with
  | .error e => (.refused e, w)
  | .ok c =>
    let (outcome, w) := Relay.start c moves stamp standard w
    (.ran (logger env c) outcome, w)

end MetricRelay.Program
