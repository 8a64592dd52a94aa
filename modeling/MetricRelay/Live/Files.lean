import MetricRelay.Config.Arguments
import MetricRelay.Relay.Run

namespace MetricRelay.Live

def placeName (place : Place) : String := "/" ++ "/".intercalate place

def home : IO Disk := do
  let names := ((← IO.currentDir).toString.splitOn "/").filter (!·.isEmpty)
  return .build names [] []

def look (place : Place) (whole : Bool) : IO (Option Node) := do
  let path := (← IO.currentDir) / placeName place
  try
    match (← path.metadata).type with
    | .dir => return some .folder
    | _ =>
      if whole then return some (.file (← IO.FS.readBinFile path).toList)
      else return some (.file [])
  catch _ => return none

def survey (d : Disk) (p : Path) : IO Disk := do
  let names := Path.names p
  let mut d := d
  let mut place := d.start p
  for (name, k) in names.zipIdx do
    match d.step place name with
    | .error _ => return d
    | .ok next =>
      place := next
      match ← look place (k + 1 == names.length) with
      | some e => d := d.set place e
      | none => return d
  return d

def surveyFolder (d : Disk) (p : Path) : IO Disk := do
  let mut d ← survey d p
  match d.locate p with
  | .error _ => return d
  | .ok place =>
    if d.node? place != some .folder then return d
    for entry in ← ((← IO.currentDir) / placeName place).readDir do
      let inside := place ++ [entry.fileName]
      match ← look inside true with
      | some e => d := d.set inside e
      | none => pure ()
    return d

def surveyFor (d : Disk) (c : Config) : IO Disk := do
  let mut d := d
  for p in c.configFile.toList ++ c.input.toList ++ c.spoolParent?.toList do
    d ← survey d p
  for p in c.spoolPath.toList do
    d ← surveyFolder d p
  return d

def diskFor (args : List Bytes) (env : Environment) : IO Disk := do
  let d ← home
  match Config.readArguments args env with
  | .error _ => return d
  | .ok c =>
    let d ← surveyFor d c
    let text := c.configFile.bind fun p => (d.read p).toOption.bind Text.decode?
    match text.map Config.ofDocument with
    | some (.ok c) => surveyFor d c
    | _ => return d

def save (before after : Disk) : IO Unit := do
  for (place, node) in before.nodes do
    if node matches .file _ && (after.node? place).isNone then IO.FS.removeFile (placeName place)
  for (place, node) in after.nodes do
    if before.node? place != some node then
      match node with
      | .folder => IO.FS.createDirAll (placeName place)
      | .file data => IO.FS.writeBinFile (placeName place) ⟨data.toArray⟩

def unsaved (o : Relay.Outcome) : Relay.Outcome :=
  match o.result with
  | .ok s =>
    ⟨.ok { s with spooled := 0, lost := s.spooled },
      o.notices.filter (· ∉ [.fileStored, .linesSpooled]) ++ [.spoolFailed]⟩
  | _ => o

end MetricRelay.Live
