import MetricRelay.Gzip.Member
import MetricRelay.Spool.Folder
import MetricRelay.Spool.Record

/-!
A folder that keeps lines until they can be delivered. Each file in it holds the lines that were
put away together, and the names of the files are in the order of time.
-/
namespace MetricRelay

structure SpoolConfig where
  path : Bytes
  maxUsage : Nat
  /-- In milliseconds. -/
  retention : Nat
  compression : Bool
  deriving DecidableEq, Repr

def SpoolConfig.default : SpoolConfig :=
  ⟨Text.bytes "/tmp/tsd-client/spool", 256 * 1024 * 1024, 7 * 24 * 3600 * 1000, true⟩

inductive SpoolError
  | io
  | unreadable
  | notFound (id : String)
  | full
  deriving DecidableEq, Repr

def SpoolError.message : SpoolError → String
  | io => "IO error"
  | unreadable => "Deserialization error"
  | notFound id => s!"Spool file not found: {id}"
  | full => "Disk space exceeded"

structure Stamp where
  /-- Milliseconds since the epoch. -/
  time : Nat
  sequence : Nat
  unique : String
  deriving DecidableEq, Repr

def padded (width n : Nat) : String :=
  let digits := Nat.toDigits 10 n
  String.ofList (List.replicate (width - digits.length) '0' ++ digits)

def Stamp.id (s : Stamp) : String :=
  padded 13 s.time ++ "-" ++ padded 20 s.sequence ++ "-" ++ s.unique

structure Spool where
  config : SpoolConfig
  folder : Folder
  usage : Nat

namespace Spool

def mount (config : SpoolConfig) (folder : Folder) : Spool := ⟨config, folder, folder.usage⟩

def remount (s : Spool) : Spool := mount s.config s.folder

def fileName (id : String) : String := id ++ ".spool"

def idOf? (name : String) : Option String :=
  match name.toList.reverse with
  | 'l' :: 'o' :: 'o' :: 'p' :: 's' :: '.' :: c :: id => some (String.ofList (c :: id).reverse)
  | _ => none

def list (s : Spool) : List String :=
  (s.folder.keys.filterMap idOf?).mergeSort fun a b => !(b < a)

def encode (config : SpoolConfig) (r : SpoolRecord) : Bytes :=
  if config.compression then Gzip.compress r.encode else r.encode

/-- Data that is not compressed is read as it is. -/
def decode (data : Bytes) : Except SpoolRecord.Fault SpoolRecord :=
  SpoolRecord.decode ((Gzip.decompress data).getD data)

def store (stamp : Stamp) (lines : List String) (s : Spool) :
    Except SpoolError (Option String) × Spool :=
  if lines.isEmpty then (.ok none, s)
  else
    let id := stamp.id
    let data := encode s.config ⟨id, stamp.time, lines⟩
    if s.config.maxUsage < s.usage + data.length then (.error .full, s)
    else if s.folder.get? (fileName id) = some .folder then (.error .io, s)
    else
      (.ok (some id),
        { s with
          folder := s.folder.insert (fileName id) (.file data)
          usage := s.usage + data.length })

def read (data : Bytes) : Result SpoolError SpoolRecord :=
  match decode data with
  | .ok r => .ok r
  | .error .malformed => .error .unreadable
  | .error .oversized => .panicked .capacityOverflow

def recordIn (id : String) : Option FolderEntry → Result SpoolError SpoolRecord
  | none => .error (.notFound id)
  | some .folder => .error .io
  | some (.file data) => read data
  | some (.link .nothing) => .error (.notFound id)
  | some (.link (.folder _)) => .error .io
  | some (.link (.file data)) => read data

def loadRecord (id : String) (s : Spool) : Result SpoolError SpoolRecord :=
  recordIn id (s.folder.get? (fileName id))

def load (id : String) (s : Spool) : Result SpoolError (List String) :=
  (s.loadRecord id).map (·.lines)

/-- Deletes a file, or a link. In either case the size of what was found there is taken off. -/
def delete (id : String) (s : Spool) : Except SpoolError Unit × Spool :=
  match s.folder.get? (fileName id) with
  | none => (.error (.notFound id), s)
  | some (.link .nothing) => (.error (.notFound id), s)
  | some e =>
    match e.found? with
    | none => (.error .io, s)
    | some size =>
      (.ok (), { s with folder := s.folder.erase (fileName id), usage := s.usage - size })

/-- Takes the lines of the files `ids` out of the spool. Files that cannot be read stay. -/
def restoreFrom : List String → Spool → Result SpoolError (List String) × Spool
  | [], s => (.ok [], s)
  | id :: ids, s =>
    match s.load id with
    | .panicked p => (.panicked p, s)
    | .error _ => restoreFrom ids s
    | .ok lines =>
      match s.delete id with
      | (.error e, s) => (.error e, s)
      | (.ok (), s) =>
        let (rest, s) := restoreFrom ids s
        (rest.map (lines ++ ·), s)

def restore (s : Spool) : Result SpoolError (List String) × Spool := restoreFrom s.list s

def isExpired (now : Nat) (s : Spool) (r : SpoolRecord) : Bool :=
  s.config.retention < now - r.storedAt

def cleanupFrom (now : Nat) : List String → Spool → Result SpoolError Nat × Spool
  | [], s => (.ok 0, s)
  | id :: ids, s =>
    match s.loadRecord id with
    | .panicked p => (.panicked p, s)
    | .error _ => cleanupFrom now ids s
    | .ok r =>
      if s.isExpired now r then
        match s.delete id with
        | (.error _, s) => cleanupFrom now ids s
        | (.ok (), s) =>
          let (n, s) := cleanupFrom now ids s
          (n.map (· + 1), s)
      else cleanupFrom now ids s

def cleanup (now : Nat) (s : Spool) : Result SpoolError Nat × Spool := cleanupFrom now s.list s

end Spool

end MetricRelay
