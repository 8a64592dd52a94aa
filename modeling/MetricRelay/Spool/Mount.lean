import MetricRelay.Disk
import MetricRelay.Spool.Spool

/-!
Spools on a disk. An id without a slash names a file in the folder of the spool; any other id is taken
for a path, which may lead out of the folder.
-/
namespace MetricRelay

structure Mounted where
  place : Place
  spool : Spool
  /-- The disk. What it holds in the folder of the spool does not count. -/
  around : Disk

namespace Mounted

def new (config : SpoolConfig) (d : Disk) : Except SpoolError Mounted :=
  let mounted : Except IoFault Mounted := do
    let d ← d.makeFolders config.path
    let (place, folder) ← d.openFolder config.path
    return ⟨place, Spool.mount config folder, d⟩
  mounted.mapError fun _ => .io

def disk (m : Mounted) : Disk := m.around.replaceFiles m.place m.spool.folder

def withDisk (m : Mounted) (d : Disk) : Mounted :=
  { m with spool := { m.spool with folder := d.folder m.place }, around := d }

def path (m : Mounted) (name : String) : Path := Path.join m.spool.config.path (Text.bytes name)

def load (id : String) (m : Mounted) : Result SpoolError (List String) :=
  if '/' ∉ id.toList then m.spool.load id
  else
    let found := (m.disk.find (m.path (Spool.fileName id))).toOption.map Node.entry
    (Spool.recordIn id found).map (·.lines)

/-- Deletes a file. Wherever it was, its size is taken off the usage. -/
def delete (id : String) (m : Mounted) : Except SpoolError Unit × Mounted :=
  if '/' ∉ id.toList then
    let (r, spool) := m.spool.delete id
    (r, { m with spool })
  else
    let d := m.disk
    match d.locate (m.path (Spool.fileName id)) with
    | .error _ => (.error (.notFound id), m)
    | .ok place =>
      match d.node? place with
      | none => (.error (.notFound id), m)
      | some .folder => (.error .io, m)
      | some (.file data) =>
        let m := m.withDisk (d.erase place)
        (.ok (), { m with spool := { m.spool with usage := m.spool.usage - data.length } })

def plant (name : String) (data : Bytes) (m : Mounted) : Mounted :=
  match m.disk.locate (m.path name) with
  | .error _ => m
  | .ok place => m.withDisk (m.disk.set place (.file data))

end Mounted

end MetricRelay
