import MetricRelay.OrderedMap
import MetricRelay.Text.Utf8

namespace MetricRelay

/-- What a link leads to. It lies outside the folder. -/
inductive LinkTarget
  | nothing
  | folder (size : Nat)
  | file (data : Bytes)
  deriving DecidableEq, Repr

inductive FolderEntry
  | file (data : Bytes)
  | folder
  | link (target : LinkTarget)
  deriving DecidableEq, Repr

namespace FolderEntry

/-- The size as far as it counts: only files have one, and a link is not looked through. -/
def size : FolderEntry → Nat
  | file data => data.length
  | folder => 0
  | link _ => 0

/-- The size of what is found under a name that can be deleted. A link is looked through. -/
def found? : FolderEntry → Option Nat
  | file data => some data.length
  | folder => none
  | link .nothing => none
  | link (.folder size) => some size
  | link (.file data) => some data.length

end FolderEntry

abbrev Folder := OrderedMap FolderEntry

namespace Folder

def usage (f : Folder) : Nat := f.entries.foldl (fun sum e => sum + e.2.size) 0

end Folder

end MetricRelay
