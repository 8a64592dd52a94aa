import MetricRelay.Spool.Folder
import MetricRelay.Transport

namespace MetricRelay

abbrev Path := Bytes

namespace Path

def slash : UInt8 := 0x2f

def dot : UInt8 := 0x2e

def isAbsolute (p : Path) : Bool := p.head? = some slash

def beginsHere : Path → Bool
  | [a] => a = dot
  | a :: b :: _ => a = dot && b = slash
  | [] => false

def stripIdle (p : Path) : Path :=
  match p with
  | [] => []
  | a :: rest =>
    if a = slash then stripIdle rest
    else if a = dot then
      match rest with
      | [] => []
      | b :: rest' => if b = slash then stripIdle rest' else p
    else p

def parent? (p : Path) : Option Path :=
  let before := if isAbsolute p || beginsHere p then 1 else 0
  match stripIdle (p.drop before).reverse with
  | [] => if beginsHere p then some [] else none
  | body =>
    let body := (body.dropWhile (· != slash)).drop 1
    some (p.take before ++ (stripIdle body).reverse)

def names : Path → List Bytes
  | [] => [[]]
  | a :: p =>
    if a = slash then [] :: names p
    else
      match names p with
      | [] => [[a]]
      | name :: rest => (a :: name) :: rest

def join (p q : Path) : Path :=
  if isAbsolute q || p.isEmpty then q
  else if p.getLast? = some slash then p ++ q
  else p ++ slash :: q

def lengthLimit : Nat := 4095

def nameLimit : Nat := 255

end Path

abbrev Place := List String

inductive Node
  | file (data : Bytes)
  | folder
  deriving DecidableEq, Repr

def Node.entry : Node → FolderEntry
  | file data => .file data
  | folder => .folder

structure Disk where
  nodes : List (Place × Node)
  nodup : (nodes.map Prod.fst).Nodup
  home : Place

namespace Disk

def node? (d : Disk) (place : Place) : Option Node :=
  if place.isEmpty then some .folder else d.nodes.lookup place

def erase (d : Disk) (place : Place) : Disk where
  nodes := d.nodes.filter (·.1 != place)
  nodup := d.nodup.sublist (List.filter_sublist.map _)
  home := d.home

theorem notMem_erase (d : Disk) (place : Place) : place ∉ (d.erase place).nodes.map Prod.fst := by
  simp [erase]

def set (d : Disk) (place : Place) (n : Node) : Disk where
  nodes := (place, n) :: (d.erase place).nodes
  nodup := List.nodup_cons.2 ⟨d.notMem_erase place, (d.erase place).nodup⟩
  home := d.home

def step (d : Disk) (place : Place) (name : Bytes) : Except IoFault Place :=
  match d.node? place with
  | none => .error .notFound
  | some (.file _) => .error .notDirectory
  | some .folder =>
    if name = [] || name = [Path.dot] then .ok place
    else if name = [Path.dot, Path.dot] then .ok place.dropLast
    else if Path.nameLimit < name.length then .error .nameTooLong
    else .ok (place ++ [Text.decodeLossy name])

def start (d : Disk) (p : Path) : Place := if Path.isAbsolute p then [] else d.home

def checkPath (p : Path) : Except IoFault Unit :=
  if p.contains 0 then .error .invalidPath
  else if Path.lengthLimit < p.length then .error .nameTooLong
  else .ok ()

/-- Where the path leads. There need not be anything there. -/
def locate (d : Disk) (p : Path) : Except IoFault Place := do
  checkPath p
  if p.isEmpty then throw .notFound
  (Path.names p).foldlM d.step (d.start p)

def find (d : Disk) (p : Path) : Except IoFault Node := do
  match d.node? (← d.locate p) with
  | some n => return n
  | none => throw .notFound

def contains (d : Disk) (p : Path) : Bool :=
  match d.find p with
  | .ok _ => true
  | .error _ => false

def read (d : Disk) (p : Path) : Except IoFault Bytes := do
  match ← d.find p with
  | .file data => return data
  | .folder => throw .isDirectory

def stepMaking (state : Disk × Place) (name : Bytes) : Except IoFault (Disk × Place) := do
  let (d, place) := state
  let place ← d.step place name
  match d.node? place with
  | none => return (d.set place .folder, place)
  | some .folder => return (d, place)
  | some (.file _) => throw .alreadyExists

def makeFolders (d : Disk) (p : Path) : Except IoFault Disk := do
  checkPath p
  if p.isEmpty then return d
  return (← (Path.names p).foldlM stepMaking (d, d.start p)).1

def nameIn? (place other : Place) : Option String :=
  if other.dropLast = place then other.getLast? else none

@[simp] theorem nameIn?_append (place : Place) (name : String) :
    nameIn? place (place ++ [name]) = some name := by
  simp [nameIn?]

def folder (d : Disk) (place : Place) : Folder :=
  .ofList (d.nodes.filterMap fun (p, n) => (nameIn? place p).map fun name => (name, n.entry))

def openFolder (d : Disk) (p : Path) : Except IoFault (Place × Folder) := do
  let place ← d.locate p
  match d.node? place with
  | some .folder => return (place, d.folder place)
  | some (.file _) => throw .notDirectory
  | none => throw .notFound

def filesAt (place : Place) (f : Folder) : List (Place × Node) :=
  f.entries.filterMap fun (name, e) =>
    match e with
    | .file data => some (place ++ [name], .file data)
    | _ => none

theorem mem_filesAt {place p : Place} {f : Folder} {n : Node} :
    (p, n) ∈ filesAt place f ↔
      ∃ name data, (name, FolderEntry.file data) ∈ f.entries ∧ p = place ++ [name] ∧
        n = .file data := by
  rw [filesAt, List.mem_filterMap]
  constructor
  · rintro ⟨⟨name, e⟩, there, made⟩
    cases e with
    | file data =>
      cases made
      exact ⟨name, data, there, rfl, rfl⟩
    | folder => cases made
    | link target => cases made
  · rintro ⟨name, data, there, rfl, rfl⟩
    exact ⟨_, there, rfl⟩

theorem nodup_filesAt (place : Place) (f : Folder) : ((filesAt place f).map Prod.fst).Nodup := by
  refine List.pairwise_map.2 (List.Pairwise.filterMap _ ?_ (List.pairwise_map.1 f.nodup))
  rintro ⟨name, e⟩ ⟨name', e'⟩ distinct ⟨p, n⟩ made ⟨p', n'⟩ made'
  cases e <;> cases made
  cases e' <;> cases made'
  intro same
  exact distinct (List.singleton_inj.1 (List.append_cancel_left same))

def withoutFiles (d : Disk) (place : Place) (f : Folder) : List (Place × Node) :=
  d.nodes.filter fun n =>
    (nameIn? place n.1).isNone || (n.2 = .folder && n.1 ∉ (filesAt place f).map Prod.fst)

theorem notMem_withoutFiles (d : Disk) {place : Place} {f : Folder} {p : Place}
    (h : p ∈ (filesAt place f).map Prod.fst) : p ∉ (d.withoutFiles place f).map Prod.fst := by
  intro there
  obtain ⟨n, hn, rfl⟩ := List.mem_map.1 there
  have kept := (List.mem_filter.1 hn).2
  obtain ⟨n', hn', same⟩ := List.mem_map.1 h
  obtain ⟨name, data, -, place_eq, -⟩ := mem_filesAt.1 hn'
  rw [← same, place_eq, nameIn?_append] at kept
  simp only [Option.isNone_some, Bool.false_or, Bool.and_eq_true, decide_eq_true_eq] at kept
  exact kept.2 (place_eq ▸ List.mem_map_of_mem hn')

def replaceFiles (d : Disk) (place : Place) (f : Folder) : Disk where
  nodes := filesAt place f ++ d.withoutFiles place f
  nodup := by
    rw [List.map_append, List.nodup_append]
    refine ⟨nodup_filesAt place f, d.nodup.sublist (List.filter_sublist.map _), ?_⟩
    rintro p hp q hq rfl
    exact d.notMem_withoutFiles hp hq
  home := d.home

def base (home : Place) : Disk where
  nodes := (List.range home.length).map fun n => (home.take (n + 1), .folder)
  nodup := by
    rw [List.map_map]
    refine List.pairwise_map.2 (List.pairwise_lt_range.imp_of_mem fun hi hj less e => ?_)
    have := congrArg List.length e
    simp only [Function.comp_apply, List.length_take] at this
    have := List.mem_range.1 hi
    have := List.mem_range.1 hj
    omega
  home := home

def build (home : Place) (folders : List String) (files : List (String × Bytes)) : Disk :=
  let d := folders.foldl (fun d p => (d.makeFolders (Text.bytes p)).toOption.getD d) (base home)
  files.foldl
    (fun d (p, data) => ((d.locate (Text.bytes p)).toOption.map (d.set · (.file data))).getD d) d

end Disk

end MetricRelay
