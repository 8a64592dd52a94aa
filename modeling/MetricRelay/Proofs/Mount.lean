import MetricRelay.Proofs.Spool.Usage
import MetricRelay.Spool.Mount

namespace MetricRelay

def Folder.SameFolders (f g : Folder) : Prop :=
  ∀ name, f.get? name = some .folder ↔ g.get? name = some .folder

namespace Spool

structure Follows (s s' : Spool) : Prop where
  config : s'.config = s.config
  folders : s'.folder.SameFolders s.folder
  plain : s.folder.Plain → s'.folder.Plain

structure Alike (s s' : Spool) : Prop where
  config : s'.config = s.config
  same : ∀ name, s'.folder.get? name = s.folder.get? name

variable {s s' s'' : Spool}

theorem Follows.refl (s : Spool) : Follows s s := ⟨rfl, fun _ => .rfl, id⟩

theorem Follows.trans (h : Follows s s') (h' : Follows s' s'') : Follows s s'' :=
  ⟨h'.config.trans h.config, fun name => (h'.folders name).trans (h.folders name),
    h'.plain ∘ h.plain⟩

theorem Alike.files (h : Alike s s') {r : SpoolRecord} (files : s.Files r) : s'.Files r := by
  rw [Files, h.same, h.config]
  exact files

theorem get?_without_eq_folder (s : Spool) {ids : List String}
    (readable : ∀ id ∈ ids, s.holds id = true) (name : String) :
    (s.without ids).folder.get? name = some .folder ↔ s.folder.get? name = some .folder := by
  rw [get?_without]
  split
  · rename_i gone
    obtain ⟨id, mem, rfl⟩ := List.mem_map.1 gone
    obtain ⟨r, record⟩ := Option.isSome_iff_exists.1 (readable id mem)
    obtain ⟨e, size, there, isFile, -⟩ := found?_of_record? record
    rw [there]
    exact ⟨fun h => absurd h (by simp), fun h => absurd (Option.some.inj h) isFile⟩
  · exact .rfl

theorem follows_restore (s : Spool) : Follows s s.restore.2 := by
  rw [restore_eq]
  refine ⟨s.config_without _, s.get?_without_eq_folder fun id mem => ?_, fun plain =>
    plain.within (s.within_without _)⟩
  exact (List.mem_filter.1 mem).2

theorem follows_store (s : Spool) (stamp : Stamp) (lines : List String) :
    Follows s (s.store stamp lines).2 := by
  obtain ⟨-, stored⟩ | ⟨-, s', stored, stores⟩ | ⟨-, -, stored⟩ | ⟨-, -, -, stored⟩ :=
    s.store_cases stamp lines <;> rw [stored]
  · exact .refl s
  · refine ⟨stores.config, fun name => ?_, fun plain => ?_⟩
    · rw [stores.folder, OrderedMap.get?_insert]
      split
      · rename_i here
        rw [here]
        exact ⟨fun h => absurd h (by simp), fun there => absurd there stores.free⟩
      · exact .rfl
    · rw [stores.folder]
      exact plain.insert _ _
  · exact .refl s
  · exact .refl s

end Spool

namespace Disk

variable {d d' : Disk} {place p : Place} {f : Folder} {name : String} {n : Node}
  {e : FolderEntry}

theorem nameIn?_eq_some : nameIn? place p = some name ↔ p = place ++ [name] := by
  constructor
  · intro h
    unfold nameIn? at h
    split at h
    · rename_i inside
      obtain ⟨place', rfl⟩ := List.getLast?_eq_some_iff.1 h
      rw [List.dropLast_concat] at inside
      rw [inside]
    · cases h
  · rintro rfl
    exact nameIn?_append place name

theorem mem_iff_lookup {nodes : List (Place × Node)} (h : (nodes.map Prod.fst).Nodup) :
    (p, n) ∈ nodes ↔ nodes.lookup p = some n := by
  induction nodes with
  | nil => simp
  | cons node nodes ih =>
    obtain ⟨new, nodup⟩ := List.nodup_cons.1 h
    have ih := ih nodup
    by_cases hp : node.1 = p
    · obtain rfl := hp
      have other : (node.1, n) ∉ nodes := fun h => new (List.mem_map.2 ⟨_, h, rfl⟩)
      rw [List.lookup_cons_self, Option.some.injEq, List.mem_cons, or_iff_left other]
      exact ⟨fun h => (congrArg Prod.snd h).symm, fun h => h ▸ rfl⟩
    · have other : (p, n) ≠ node := fun h => hp (congrArg Prod.fst h).symm
      rw [List.mem_cons, or_iff_right other, ih, List.lookup_cons]
      simp [beq_eq_false_iff_ne.2 fun h : p = node.1 => hp h.symm]

theorem entries_folder (d : Disk) (place : Place) :
    (d.folder place).entries =
      d.nodes.filterMap fun n => (nameIn? place n.1).map fun name => (name, n.2.entry) := by
  refine OrderedMap.entries_ofList ?_
  have names : (d.nodes.filterMap fun n =>
      (nameIn? place n.1).map fun name => (name, n.2.entry)).map Prod.fst =
        (d.nodes.map Prod.fst).filterMap (nameIn? place) := by
    rw [List.map_filterMap, List.filterMap_map]
    simp [Option.map_map, Function.comp_def]
  rw [names]
  refine d.nodup.filterMap fun p q name hp hq => ?_
  rw [nameIn?_eq_some.1 hp, nameIn?_eq_some.1 hq]

theorem get?_folder :
    (d.folder place).get? name = some e ↔ ∃ n, n.entry = e ∧ (place ++ [name], n) ∈ d.nodes := by
  rw [← OrderedMap.mem_entries_iff, entries_folder, List.mem_filterMap]
  constructor
  · rintro ⟨⟨p, n⟩, there, here⟩
    obtain ⟨name', named, eq⟩ := Option.map_eq_some_iff.1 here
    cases eq
    exact ⟨n, rfl, by rwa [← nameIn?_eq_some.1 named]⟩
  · rintro ⟨n, rfl, there⟩
    exact ⟨_, there, by rw [nameIn?_append]; rfl⟩

theorem get?_folder_eq_folder :
    (d.folder place).get? name = some .folder ↔ (place ++ [name], .folder) ∈ d.nodes := by
  rw [get?_folder]
  constructor
  · rintro ⟨n, same, there⟩
    cases n with
    | file data => cases same
    | folder => exact there
  · exact fun there => ⟨_, rfl, there⟩

theorem plain_folder (d : Disk) (place : Place) : (d.folder place).Plain := by
  refine Folder.plain_iff.2 fun name target there => ?_
  obtain ⟨n, same, -⟩ := get?_folder.1 there
  cases n <;> cases same

theorem append_mem_filesAt :
    (place ++ [name], n) ∈ filesAt place f ↔
      ∃ data, n = .file data ∧ f.get? name = some (.file data) := by
  rw [mem_filesAt]
  constructor
  · rintro ⟨name', data, there, same, rfl⟩
    obtain rfl := List.singleton_inj.1 (List.append_cancel_left same)
    exact ⟨data, rfl, (f.mem_entries_iff _ _).1 there⟩
  · rintro ⟨data, rfl, there⟩
    exact ⟨name, data, (f.mem_entries_iff _ _).2 there, rfl, rfl⟩

theorem notMem_filesAt (h : f.get? name = some .folder) :
    place ++ [name] ∉ (filesAt place f).map Prod.fst := by
  intro there
  obtain ⟨⟨p, n⟩, mem, rfl⟩ := List.mem_map.1 there
  obtain ⟨data, -, got⟩ := append_mem_filesAt.1 mem
  cases got.symm.trans h

theorem get?_folder_replaceFiles (plain : f.Plain) (same : f.SameFolders (d.folder place))
    (name : String) : ((d.replaceFiles place f).folder place).get? name = f.get? name := by
  refine Option.ext fun e => ?_
  have nodes (n : Node) : (place ++ [name], n) ∈ (d.replaceFiles place f).nodes ↔
      (∃ data, n = .file data ∧ f.get? name = some (.file data)) ∨
        n = .folder ∧ f.get? name = some .folder := by
    change _ ∈ filesAt place f ++ d.withoutFiles place f ↔ _
    rw [List.mem_append, append_mem_filesAt, withoutFiles, List.mem_filter]
    simp only [nameIn?_append, Option.isNone_some, Bool.false_or, Bool.and_eq_true,
      decide_eq_true_eq]
    refine or_congr_right ⟨?_, ?_⟩
    · rintro ⟨there, rfl, -⟩
      exact ⟨rfl, (same name).2 (get?_folder_eq_folder.2 there)⟩
    · rintro ⟨rfl, got⟩
      exact ⟨get?_folder_eq_folder.1 ((same name).1 got), rfl, notMem_filesAt got⟩
  simp only [get?_folder, nodes]
  constructor
  · rintro ⟨n, rfl, ⟨data, rfl, got⟩ | ⟨rfl, got⟩⟩
    · exact got
    · exact got
  · intro got
    rcases e with data | - | target
    · exact ⟨_, rfl, .inl ⟨data, rfl, got⟩⟩
    · exact ⟨_, rfl, .inr ⟨rfl, got⟩⟩
    · exact absurd got (plain.get? target)

theorem node?_replaceFiles (same : f.SameFolders (d.folder place))
    (h : d.node? p = some .folder) : (d.replaceFiles place f).node? p = some .folder := by
  unfold node? at *
  split at h
  · rename_i root
    exact if_pos root
  · rename_i below
    rw [if_neg below]
    have there := (mem_iff_lookup d.nodup).2 h
    refine (mem_iff_lookup (d.replaceFiles place f).nodup).1
      (List.mem_append_right _ (List.mem_filter.2 ⟨there, ?_⟩))
    cases inside : nameIn? place p with
    | none => rfl
    | some name =>
      obtain rfl := nameIn?_eq_some.1 inside
      simpa using notMem_filesAt ((same name).2 (get?_folder_eq_folder.2 there))

theorem walk_congr (folders : ∀ p, d.node? p = some .folder → d'.node? p = some .folder)
    {names : List Bytes} {p q : Place} (h : names.foldlM d.step p = .ok q) :
    names.foldlM d'.step p = .ok q := by
  induction names generalizing p with
  | nil => exact h
  | cons name names ih =>
    rw [List.foldlM_cons] at *
    cases hs : d.step p name with
    | error fault =>
      rw [hs] at h
      cases h
    | ok r =>
      rw [hs] at h
      have same : d'.step p name = .ok r := by
        unfold step at *
        cases hn : d.node? p with
        | none => simp [hn] at hs
        | some e =>
          cases e with
          | file data => simp [hn] at hs
          | folder => rwa [folders p hn, ← hn]
      rw [same]
      exact ih h

theorem folder_of_walk {names : List Bytes} {p q : Place} (h : names.foldlM d.step p = .ok q)
    (there : d.node? q = some .folder) : d.node? p = some .folder := by
  cases names with
  | nil =>
    cases h
    exact there
  | cons name names =>
    rw [List.foldlM_cons] at h
    unfold step at h
    cases hn : d.node? p with
    | none =>
      simp only [hn] at h
      cases h
    | some e =>
      cases e with
      | file data =>
        simp only [hn] at h
        cases h
      | folder => rfl

theorem walkMaking_of_walk {names : List Bytes} {p q : Place} (h : names.foldlM d.step p = .ok q)
    (there : d.node? q = some .folder) : names.foldlM stepMaking (d, p) = .ok (d, q) := by
  induction names generalizing p with
  | nil =>
    cases h
    rfl
  | cons name names ih =>
    rw [List.foldlM_cons] at *
    cases hs : d.step p name with
    | error fault =>
      rw [hs] at h
      cases h
    | ok r =>
      rw [hs] at h
      have made : stepMaking (d, p) name = .ok (d, r) := by
        simp only [stepMaking, hs, bind, Except.bind, folder_of_walk h there]
        rfl
      rw [made]
      exact ih h

theorem locate_ok {path : Path} (h : d.locate path = .ok p) :
    checkPath path = .ok () ∧ path.isEmpty = false ∧
      (Path.names path).foldlM d.step (d.start path) = .ok p := by
  unfold locate at h
  cases hc : checkPath path with
  | error fault =>
    rw [hc] at h
    cases h
  | ok _ =>
    rw [hc] at h
    cases he : path.isEmpty with
    | true =>
      simp only [he] at h
      cases h
    | false =>
      simp only [he] at h
      exact ⟨rfl, rfl, h⟩

theorem locate_congr {path : Path}
    (folders : ∀ p, d.node? p = some .folder → d'.node? p = some .folder)
    (home : d'.home = d.home) (h : d.locate path = .ok p) : d'.locate path = .ok p := by
  obtain ⟨sound, some_, walk⟩ := locate_ok h
  have start : d'.start path = d.start path := by rw [Disk.start, home, Disk.start]
  unfold locate
  rw [sound, some_, start]
  exact walk_congr folders walk

theorem makeFolders_of_locate {path : Path} (h : d.locate path = .ok p)
    (there : d.node? p = some .folder) : d.makeFolders path = .ok d := by
  obtain ⟨sound, some_, walk⟩ := locate_ok h
  unfold makeFolders
  rw [sound, some_, walkMaking_of_walk walk there]
  rfl

theorem openFolder_ok {path : Path} :
    d.openFolder path = .ok (p, f) ↔
      d.locate path = .ok p ∧ d.node? p = some .folder ∧ d.folder p = f := by
  unfold openFolder
  cases d.locate path with
  | error fault => exact ⟨(nomatch ·), fun h => nomatch h.1⟩
  | ok q =>
    simp only [bind, Except.bind]
    constructor
    · intro h
      split at h
      · rename_i there
        cases h
        exact ⟨rfl, there, rfl⟩
      · cases h
      · cases h
    · rintro ⟨eq, there, rfl⟩
      cases eq
      rw [there]
      rfl

end Disk

namespace Mounted

variable {config : SpoolConfig} {d : Disk} {m : Mounted} {f : Folder}

theorem new_ok (h : new config d = .ok m) :
    m.around.locate config.path = .ok m.place ∧ m.around.node? m.place = some .folder ∧
      m.spool = Spool.mount config (m.around.folder m.place) := by
  unfold new at h
  cases hd : d.makeFolders config.path with
  | error fault =>
    rw [hd] at h
    cases h
  | ok around =>
    rw [hd] at h
    cases ho : around.openFolder config.path with
    | error fault =>
      simp only [bind, Except.bind, ho] at h
      cases h
    | ok opened =>
      simp only [bind, Except.bind, ho] at h
      cases h
      obtain ⟨located, there, folder⟩ := Disk.openFolder_ok.1 ho
      exact ⟨located, there, by rw [folder]⟩

theorem new_of_locate {place : Place} (h : d.locate config.path = .ok place)
    (there : d.node? place = some .folder) :
    new config d = .ok ⟨place, Spool.mount config (d.folder place), d⟩ := by
  have opened := Disk.openFolder_ok.2 ⟨h, there, rfl⟩
  simp only [new, Disk.makeFolders_of_locate h there, bind, Except.bind, opened]
  rfl

theorem new_disk {spool : Spool} (h : new config d = .ok m) (follows : m.spool.Follows spool) :
    ∃ again, new config { m with spool }.disk = .ok again ∧ spool.Alike again.spool := by
  obtain ⟨located, there, fresh⟩ := new_ok h
  have same : spool.folder.SameFolders (m.around.folder m.place) := by
    have := follows.folders
    rwa [fresh] at this
  have config_eq : spool.config = config := by rw [follows.config, fresh]; rfl
  have plain : spool.folder.Plain := follows.plain (fresh ▸ Disk.plain_folder _ _)
  have found_ : { m with spool }.disk.locate config.path = .ok m.place :=
    Disk.locate_congr (fun p => Disk.node?_replaceFiles same) rfl located
  exact ⟨_, new_of_locate found_ (Disk.node?_replaceFiles same there), config_eq.symm,
    Disk.get?_folder_replaceFiles plain same⟩

end Mounted

end MetricRelay
