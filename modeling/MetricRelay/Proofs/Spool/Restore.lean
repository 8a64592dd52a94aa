import MetricRelay.Proofs.Spool.Usage
import MetricRelay.Proofs.Text.Utf8

/-!
What taking out the lines of a spool does to a folder with any files in it: which of them count, in
which order, and what is left.
-/
namespace MetricRelay

theorem takeWhile_of_pairwise {l : List String} (sorted : l.Pairwise (· < ·)) (p : String → Bool) :
    ((∀ a ∈ l, p a = true) ∧ l.takeWhile p = l) ∨
      ∃ b ∈ l, p b = false ∧ (∀ a ∈ l, p a = false → ¬a < b) ∧
        l.takeWhile p = l.filter (· < b) := by
  induction l with
  | nil => exact .inl ⟨List.forall_mem_nil _, rfl⟩
  | cons a l ih =>
    obtain ⟨first, sorted⟩ := List.pairwise_cons.1 sorted
    cases ha : p a with
    | false =>
      refine .inr ⟨a, List.mem_cons_self, ha, ?_, ?_⟩
      · rintro b mem - less
        obtain rfl | mem := List.mem_cons.1 mem
        · exact String.lt_irrefl _ less
        · exact String.lt_asymm less (first b mem)
      · rw [List.takeWhile_cons_of_neg (by simp [ha]), eq_comm, List.filter_eq_nil_iff]
        intro b mem
        obtain rfl | mem := List.mem_cons.1 mem
        · simp
        · simpa using String.lt_asymm (first b mem)
    | true =>
      rw [List.takeWhile_cons_of_pos ha]
      obtain ⟨all, whole⟩ | ⟨b, mem, hb, least, cut⟩ := ih sorted
      · exact .inl ⟨List.forall_mem_cons.2 ⟨ha, all⟩, by rw [whole]⟩
      · refine .inr ⟨b, List.mem_cons_of_mem _ mem, hb, ?_, ?_⟩
        · refine List.forall_mem_cons.2 ⟨fun no => ?_, least⟩
          rw [ha] at no
          cases no
        · rw [cut, List.filter_cons_of_pos (by simpa using first b mem)]

/-- A file that can be read, or a link to one. -/
structure SpoolFile where
  id : String
  data : Bytes
  record : SpoolRecord

/-- What is read of a file, or through a link. -/
def FolderEntry.content? : FolderEntry → Option Bytes
  | file data => some data
  | link (.file data) => some data
  | _ => none

namespace Folder

def content? (folder : Folder) (id : String) : Option Bytes :=
  (folder.get? (id ++ ".spool")).bind FolderEntry.content?

structure Contents (folder : Folder) (files : List SpoolFile) : Prop where
  mem : ∀ f, f ∈ files ↔
    f.id ≠ "" ∧ folder.content? f.id = some f.data ∧ Spool.decode f.data = .ok f.record
  sorted : files.Pairwise fun f g => Text.bytes f.id < Text.bytes g.id

/-- The program stops when it reads this file, since there is a text announced in it for which no
memory can be made room in. -/
def Bursts (folder : Folder) (id : String) : Prop :=
  id ≠ "" ∧ ∃ data, folder.content? id = some data ∧ Spool.decode data = .error .oversized

structure BurstsFirst (folder : Folder) (id : String) : Prop where
  bursts : folder.Bursts id
  first : ∀ id', folder.Bursts id' → ¬Text.bytes id' < Text.bytes id

end Folder

/-- These files have gone from the spool, and their sizes from its usage, and nothing else has
changed. -/
structure Spool.Loses (s : Spool) (gone : List SpoolFile) (s' : Spool) : Prop where
  entries : s'.folder.entries =
    s.folder.entries.filter fun e => e.1 ∉ gone.map fun f => f.id ++ ".spool"
  usage : s'.usage = s.usage - (gone.map (·.data.length)).sum
  /-- Only a link can take off more than there is. -/
  whole : s.folder.Honest → (gone.map (·.data.length)).sum ≤ s.usage

namespace Spool

variable {s : Spool} {id : String} {ids : List String} {f : SpoolFile} {fs : List SpoolFile}

def file? (s : Spool) (id : String) : Option SpoolFile :=
  (s.folder.content? id).bind fun data =>
    (decode data).toOption.map fun record => ⟨id, data, record⟩

def files (s : Spool) : List SpoolFile := s.list.filterMap s.file?

theorem file?_eq_some :
    s.file? id = some f ↔
      f.id = id ∧ s.folder.content? id = some f.data ∧ decode f.data = .ok f.record := by
  have read {data : Bytes} {r : SpoolRecord} : (decode data).toOption = some r ↔ decode data = .ok r := by
    cases decode data <;> simp [Except.toOption]
  simp only [file?, Option.bind_eq_some_iff, Option.map_eq_some_iff, read]
  constructor
  · rintro ⟨data, content, record, decoded, rfl⟩
    exact ⟨rfl, content, decoded⟩
  · rintro ⟨rfl, content, decoded⟩
    exact ⟨_, content, _, decoded, rfl⟩

theorem mem_list_of_content? {data : Bytes} (some_ : id ≠ "")
    (content : s.folder.content? id = some data) : id ∈ s.list := by
  obtain ⟨e, there, -⟩ := Option.bind_eq_some_iff.1 content
  exact mem_list.2 ⟨some_, OrderedMap.mem_keys.2 (by rw [fileName, there]; rfl)⟩

theorem contents_files (s : Spool) : s.folder.Contents s.files where
  mem f := by
    simp only [files, List.mem_filterMap, file?_eq_some]
    constructor
    · rintro ⟨id, listed, rfl, file⟩
      exact ⟨(mem_list.1 listed).1, file⟩
    · rintro ⟨some_, content, decoded⟩
      exact ⟨f.id, mem_list_of_content? some_ content, rfl, content, decoded⟩
  sorted := by
    refine s.pairwise_list.filterMap _ fun id id' less f hf g hg => ?_
    obtain ⟨rfl, -⟩ := file?_eq_some.1 hf
    obtain ⟨rfl, -⟩ := file?_eq_some.1 hg
    exact Text.bytes_lt less

theorem loadRecord_eq (s : Spool) (id : String) :
    (∃ data, s.folder.content? id = some data ∧ s.loadRecord id = read data) ∨
      (s.folder.content? id = none ∧ ∃ e, s.loadRecord id = .error e) := by
  unfold Folder.content? loadRecord fileName
  rcases s.folder.get? (id ++ ".spool") with - | data | - | - | size | data
  · exact .inr ⟨rfl, _, rfl⟩
  · exact .inl ⟨_, rfl, rfl⟩
  · exact .inr ⟨rfl, _, rfl⟩
  · exact .inr ⟨rfl, _, rfl⟩
  · exact .inr ⟨rfl, _, rfl⟩
  · exact .inl ⟨_, rfl, rfl⟩

theorem record?_eq (s : Spool) (id : String) : s.record? id = (s.file? id).map (·.record) := by
  unfold record? file?
  obtain ⟨data, content, loaded⟩ | ⟨none_, e, loaded⟩ := s.loadRecord_eq id
  · rw [content, loaded, read, Option.bind_some]
    cases decode data with
    | ok r => rfl
    | error fault => cases fault <;> rfl
  · rw [none_, loaded]
    rfl

theorem mem_list_and_bursts : (id ∈ s.list ∧ s.bursts id = true) ↔ s.folder.Bursts id := by
  have reads (data : Bytes) : (read data).panic?.isSome = true ↔ decode data = .error .oversized := by
    unfold read
    split <;> simp_all [Result.panic?]
  unfold Folder.Bursts bursts
  obtain ⟨data, content, loaded⟩ | ⟨none_, e, loaded⟩ := s.loadRecord_eq id
  · rw [content, loaded, reads]
    simp only [Option.some.injEq, exists_eq_left']
    refine and_congr_left fun _ => ⟨fun listed => (mem_list.1 listed).1, fun some_ => ?_⟩
    exact mem_list_of_content? some_ content
  · rw [none_, loaded]
    simp [Result.panic?]

theorem filter_record? (s : Spool) (p : SpoolRecord → Bool) (ids : List String) :
    ids.filter (fun id => (s.record? id).any p) =
      ((ids.filterMap s.file?).filter fun f => p f.record).map (·.id) := by
  induction ids with
  | nil => rfl
  | cons id ids ih =>
    cases hf : s.file? id with
    | none =>
      rw [List.filterMap_cons_none hf, ← ih, List.filter_cons_of_neg]
      simp [record?_eq, hf]
    | some f =>
      rw [List.filterMap_cons_some hf]
      have same : (s.record? id).any p = p f.record := by simp [record?_eq, hf]
      rw [List.filter_cons, List.filter_cons, same, ih]
      split
      · rw [List.map_cons, (file?_eq_some.1 hf).1]
      · rfl

theorem flatMap_linesOf (s : Spool) (ids : List String) :
    ids.flatMap s.linesOf = (ids.filterMap s.file?).flatMap (·.record.lines) := by
  induction ids with
  | nil => rfl
  | cons id ids ih =>
    rw [List.flatMap_cons, ih, linesOf, record?_eq]
    cases h : s.file? id with
    | none => rw [List.filterMap_cons_none h]; rfl
    | some f => rw [List.filterMap_cons_some h]; rfl

theorem filterMap_file?_filter {q : String → Bool} {p : SpoolFile → Bool}
    (h : ∀ f, s.file? f.id = some f → q f.id = p f) (ids : List String) :
    (ids.filter q).filterMap s.file? = (ids.filterMap s.file?).filter p := by
  rw [List.filterMap_filter, List.filter_filterMap]
  refine List.filterMap_congr fun id _ => ?_
  cases hf : s.file? id with
  | none => simp
  | some f =>
    obtain ⟨rfl, -⟩ := file?_eq_some.1 hf
    simp [Option.filter, h f hf]

theorem sizeOf_of_file? (h : s.file? f.id = some f) : s.sizeOf f.id = f.data.length := by
  obtain ⟨-, content, -⟩ := file?_eq_some.1 h
  obtain ⟨e, there, content⟩ := Option.bind_eq_some_iff.1 content
  rw [sizeOf, fileName, there]
  rcases e with data | - | - | size | data <;> cases content <;> rfl

theorem file?_remove (other : id ≠ f.id) : (s.remove f.id).file? id = s.file? id := by
  have same : (s.remove f.id).folder.get? (fileName id) = s.folder.get? (fileName id) := by
    rw [remove, OrderedMap.get?_erase, if_neg fun e => other (fileName_injective e)]
  unfold fileName at same
  rw [file?, Folder.content?, same]
  rfl

theorem files_remove (new : f.id ∉ fs.map (·.id)) (there : ∀ g ∈ fs, s.file? g.id = some g) :
    ∀ g ∈ fs, (s.remove f.id).file? g.id = some g :=
  fun g mem => (file?_remove fun same => new (List.mem_map.2 ⟨g, mem, same⟩)).trans (there g mem)

theorem usage_without (there : ∀ f ∈ fs, s.file? f.id = some f)
    (distinct : (fs.map (·.id)).Nodup) :
    (s.without (fs.map (·.id))).usage = s.usage - (fs.map (·.data.length)).sum := by
  induction fs generalizing s with
  | nil => rfl
  | cons f fs ih =>
    obtain ⟨first, others⟩ := List.forall_mem_cons.1 there
    obtain ⟨new, distinct⟩ := List.nodup_cons.1 distinct
    have rest := ih (files_remove new others) distinct
    rw [List.map_cons, List.map_cons, List.sum_cons, without, List.foldl_cons, ← Nat.sub_sub,
      ← sizeOf_of_file? first]
    exact rest

theorem sum_le_usage (there : ∀ f ∈ fs, s.file? f.id = some f) (some_ : ∀ f ∈ fs, f.id ≠ "")
    (distinct : (fs.map (·.id)).Nodup) (right : s.Exact) :
    (fs.map (·.data.length)).sum ≤ s.usage := by
  induction fs generalizing s with
  | nil => exact Nat.zero_le _
  | cons f fs ih =>
    obtain ⟨first, others⟩ := List.forall_mem_cons.1 there
    obtain ⟨named, some_⟩ := List.forall_mem_cons.1 some_
    obtain ⟨new, distinct⟩ := List.nodup_cons.1 distinct
    have rest := ih (files_remove new others) some_ distinct (right.remove fun empty => absurd empty named)
    have within := right.sizeOf_le named
    have usage : (s.remove f.id).usage = s.usage - s.sizeOf f.id := rfl
    have size := sizeOf_of_file? first
    rw [List.map_cons, List.sum_cons]
    omega

theorem loses_without (usage : s.usage = s.folder.usage) (sub : fs.Sublist s.files) :
    s.Loses fs (s.without (fs.map (·.id))) := by
  have there (f : SpoolFile) (mem : f ∈ fs) : f.id ≠ "" ∧ s.file? f.id = some f := by
    obtain ⟨some_, there⟩ := (s.contents_files.mem f).1 (sub.subset mem)
    exact ⟨some_, file?_eq_some.2 ⟨rfl, there⟩⟩
  have distinct : (fs.map (·.id)).Nodup := by
    refine List.pairwise_map.2 ((s.contents_files.sorted.sublist sub).imp fun less same => ?_)
    rw [same] at less
    exact List.lt_irrefl _ less
  refine ⟨?_, usage_without (fun f mem => (there f mem).2) distinct, fun honest =>
    sum_le_usage (fun f mem => (there f mem).2) (fun f mem => (there f mem).1) distinct
      ⟨usage, honest⟩⟩
  rw [entries_without, List.map_map]
  rfl

theorem looked_at (s : Spool) :
    ((∀ id, ¬s.folder.Bursts id) ∧ s.isOversized = false ∧
        (s.list.takeWhile fun id => !s.bursts id).filterMap s.file? = s.files) ∨
      ∃ id, s.folder.BurstsFirst id ∧ s.isOversized = true ∧
        (s.list.takeWhile fun id => !s.bursts id).filterMap s.file? =
          s.files.filter fun f => Text.bytes f.id < Text.bytes id := by
  obtain ⟨all, whole⟩ | ⟨b, mem, burst, least, cut⟩ :=
    takeWhile_of_pairwise s.pairwise_list fun id => !s.bursts id
  · refine .inl ⟨fun id there => ?_, List.any_eq_false.2 fun id mem => by simpa using all id mem, ?_⟩
    · obtain ⟨mem, burst⟩ := mem_list_and_bursts.2 there
      have := all id mem
      rw [burst] at this
      cases this
    · rw [whole]
      rfl
  · have burst : s.bursts b = true := by simpa using burst
    refine .inr ⟨b, ⟨mem_list_and_bursts.1 ⟨mem, burst⟩, fun id there less => ?_⟩,
      List.any_eq_true.2 ⟨b, mem, burst⟩, ?_⟩
    · obtain ⟨mem', burst'⟩ := mem_list_and_bursts.2 there
      exact least id mem' (by simp [burst']) (Text.bytes_lt_iff.1 less)
    · rw [cut]
      exact filterMap_file?_filter (fun f _ => decide_eq_decide.2 Text.bytes_lt_iff.symm) s.list

theorem holds_eq_any (s : Spool) : s.holds = fun id => (s.record? id).any fun _ => true := by
  funext id
  cases h : s.record? id <;> simp [holds, h]

theorem taken_eq_map (s : Spool) :
    s.taken = ((s.list.takeWhile fun id => !s.bursts id).filterMap s.file?).map (·.id) := by
  have all := s.filter_record? (fun _ => true) (s.list.takeWhile fun id => !s.bursts id)
  rw [taken, holds_eq_any, all, List.filter_eq_self.2 fun _ _ => rfl]

/-- Taking out the lines of a spool, whatever is in its folder, gives the lines of the files that can
be read, in the order of the bytes of their ids. These files are gone, nothing else has changed, the
usage is less by their sizes, and there is nothing more to take out. But if the program stops at a
file, this is so of the files that come before it only. -/
theorem restore_mount (config : SpoolConfig) (folder : Folder) :
    let s := mount config folder
    ∃ files, folder.Contents files ∧ ∃ gone s', s.Loses gone s' ∧
      (((∀ id, ¬folder.Bursts id) ∧ gone = files ∧
          s.restore = (.ok (files.flatMap (·.record.lines)), s') ∧ s'.restore = (.ok [], s')) ∨
        ∃ id, folder.BurstsFirst id ∧
          gone = files.filter (fun f => Text.bytes f.id < Text.bytes id) ∧
          s.restore = (.panicked .capacityOverflow, s')) := by
  intro s
  refine ⟨s.files, s.contents_files, ?_⟩
  have restored := s.restore_eq
  rw [taken_eq_map] at restored
  obtain ⟨whole, sound, all⟩ | ⟨id, first, oversized, before⟩ := s.looked_at
  · rw [all, sound, if_neg Bool.false_ne_true, held, flatMap_linesOf] at restored
    refine ⟨s.files, _, loses_without rfl (.refl _), .inl ⟨whole, rfl, restored, ?_⟩⟩
    have again : s.without (s.files.map (·.id)) = s.emptied := by
      rw [emptied, ← taken_eq sound, taken_eq_map, all]
    rw [again, restore_emptied sound]
  · rw [before, oversized, if_pos rfl] at restored
    exact ⟨_, _, loses_without rfl List.filter_sublist, .inr ⟨id, first, rfl, restored⟩⟩

def mixed : Folder :=
  .ofList [("c.spool", .file [31, 139, 8, 0, 0, 0, 0, 0, 2, 3, 99, 172, 248, 173, 195, 200, 204, 148,
      196, 197, 0, 196, 0, 87, 235, 90, 186, 13, 0, 0, 0]),
    ("t.spool", .file [1, 121, 7, 1, 2, 97]), ("a.spool", .file [1, 121, 7, 1, 2, 97, 10, 0]),
    ("g.spool", .file [255, 0]), ("l.spool", .link (.file [1, 121, 7, 1, 2, 108, 10])),
    ("o.spool", .link .nothing), ("n.txt", .file [1, 121, 7, 1, 2, 97, 10]), ("d.spool", .folder),
    (".spool", .file [1, 121, 7, 1, 2, 97, 10])]

theorem restore_mount_mixed :
    ∃ s', (mount .default mixed).restore = (.ok ["a\n", "b\n", "", "b\n", "l\n"], s') ∧
      s'.folder.keys = ["t.spool", "g.spool", "o.spool", "n.txt", "d.spool", ".spool"] ∧
      s'.usage + (31 + 8 + 7) = (mount .default mixed).usage ∧ s'.restore = (.ok [], s') := by
  have listed : (mount .default mixed).list = ["a", "c", "d", "g", "l", "o", "t"] :=
    list_eq (by decide +kernel) (by decide +kernel)
  have seen : (mount .default mixed).restore.1 = .ok ["a\n", "b\n", "", "b\n", "l\n"] := by
    rw [restore, listed]
    decide +kernel
  obtain ⟨files, -, gone, s', -, ⟨-, -, restored, again⟩ | ⟨id, -, -, restored⟩⟩ :=
    restore_mount .default mixed
  · rw [restored] at seen
    have left : ((mount .default mixed).restoreFrom ["a", "c", "d", "g", "l", "o", "t"]).2 = s' := by
      rw [← listed]
      exact congrArg Prod.snd restored
    refine ⟨s', restored.trans (Prod.ext seen rfl), ?_, ?_, again⟩
    · rw [← left]
      decide +kernel
    · rw [← left]
      decide +kernel
  · rw [restored] at seen
    cases seen

def bursting : Folder :=
  .ofList [("a.spool", .file [253, 255, 255, 255, 255, 255, 255, 255, 255]),
    ("b.spool", .file [1, 105, 0, 1, 1, 113])]

theorem list_bursting : (mount .default bursting).list = ["a", "b"] :=
  list_eq (by decide +kernel) (by decide +kernel)

theorem not_restore_ok_of_plain :
    ¬∀ (config : SpoolConfig) (folder : Folder), folder.Plain →
      ∃ lines s', (mount config folder).restore = (.ok lines, s') := by
  intro ok
  obtain ⟨lines, s', restored⟩ := ok .default bursting (by decide)
  have seen : (mount .default bursting).restore.1 = .panicked .capacityOverflow := by
    rw [restore, list_bursting]
    decide +kernel
  rw [restored] at seen
  cases seen

end Spool

end MetricRelay
