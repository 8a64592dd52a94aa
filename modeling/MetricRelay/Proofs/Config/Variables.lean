import MetricRelay.Proofs.Config.Accepted
import MetricRelay.Proofs.Config.Value

/-!
The two ways in which environment variables are read: all by themselves, and as what a command line
leaves open. They differ in which texts they take for a value, and in what a configuration file is to
them.
-/
namespace MetricRelay

namespace Config

theorem get?_set_of_ne {s s' : Setting} (h : s' ≠ s) (c : Config) (v : s.kind.Value) :
    (c.set s v).get? s' = c.get? s' := by
  cases s <;> cases s' <;> first | rfl | exact absurd rfl h

theorem eq_of_get? {c c' : Config} (h : ∀ s, c.get? s = c'.get? s) : c = c' := by
  have value {α : Type} {v v' : α} : some v = some v' → v = v' := Option.some.inj
  obtain ⟨⟩ := c
  obtain ⟨⟩ := c'
  rw [mk.injEq]
  exact ⟨value (h .host), value (h .port), value (h .checkPeriod), value (h .bufferCapacity),
    value (h .overflowPolicy), value (h .maxPendingWrites), value (h .connectTimeout),
    value (h .writeTimeout), value (h .viaHttp), value (h .httpEndpoint), h .username, h .password,
    value (h .httpTimeout), value (h .batchSize), value (h .failFast), h .spoolPath,
    value (h .maxSpool), h .input, value (h .logLevel), value (h .logFormat), h .configFile⟩

end Config

abbrev Variables := Setting → Option String

namespace Variables

/-- Of the variables that settings have, the environment sets these, to these texts. -/
def In (a : Variables) (env : Environment) : Prop :=
  ∀ s : Setting, s.envName?.bind (env.lookup ·) = (a s).map Text.bytes

def unset (a : Variables) (s : Setting) : Variables := fun s' => if s' = s then none else a s'

variable (read : ValueReader) (a : Variables)

/-- What `s` is to be by its variable. Without one it stays as it is `before`. -/
def told (s : Setting) (before : Option s.kind.Value) : Option (Option s.kind.Value) :=
  match a s with
  | none => some before
  | some text => (read s.kind text).map some

def step (c : Config) (s : Setting) : Option Config :=
  match a s with
  | none => some c
  | some text => (read s.kind text).map (c.set s)

/-- All settings are what the variables tell. -/
def Told (c : Config) : Prop := ∀ s, a.told read s (Config.default.get? s) = some (c.get? s)

variable {read a}

theorem step_eq_none {c : Config} {s : Setting} (h : a.step read c s = none)
    (before : Option s.kind.Value) : a.told read s before = none := by
  revert h
  unfold step told
  cases a s with
  | none =>
    intro h
    cases h
  | some text => simp

theorem step_eq_some {c c' : Config} {s : Setting} (h : a.step read c s = some c') :
    a.told read s (c.get? s) = some (c'.get? s) ∧ ∀ s' ≠ s, c'.get? s' = c.get? s' := by
  revert h
  unfold step told
  cases a s with
  | none => exact fun h => Option.some.inj h ▸ ⟨rfl, fun _ _ => rfl⟩
  | some text =>
    intro h
    obtain ⟨v, read, rfl⟩ := Option.map_eq_some_iff.1 h
    exact ⟨by simp [read], fun s' other => Config.get?_set_of_ne other c v⟩

theorem told_told {s : Setting} {before after : Option s.kind.Value}
    (h : a.told read s before = some after) : a.told read s after = a.told read s before := by
  revert h
  unfold told
  cases a s with
  | none => exact fun h => h.symm
  | some text => exact fun _ => rfl

theorem foldlM_step_eq_some {l : List Setting} {c c' : Config} :
    l.foldlM (a.step read) c = some c' ↔
      ∀ s, (if s ∈ l then a.told read s (c.get? s) else some (c.get? s)) = some (c'.get? s) := by
  induction l generalizing c with
  | nil =>
    simp only [List.foldlM_nil, pure, Option.some.injEq, List.not_mem_nil, if_false]
    exact ⟨fun same _ => by rw [same], Config.eq_of_get?⟩
  | cons s l ih =>
    rw [List.foldlM_cons]
    cases stepped : a.step read c s with
    | none =>
      refine iff_of_false (by simp) fun all => ?_
      have here := all s
      rw [if_pos List.mem_cons_self, step_eq_none stepped] at here
      cases here
    | some c₁ =>
      obtain ⟨here, others⟩ := step_eq_some stepped
      rw [Option.bind_eq_bind, Option.bind_some, ih]
      refine forall_congr' fun s' => ?_
      by_cases same : s' = s
      · subst same
        rw [if_pos List.mem_cons_self, here]
        -- The setting may come again, and is told what it has been told already.
        split
        · rw [told_told here, here]
        · rfl
      · rw [others s' same]
        simp only [List.mem_cons, same, false_or]

theorem isSome_step {c : Config} {s : Setting} :
    (a.step read c s).isSome ↔ ∀ text, a s = some text → (read s.kind text).isSome := by
  unfold step
  cases a s <;> simp

theorem isSome_foldlM_step {l : List Setting} {c : Config} :
    (l.foldlM (a.step read) c).isSome ↔
      ∀ s ∈ l, ∀ text, a s = some text → (read s.kind text).isSome := by
  induction l generalizing c with
  | nil => simp
  | cons s l ih =>
    rw [List.foldlM_cons, List.forall_mem_cons, ← isSome_step (c := c)]
    cases a.step read c s with
    | none => simp
    | some c₁ => simpa using ih

theorem In.eq_none {env : Environment} (h : a.In env) {s : Setting} (name : s.envName? = none) :
    a s = none := by
  have set := h s
  rw [name, Option.bind_none] at set
  exact Option.map_eq_none_iff.1 set.symm

theorem foldlM_step_eq_some_iff_told {l : List Setting} {c : Config}
    (covers : ∀ s ∉ l, a s = none) :
    l.foldlM (a.step read) .default = some c ↔ a.Told read c := by
  rw [foldlM_step_eq_some]
  refine forall_congr' fun s => ?_
  split
  · exact Iff.rfl
  · rw [told, covers s ‹_›]

theorem Told.get?_of_none {c : Config} (h : a.Told read c) {s : Setting} (unset : a s = none) :
    c.get? s = Config.default.get? s := by
  have told := h s
  rw [Variables.told, unset] at told
  exact (Option.some.inj told).symm

theorem Told.get?_of_some {c : Config} (h : a.Told read c) {s : Setting} {text : String}
    (set : a s = some text) : ∃ v, read s.kind text = some v ∧ c.get? s = some v := by
  have told := h s
  rw [Variables.told, set] at told
  obtain ⟨v, read, same⟩ := Option.map_eq_some_iff.1 told
  exact ⟨v, read, same.symm⟩

/-- Arguments and variables read the same from all texts, but for a zero with a minus sign. -/
def Strict (a : Variables) : Prop := ∀ s text, a s = some text → s.kind.Strict text

/-- All texts stand for values that arguments can have. -/
def Readable (a : Variables) : Prop :=
  ∀ s text, a s = some text → (ValueReader.ofArgument s.kind text).isSome

variable {c : Config} {d : Disk} {s : Setting}

theorem width_eq_of_ne_port (h : s ≠ .port) (width : Nat) (number : s.kind = .number width) :
    width = 64 := by
  cases s <;> simp_all [Setting.kind]

theorem told_iff_of_sound (sound : c.Sound d) (strict : a.Strict) (before : Option s.kind.Value) :
    a.told .ofArgument s before = some (c.get? s) ↔
      a.told .ofVariable s before = some (c.get? s) := by
  have kind := strict s
  revert kind
  unfold told
  cases a s with
  | none => exact fun _ => Iff.rfl
  | some text =>
    intro kind
    dsimp only
    by_cases port : s = .port
    · subst port
      obtain same | ⟨zero, none⟩ := ValueReader.ofArgument_number_or text (show 16 < 64 by decide)
      · exact iff_of_eq (congrArg (Option.map some · = _) same)
      -- The port is zero for an argument, which the check refuses, and no number for a variable.
      · refine iff_of_false (fun told => sound.port ?_) fun told => ?_
        · have told : (ValueReader.ofArgument (.number 16) text).map some = some (some c.port) :=
            told
          rw [zero] at told
          exact (Option.some.inj (Option.some.inj told)).symm
        · have told : (ValueReader.ofVariable (.number 16) text).map some = some (some c.port) :=
            told
          rw [none] at told
          cases told
    · rw [ValueReader.ofArgument_of_strict (width_eq_of_ne_port port) (kind text rfl)]

theorem not_told_of_not_strict (h : ¬a.Strict) : ¬a.Told .ofArgument c := by
  simp only [Strict, not_forall] at h
  obtain ⟨s, text, set, kind⟩ := h
  intro told
  have := told s
  simp [Variables.told, set, ValueReader.ofArgument_of_not_strict kind] at this

end Variables

namespace Config

variable {a : Variables} {env : Environment} {d : Disk} {c c' : Config}

theorem toOption_bind {ε α β : Type} (x : Except ε α) (f : α → Except ε β) :
    (x >>= f).toOption = x.toOption.bind fun v => (f v).toOption := by
  cases x <;> rfl

theorem toOption_mapError {ε ε' α : Type} (f : ε → ε') (x : Except ε α) :
    (x.mapError f).toOption = x.toOption := by
  cases x <;> rfl

theorem checked_eq_some : (c.checked d).toOption = some c' ↔ c' = c ∧ c.Sound d := by
  rw [checked, toOption_bind, ← validate_eq_ok_iff]
  cases c.validate d with
  | error e => simp [Except.toOption]
  | ok _ => simp [Except.toOption, pure, Except.pure, eq_comm]

theorem toOption_setFromEnvironment (h : a.In env) (c : Config) (s : Setting) :
    (setFromEnvironment env c s).toOption = a.step .ofVariable c s := by
  have set := h s
  unfold setFromEnvironment Variables.step ValueReader.ofVariable
  cases name : s.envName? with
  | none =>
    rw [h.eq_none name]
    rfl
  | some name' =>
    rw [name, Option.bind_some] at set
    dsimp only
    rw [set]
    cases a s with
    | none => rfl
    | some text =>
      simp only [Option.map_some, Option.bind_some, Text.decode?_bytes]
      cases Config.ofVariable s.kind text <;> rfl

theorem toOption_foldlM_setFromEnvironment (h : a.In env) (l : List Setting) (c : Config) :
    (l.foldlM (setFromEnvironment env) c).toOption = l.foldlM (a.step .ofVariable) c := by
  induction l generalizing c with
  | nil => rfl
  | cons s l ih =>
    rw [List.foldlM_cons, List.foldlM_cons, toOption_bind, toOption_setFromEnvironment h]
    exact congrArg _ (funext ih)

theorem mem_environmentOrder (s : Setting) (name : s.envName? ≠ none) : s ∈ environmentOrder := by
  cases s <;> first | decide | exact absurd rfl name

theorem fromEnvironment_eq_some (h : a.In env) :
    (fromEnvironment env d).toOption = some c ↔ a.Told .ofVariable c ∧ c.Sound d := by
  have covers (s : Setting) (unread : s ∉ environmentOrder) : a s = none :=
    h.eq_none (not_not.1 (mt (mem_environmentOrder s) unread))
  simp only [fromEnvironment, toOption_bind, toOption_foldlM_setFromEnvironment h,
    Option.bind_eq_some_iff, checked_eq_some, Variables.foldlM_step_eq_some_iff_told covers]
  constructor
  · rintro ⟨c, told, rfl, sound⟩
    exact ⟨told, sound⟩
  · rintro ⟨told, sound⟩
    exact ⟨c, told, rfl, sound⟩

theorem toOption_complete (h : a.In env) {r : Reading} {s : Setting} (fresh : s ∉ r.given) :
    (Reading.complete env r s).toOption.map Reading.config = a.step .ofArgument r.config s ∧
      ∀ r', Reading.complete env r s = .ok r' → r'.given ⊆ s :: r.given := by
  have absent : r.given.contains s = false := by simpa using fresh
  rw [Reading.complete, absent, if_neg (by decide), h s, Variables.step]
  cases a s with
  | none =>
    refine ⟨rfl, fun r' same => ?_⟩
    obtain rfl := Except.ok.inj same
    exact List.subset_cons_self s r.given
  | some text =>
    simp only [Option.map_some, Reading.setValue, ValueReader.ofArgument]
    cases ofArgument s.kind (Text.bytes text) with
    | error e =>
      refine ⟨rfl, fun r' same => ?_⟩
      cases same
    | ok v =>
      refine ⟨rfl, fun r' same => ?_⟩
      obtain rfl := Except.ok.inj same
      exact fun _ mem => mem

theorem toOption_foldlM_complete (h : a.In env) {l : List Setting} (distinct : l.Nodup)
    {r : Reading} (fresh : ∀ s ∈ l, s ∉ r.given) :
    (l.foldlM (Reading.complete env) r).toOption.map Reading.config =
      l.foldlM (a.step .ofArgument) r.config := by
  induction l generalizing r with
  | nil => rfl
  | cons s l ih =>
    obtain ⟨once, distinct⟩ := List.nodup_cons.1 distinct
    obtain ⟨here, fresh⟩ := List.forall_mem_cons.1 fresh
    obtain ⟨step, given⟩ := toOption_complete h here
    rw [List.foldlM_cons, List.foldlM_cons, toOption_bind, ← step]
    cases next : Reading.complete env r s with
    | error e => rfl
    | ok r' =>
      refine ih distinct fun s' mem there => ?_
      obtain rfl | there := List.mem_cons.1 (given r' next there)
      · exact once mem
      · exact fresh s' mem there

theorem toOption_readArguments (h : a.In env) (name : Bytes) :
    (readArguments [name] env).toOption = Setting.all.foldlM (a.step .ofArgument) default := by
  rw [← toOption_foldlM_complete h (r := ⟨default, [], none⟩) (by decide) (by simp)]
  have unfolded : readArguments [name] env =
      (do
        let r ← Setting.all.foldlM (Reading.complete env) ⟨default, [], none⟩
        return r.config) := rfl
  rw [unfolded, toOption_bind]
  cases Setting.all.foldlM (Reading.complete env) ⟨default, [], none⟩ <;> rfl

theorem readArguments_eq_some (h : a.In env) (name : Bytes) :
    (readArguments [name] env).toOption = some c ↔ a.Told .ofArgument c := by
  rw [toOption_readArguments h, Variables.foldlM_step_eq_some_iff_told]
  exact fun s other => absurd s.mem_all other

theorem isSome_readArguments (h : a.In env) (name : Bytes) :
    (readArguments [name] env).toOption.isSome ↔ a.Readable := by
  rw [toOption_readArguments h, Variables.isSome_foldlM_step]
  exact forall_congr' fun s => imp_iff_right s.mem_all

theorem fromArguments_eq_some_of_none (h : a.In env) {name : Bytes}
    (file : a .configFile = none) :
    (fromArguments [name] env d).toOption = some c ↔ a.Told .ofArgument c ∧ c.Sound d := by
  simp only [fromArguments, toOption_bind, toOption_mapError, Option.bind_eq_some_iff,
    readArguments_eq_some h]
  constructor
  · rintro ⟨c₁, told, made⟩
    rw [show c₁.configFile = none from told.get?_of_none file] at made
    obtain ⟨rfl, sound⟩ := checked_eq_some.1 made
    exact ⟨told, sound⟩
  · rintro ⟨told, sound⟩
    refine ⟨c, told, ?_⟩
    rw [show c.configFile = none from told.get?_of_none file]
    exact checked_eq_some.2 ⟨rfl, sound⟩

theorem toOption_fromArguments_of_file (h : a.In env) (readable : a.Readable) {name : Bytes}
    {file : String} (set : a .configFile = some file) :
    (fromArguments [name] env d).toOption =
      (fromFile (Text.bytes file) d).toOption.map fun c =>
        { c with configFile := some (Text.bytes file) } := by
  obtain ⟨c, read⟩ := Option.isSome_iff_exists.1 ((isSome_readArguments h name).2 readable)
  have told := (readArguments_eq_some h name).1 read
  have path : c.configFile = some (Text.bytes file) := by
    obtain ⟨p, read, path⟩ := told.get?_of_some set
    rw [← ValueReader.eq_bytes_of_ofArgument_path read]
    exact path
  have input : c.input = none := told.get?_of_none (s := .input) (h.eq_none rfl)
  simp only [fromArguments, toOption_bind, toOption_mapError, read, Option.bind_some, path, input]
  cases fromFile (Text.bytes file) d <;> rfl

theorem sound_configFile {file : Option Path} :
    { c with configFile := file }.Sound d ↔ c.Sound d := by
  rw [sound_iff, sound_iff]
  exact Iff.rfl

theorem get?_configFile_of_ne {file : Option Path} {s : Setting} (h : s ≠ .configFile) :
    { c with configFile := file }.get? s = c.get? s := by
  cases s <;> first | rfl | exact absurd rfl h

theorem told_unset_configFile {file : String} (set : a .configFile = some file) :
    a.Told .ofVariable c ↔ c.configFile = some (Text.bytes file) ∧
      (a.unset .configFile).Told .ofVariable { c with configFile := none } := by
  have rest (s : Setting) (other : s ≠ .configFile) :
      a.told .ofVariable s (default.get? s) = some (c.get? s) ↔
        (a.unset .configFile).told .ofVariable s (default.get? s) =
          some ({ c with configFile := none }.get? s) := by
    have same : { c with configFile := none }.get? s = c.get? s := get?_configFile_of_ne other
    rw [same, Variables.told, Variables.told, Variables.unset, if_neg other]
  have here : a.told .ofVariable .configFile none = some c.configFile ↔
      c.configFile = some (Text.bytes file) := by
    rw [Variables.told, set]
    exact ⟨fun told => (Option.some.inj told).symm, congrArg some ∘ Eq.symm⟩
  constructor
  · intro told
    refine ⟨here.1 (told .configFile), fun s => ?_⟩
    by_cases other : s = .configFile
    · subst other
      rfl
    · exact (rest s other).1 (told s)
  · rintro ⟨path, told⟩ s
    by_cases other : s = .configFile
    · subst other
      exact here.2 path
    · exact (rest s other).2 (told s)

theorem fromEnvironment_of_file (h : a.In env) {file : String} (set : a .configFile = some file)
    {env' : Environment} (h' : (a.unset .configFile).In env') :
    (fromEnvironment env d).toOption =
      (fromEnvironment env' d).toOption.map fun c =>
        { c with configFile := some (Text.bytes file) } := by
  refine Option.ext fun c => ?_
  rw [fromEnvironment_eq_some h, Option.map_eq_some_iff, told_unset_configFile set]
  simp only [fromEnvironment_eq_some h']
  constructor
  · rintro ⟨⟨path, told⟩, sound⟩
    exact ⟨_, ⟨told, sound_configFile.2 sound⟩, path ▸ rfl⟩
  · rintro ⟨c, ⟨told, sound⟩, rfl⟩
    have none_ : c.configFile = none := told.get?_of_none (if_pos rfl)
    refine ⟨⟨rfl, ?_⟩, sound_configFile.2 sound⟩
    rw [← none_]
    exact told

/-- What a command line without arguments and the environment make of the same variables. Without one
for a configuration file the command line gives what the environment does, or fails if some text is
not as arguments have to be. With one it gives what is in the file, if arguments could have all the
texts. The environment then gives what it does without it and notes the path, at which nobody
looks. -/
theorem fromArguments_of_variables (h : a.In env) (name : Bytes) :
    (a .configFile = none →
      (a.Strict → (fromArguments [name] env d).toOption = (fromEnvironment env d).toOption) ∧
      (¬a.Strict → (fromArguments [name] env d).toOption = none)) ∧
    ∀ file, a .configFile = some file →
      (a.Readable → (fromArguments [name] env d).toOption =
        (fromFile (Text.bytes file) d).toOption.map fun c =>
          { c with configFile := some (Text.bytes file) }) ∧
      (¬a.Readable → (fromArguments [name] env d).toOption = none) ∧
      ∀ env', (a.unset .configFile).In env' →
        (fromEnvironment env d).toOption = (fromEnvironment env' d).toOption.map fun c =>
          { c with configFile := some (Text.bytes file) } := by
  refine ⟨fun unset => ⟨fun strict => ?_, fun strict => ?_⟩, fun file set =>
    ⟨fun readable => ?_, fun readable => ?_, fun env' h' => ?_⟩⟩
  · refine Option.ext fun c => ?_
    rw [fromArguments_eq_some_of_none h unset, fromEnvironment_eq_some h]
    refine and_congr_left fun sound => forall_congr' fun s => ?_
    exact Variables.told_iff_of_sound sound strict _
  · refine Option.eq_none_iff_forall_ne_some.2 fun c made => ?_
    rw [fromArguments_eq_some_of_none h unset] at made
    exact Variables.not_told_of_not_strict strict made.1
  · exact toOption_fromArguments_of_file h readable set
  · rw [← isSome_readArguments h name, Option.not_isSome_iff_eq_none] at readable
    simp only [fromArguments, toOption_bind, toOption_mapError, readable, Option.bind_none]
  · exact fromEnvironment_of_file h set h'

theorem fromArguments_of_variables_level :
    let a : Variables := fun s =>
      match s with
      | .logLevel => some "WARN"
      | .port => some "7081"
      | _ => none
    let env : Environment :=
      [("HOME", [47]), ("TSD_LOG_LEVEL", Text.bytes "WARN"), ("TSD_PORT", Text.bytes "7081")]
    let d : Disk := .build [] [] []
    a.In env ∧ (fromArguments [Text.bytes "tsd-send"] env d).toOption = none ∧
      (fromEnvironment env d).toOption = some { default with logLevel := .warn, port := 7081 } := by
  intro a env d
  have set : a.In env := by
    intro s
    cases s <;> decide +kernel
  refine ⟨set, ?_, by decide +kernel⟩
  have strict : ¬a.Strict := fun strict => absurd (strict .logLevel "WARN" rfl) (by decide +kernel)
  exact ((fromArguments_of_variables set (Text.bytes "tsd-send")).1 rfl).2 strict

/-- A file that can be read is passed over where only the environment is looked at. -/
theorem fromArguments_ne_fromEnvironment :
    let env : Environment := [("TSD_CONFIG_FILE", Text.bytes "c.toml")]
    let d : Disk := .build [] [] [("c.toml", Text.bytes "port = 9000\n")]
    let file := some (Text.bytes "c.toml")
    let byArguments := (fromArguments [Text.bytes "tsd-send"] env d).toOption
    let byVariables := (fromEnvironment env d).toOption
    byArguments = some { default with port := 9000, configFile := file } ∧
      byVariables = some { default with configFile := file } ∧ byArguments ≠ byVariables := by
  decide +kernel

end Config

end MetricRelay
