import Mathlib.Data.Bool.AllAny
import MetricRelay.Command.Line
import MetricRelay.Proofs.Decimal.Positional
import MetricRelay.Proofs.Text.Quoted

/-!
A reader for the lines of commands, which knows no more than where quotes open and close. It gets
back each token of a command, whatever is in its fields.
-/
namespace MetricRelay

open Text.Quoted

def Text.spelled (s : String) : String := String.ofList (oneLine s.toList)

theorem Text.spelled_of_plain {s : String} (h : needsQuotes s.toList = false) : spelled s = s := by
  rw [spelled, oneLine_of_plain h, String.ofList_toList]

/-- A token as it is read: a label that ends in a colon, and one field or two. -/
structure Word where
  label : String
  key : String
  value : Option String
  deriving DecidableEq, Repr

namespace Word

def cutLabel (s : List Char) : List Char × List Char :=
  let size := (s.takeWhile (· ≠ ':')).length + 1
  (s.take size, s.drop size)

def read (s : List Char) : Word :=
  let (label, s) := cutLabel s
  let (key, value) := cutOutside '=' false s
  ⟨String.ofList label, String.ofList (decode key),
    value.map fun value => String.ofList (decode value)⟩

def write (label key : List Char) (value : Option (List Char)) : List Char :=
  label ++ (encode key ++ value.elim [] fun value => '=' :: encode value)

def isLabel (s : List Char) : Bool := s.getLast? == some ':' && s.dropLast.all Char.isAlpha

theorem isLabel_eq_true {s : List Char} :
    isLabel s = true ↔ ∃ name, s = name ++ [':'] ∧ ∀ c ∈ name, c.isAlpha = true := by
  rw [isLabel, Bool.and_eq_true, beq_iff_eq, List.getLast?_eq_some_iff, List.all_eq_true]
  constructor
  · rintro ⟨⟨name, rfl⟩, letters⟩
    exact ⟨name, rfl, by simpa using letters⟩
  · rintro ⟨name, rfl, letters⟩
    exact ⟨⟨name, rfl⟩, by simpa using letters⟩

theorem ne_of_isAlpha {c d : Char} (hc : c.isAlpha = true) (hd : d.isAlpha = false) : c ≠ d := by
  rintro rfl
  rw [hc] at hd
  cases hd

section

variable {label : List Char} (h : isLabel label = true)

include h

theorem cutLabel_append (s : List Char) : cutLabel (label ++ s) = (label, s) := by
  obtain ⟨name, rfl, letters⟩ := isLabel_eq_true.1 h
  have before : (name ++ [':'] ++ s).takeWhile (· ≠ ':') = name := by
    rw [List.append_assoc, List.takeWhile_append_of_pos]
    · simp
    · intro c hc
      simpa using ne_of_isAlpha (letters c hc) (by decide)
  have size : (name ++ [':']).length = name.length + 1 := by simp
  rw [cutLabel, before, ← size, List.take_left, List.drop_left]

theorem sealed_label {sep : Char} (hsep : sep ≠ ':' ∧ sep.isAlpha = false) :
    Sealed sep false label := by
  obtain ⟨name, rfl, letters⟩ := isLabel_eq_true.1 h
  refine (sealed_of_forall fun c hc => ?_).append (sealed_of_forall ?_)
  · exact ⟨ne_of_isAlpha (letters c hc) hsep.2, ne_of_isAlpha (letters c hc) (by decide)⟩
  · simpa using hsep.1.symm

theorem not_hasBreak_label : ¬HasBreak label := by
  obtain ⟨name, rfl, letters⟩ := isLabel_eq_true.1 h
  simp only [HasBreak, List.mem_append, List.mem_singleton]
  rintro ((feed | feed) | (ret | ret))
  · exact ne_of_isAlpha (letters _ feed) (by decide) rfl
  · exact absurd feed (by decide)
  · exact ne_of_isAlpha (letters _ ret) (by decide) rfl
  · exact absurd ret (by decide)

variable (key : List Char) (value : Option (List Char))

theorem sealed_write : Sealed ' ' false (write label key value) := by
  refine (sealed_label h ⟨by decide, by decide⟩).append ?_
  refine (sealed_encode (by decide) (by decide) key).append ?_
  cases value with
  | none => rfl
  | some value =>
    exact ⟨fun e => absurd e.1 (by decide), sealed_encode (by decide) (by decide) value⟩

theorem not_hasBreak_write : ¬HasBreak (write label key value) := by
  have label_ := not_hasBreak_label h
  have key_ := not_hasBreak_encode key
  cases value with
  | none => simp_all [write, HasBreak]
  | some value =>
    have value_ := not_hasBreak_encode value
    simp_all [write, HasBreak]

theorem read_write : read (write label key value) =
    ⟨String.ofList label, String.ofList (oneLine key),
      value.map fun value => String.ofList (oneLine value)⟩ := by
  have sealed_key : Sealed '=' false (encode key) := sealed_encode (by decide) (by decide) key
  rw [read, write, cutLabel_append h]
  dsimp only
  rw [cutOutside_append sealed_key]
  cases value with
  | none => simp [cutOutside, decode_encode]
  | some value => simp [cutOutside, decode_encode]

end

end Word

namespace Token

open Text Word

def word : Token → Word
  | field label v => ⟨label, spelled v, none⟩
  | pair label k v => ⟨label, spelled k, some (spelled v)⟩
  | number label k v => ⟨label, spelled k, some (String.ofList (Decimal.ofFloat v))⟩
  | raw label text => ⟨label, text, none⟩

/-- What has no quotes around it does not need them. -/
def Regular : Token → Prop
  | field label _ => isLabel label.toList = true
  | pair label _ _ => isLabel label.toList = true
  | number label _ _ => isLabel label.toList = true
  | raw label text => isLabel label.toList = true ∧ needsQuotes text.toList = false

theorem needsQuotes_ofFloat (v : Float) : needsQuotes (Decimal.ofFloat v) = false :=
  Decimal.needsQuotes_ofBits v.toBits

theorem needsQuotes_toString (n : Int) : needsQuotes (toString n).toList = false := by
  have other : ∀ c ∈ special, c.isDigit = false ∧ c ≠ '-' :=
    List.all_iff_forall_prop.1 (by decide)
  have digits (n : Nat) {c : Char} (hc : c ∈ n.repr.toList) : c ∉ special := by
    intro there
    rw [Nat.repr_eq_ofList_toDigits, String.toList_ofList] at hc
    have digit := Nat.isDigit_of_mem_toDigits (by decide) (by decide) hc
    rw [(other c there).1] at digit
    cases digit
  rw [needsQuotes_eq_false, Int.toString_eq_repr, Int.repr_eq_if]
  intro c hc there
  split at hc
  · exact digits _ hc there
  · rw [String.toList_append, List.mem_append] at hc
    obtain sign | hc := hc
    · exact (other c there).2 (by simpa using sign)
    · exact digits _ hc there

theorem Regular.text_eq {t : Token} (h : t.Regular) :
    ∃ label key value, isLabel label = true ∧ t.text = write label key value ∧
      t.word = ⟨String.ofList label, String.ofList (oneLine key),
        value.map fun value => String.ofList (oneLine value)⟩ := by
  cases t with
  | field label v =>
    exact ⟨label.toList, v.toList, none, h, by simp [text, quoted, write],
      by simp [word, spelled]⟩
  | pair label k v =>
    exact ⟨label.toList, k.toList, some v.toList, h, by simp [text, quoted, write],
      by simp [word, spelled]⟩
  | number label k v =>
    have plain := needsQuotes_ofFloat v
    exact ⟨label.toList, k.toList, some (Decimal.ofFloat v), h,
      by simp [text, quoted, write, encode_of_plain plain],
      by simp [word, spelled, oneLine_of_plain plain]⟩
  | raw label s =>
    obtain ⟨h, plain⟩ := h
    exact ⟨label.toList, s.toList, none, h, by simp [text, write, encode_of_plain plain],
      by simp [word, oneLine_of_plain plain]⟩

theorem Regular.sealed {t : Token} (h : t.Regular) : Sealed ' ' false t.text := by
  obtain ⟨label, key, value, isLabel, text, -⟩ := h.text_eq
  exact text ▸ sealed_write isLabel key value

theorem Regular.not_hasBreak {t : Token} (h : t.Regular) : ¬HasBreak t.text := by
  obtain ⟨label, key, value, isLabel, text, -⟩ := h.text_eq
  exact text ▸ not_hasBreak_write isLabel key value

theorem Regular.read {t : Token} (h : t.Regular) : Word.read t.text = t.word := by
  obtain ⟨label, key, value, isLabel, text, word⟩ := h.text_eq
  rw [text, word, read_write isLabel]

end Token

structure Reading where
  name : String
  words : List Word
  deriving DecidableEq, Repr

namespace Reading

def ofLine (line : String) : Reading :=
  match splitOutside ' ' false line.toList.dropLast with
  | [] => ⟨"", []⟩
  | name :: tokens => ⟨String.ofList name, tokens.map Word.read⟩

variable {name : String} {tokens : List Token} (hname : name.toList.all Char.isAlpha = true)
  (h : ∀ t ∈ tokens, t.Regular)

include hname h

theorem ofLine_line : ofLine (line name tokens) = ⟨name, tokens.map Token.word⟩ := by
  have sealed_name : Sealed ' ' false name.toList := sealed_of_forall fun c hc => by
    have letter := List.all_eq_true.1 hname c hc
    exact ⟨Word.ne_of_isAlpha letter (by decide), Word.ne_of_isAlpha letter (by decide)⟩
  have sealed_tokens : ∀ s ∈ tokens.map Token.text, Sealed ' ' false s :=
    List.forall_mem_map.2 fun t ht => (h t ht).sealed
  have words : (tokens.map Token.text).map Word.read = tokens.map Token.word := by
    rw [List.map_map]
    exact List.map_congr_left fun t ht => (h t ht).read
  have cut := splitOutside_flatMap sealed_name sealed_tokens
  rw [List.flatMap_map] at cut
  rw [ofLine, line, String.toList_ofList, lineChars, List.dropLast_concat, cut]
  dsimp only
  rw [words, String.ofList_toList]

theorem line_eq : ∃ body, (line name tokens).toList = body ++ ['\n'] ∧ ¬HasBreak body := by
  refine ⟨_, String.toList_ofList, ?_⟩
  have in_name {c : Char} (hc : c.isAlpha = false) : c ∉ name.toList := fun there =>
    Word.ne_of_isAlpha (List.all_eq_true.1 hname c there) hc rfl
  simp only [HasBreak, List.mem_append, List.mem_flatMap, List.mem_cons]
  rintro ((there | ⟨t, ht, there | there⟩) | (there | ⟨t, ht, there | there⟩))
  · exact in_name (by decide) there
  · exact absurd there (by decide)
  · exact (h t ht).not_hasBreak (.inl there)
  · exact in_name (by decide) there
  · exact absurd there (by decide)
  · exact (h t ht).not_hasBreak (.inr there)

end Reading

namespace Command

open Text Word

def tagWords (label : String) (m : Tags) : List Word :=
  m.entries.map fun e => ⟨label, spelled e.1, some (spelled e.2)⟩

def numberWord (metric : String) (v : Float) : Word :=
  ⟨"m:", spelled metric, some (String.ofList (Decimal.ofFloat v))⟩

def detailWords : Command → List Word
  | series c =>
    tagWords "t:" c.tags ++ numberWord c.metric.text c.sample.value ::
      c.sample.text.toList.map fun text => ⟨"x:", spelled c.metric.text, some (spelled text)⟩
  | multipleInsert c =>
    tagWords "t:" c.tags ++ (c.numeric.entries.map fun e => numberWord e.1 e.2) ++
      tagWords "x:" c.texts
  | property c => ⟨"t:", spelled c.type.text, none⟩ :: (tagWords "k:" c.key ++ tagWords "v:" c.tags)
  | message c =>
    (c.type.toList.map fun type => ⟨"t:", "type", some (spelled type)⟩) ++
      (c.source.toList.map fun source => ⟨"t:", "source", some (spelled source)⟩) ++
      (c.severity.toList.map fun severity => ⟨"t:", "severity", some severity.name⟩) ++
      tagWords "t:" c.tags ++ if c.text = "" then [] else [⟨"m:", spelled c.text, none⟩]

/-- What the line of a command is to tell. -/
def words (c : Command) : List Word :=
  ⟨"e:", spelled c.entity, none⟩ ::
    ((c.time.toList.map fun t => ⟨"ms:", toString t, none⟩) ++ c.detailWords)

theorem spelled_severity (v : Severity) : spelled v.name = v.name := by
  cases v <;> exact spelled_of_plain (by decide)

theorem map_word_pairs (label : String) (m : Tags) :
    (Token.pairs label m).map Token.word = tagWords label m := by
  rw [Token.pairs, List.map_map]
  rfl

theorem map_word_numbers (m : OrderedMap Float) :
    (Token.numbers "m:" m).map Token.word = m.entries.map fun e => numberWord e.1 e.2 := by
  rw [Token.numbers, List.map_map]
  rfl

theorem map_word_optional (label key : String) (v : Option String) :
    (Token.optional label key v).map Token.word =
      v.toList.map fun v => ⟨label, spelled key, some (spelled v)⟩ := by
  rw [Token.optional, List.map_map]
  rfl

theorem map_word_details (c : Command) : c.details.map Token.word = c.detailWords := by
  cases c with
  | series c =>
    simp only [details, detailWords, List.map_append, List.map_cons, map_word_pairs,
      map_word_optional]
    rfl
  | multipleInsert c =>
    simp only [details, detailWords, List.map_append, map_word_pairs, map_word_numbers]
  | property c =>
    simp only [details, detailWords, List.map_append, List.map_cons, map_word_pairs]
    rfl
  | message c =>
    have reserved : spelled "type" = "type" ∧ spelled "source" = "source" ∧
        spelled "severity" = "severity" :=
      ⟨spelled_of_plain (by decide), spelled_of_plain (by decide), spelled_of_plain (by decide)⟩
    simp only [details, detailWords, List.map_append, map_word_pairs, map_word_optional, reserved,
      Option.toList_map, List.map_map, Function.comp_def, spelled_severity]
    congr 1
    by_cases empty : c.text = "" <;> simp [empty, Token.word]

theorem map_word_tokens (c : Command) : c.tokens.map Token.word = c.words := by
  rw [tokens, words, List.map_cons, List.map_append, map_word_details, List.map_map]
  rfl

theorem regular_pairs {label : String} (h : isLabel label.toList = true) (m : Tags) :
    ∀ t ∈ Token.pairs label m, t.Regular :=
  List.forall_mem_map.2 fun _ _ => h

theorem regular_optional {label : String} (h : isLabel label.toList = true) (key : String)
    (v : Option String) : ∀ t ∈ Token.optional label key v, t.Regular :=
  List.forall_mem_map.2 fun _ _ => h

theorem regular_details (c : Command) : ∀ t ∈ c.details, t.Regular := by
  have t : isLabel "t:".toList = true := by decide
  have m : isLabel "m:".toList = true := by decide
  have x : isLabel "x:".toList = true := by decide
  cases c with
  | series c =>
    refine List.forall_mem_append.2 ⟨regular_pairs t _, ?_⟩
    exact List.forall_mem_cons.2 ⟨m, regular_optional x _ _⟩
  | multipleInsert c =>
    refine List.forall_mem_append.2 ⟨List.forall_mem_append.2 ⟨regular_pairs t _, ?_⟩, ?_⟩
    · exact List.forall_mem_map.2 fun _ _ => m
    · exact regular_pairs x _
  | property c =>
    refine List.forall_mem_cons.2 ⟨t, List.forall_mem_append.2 ⟨?_, ?_⟩⟩
    · exact regular_pairs (by decide) _
    · exact regular_pairs (by decide) _
  | message c =>
    simp only [details, List.forall_mem_append]
    refine ⟨⟨⟨⟨?_, ?_⟩, ?_⟩, regular_pairs t _⟩, ?_⟩
    · exact regular_optional t _ _
    · exact regular_optional t _ _
    · exact regular_optional t _ _
    · split
      · exact List.forall_mem_nil _
      · exact List.forall_mem_singleton.2 m

theorem regular_tokens (c : Command) : ∀ t ∈ c.tokens, t.Regular := by
  refine List.forall_mem_cons.2 ⟨show isLabel _ = true by decide, ?_⟩
  refine List.forall_mem_append.2 ⟨List.forall_mem_map.2 fun n _ => ?_, c.regular_details⟩
  exact ⟨by decide, Token.needsQuotes_toString n⟩

theorem all_isAlpha_name (c : Command) : c.name.toList.all Char.isAlpha = true := by
  cases c <;> (rw [name]; decide)

/-- The line of a command is one line, from which its name and the words of its tokens are read
again, no more and no fewer and in their order. -/
theorem ofLine_compose (c : Command) :
    (∃ body, c.compose.toList = body ++ ['\n'] ∧ '\n' ∉ body ∧ '\r' ∉ body) ∧
      Reading.ofLine c.compose = ⟨c.name, c.words⟩ := by
  obtain ⟨body, text, unbroken⟩ := Reading.line_eq c.all_isAlpha_name c.regular_tokens
  refine ⟨⟨body, text, not_or.1 unbroken⟩, ?_⟩
  rw [compose, Reading.ofLine_line c.all_isAlpha_name c.regular_tokens, map_word_tokens]

example : Reading.ofLine "message e:\"h t:a=b\" t:\"k=\"\"m:x\"=\"\\n \" m:\"\"\" t:b=c\"\n" =
    ⟨"message", [⟨"e:", "h t:a=b", none⟩, ⟨"t:", "k=\"m:x", some "\\n "⟩,
      ⟨"m:", "\" t:b=c", none⟩]⟩ := by decide +kernel

end Command

end MetricRelay
