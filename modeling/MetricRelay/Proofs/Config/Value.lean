import Mathlib.Data.Option.Basic
import MetricRelay.Config.Arguments
import MetricRelay.Proofs.Text.Utf8

namespace MetricRelay

namespace Config

section

variable {width width' n m : Nat} {s : List Char}

theorem le_of_readDigits (h : readDigits width n s = .ok m) : n ≤ m := by
  induction s generalizing n with
  | nil =>
    cases h
    exact Nat.le_refl _
  | cons c s ih =>
    simp only [readDigits] at h
    split_ifs at h
    have := ih h
    omega

theorem toOption_readDigits (narrow : width ≤ width') (h : n < Nat.pow 2 width) :
    (readDigits width n s).toOption =
      (readDigits width' n s).toOption.filter (· < Nat.pow 2 width) := by
  have bounds : Nat.pow 2 width ≤ Nat.pow 2 width' := Nat.pow_le_pow_right (by decide) narrow
  induction s generalizing n with
  | nil => simpa [readDigits, Except.toOption, Option.filter] using h
  | cons c s ih =>
    simp only [readDigits]
    by_cases digit : c.isDigit = true
    · simp only [digit, Bool.not_true, Bool.false_eq_true, if_false]
      by_cases below : 10 * n + (c.toNat - '0'.toNat) < Nat.pow 2 width
      · rw [if_neg (by omega), if_neg (by omega)]
        exact ih below
      · rw [if_pos (by omega)]
        split_ifs
        · rfl
        · cases read : readDigits width' (10 * n + (c.toNat - '0'.toNat)) s with
          | error e => rfl
          | ok m =>
            have := le_of_readDigits read
            have above : Nat.pow 2 width ≤ m := by omega
            simpa [Except.toOption, Option.filter] using above
    · simp [digit, Except.toOption]

theorem toOption_readNumber {text : String} (narrow : width ≤ width') :
    (readNumber width text).toOption =
      (readNumber width' text).toOption.filter (· < Nat.pow 2 width) := by
  have h : 0 < Nat.pow 2 width := Nat.pow_pos (by decide)
  unfold readNumber
  split
  · rfl
  · rfl
  · exact toOption_readDigits narrow h
  · exact toOption_readDigits narrow h

theorem toOption_readNumber_minus {text : String} (minus : text.toList = '-' :: s) :
    (readNumber width text).toOption = none := by
  have digit : '-'.isDigit = false := by decide
  simp [readNumber, minus, readDigits, digit, Except.toOption]

theorem readSigned?_minus {text : String} (minus : text.toList = '-' :: s) {z : Int}
    (h : readSigned? text = some z) : z ≤ 0 := by
  simp only [readSigned?, minus] at h
  split_ifs at h
  cases read : readDigits 64 0 s with
  | error e =>
    rw [read] at h
    cases h
  | ok n =>
    rw [read] at h
    cases h
    exact Int.neg_nonpos_of_nonneg (Int.natCast_nonneg n)

theorem readSigned?_of_ne {text : String} (plain : ∀ s, text.toList ≠ '-' :: s) :
    readSigned? text = (readNumber 64 text).toOption.map Int.ofNat := by
  unfold readSigned?
  split
  · exact absurd ‹_› (plain _)
  · cases readNumber 64 text <;> rfl

def ofInt? (width : Nat) (z : Int) : Option Nat :=
  if 0 ≤ z && z < Nat.pow 2 width then some z.toNat else none

theorem ofInt?_zero : ofInt? width 0 = some 0 := by
  have positive : (0 : Int) < Nat.pow 2 width := Int.natCast_pos.2 (Nat.pow_pos (by decide))
  exact if_pos (Bool.and_eq_true_iff.2 ⟨by decide, decide_eq_true positive⟩)

theorem toOption_numberOfArgument {text : String} :
    (numberOfArgument width text).toOption =
      (if width < 64 then readSigned? text
        else (readNumber width text).toOption.map Int.ofNat).bind (ofInt? width) := by
  have cast : ((readNumber width text).toOption.map fun n => (n : Int)) =
      (readNumber width text).toOption.map Int.ofNat := by
    cases readNumber width text <;> rfl
  rw [numberOfArgument, cast]
  generalize (if width < 64 then readSigned? text else _) = z
  cases z with
  | none => rfl
  | some z =>
    rw [Option.bind_some, ofInt?]
    dsimp only
    split_ifs <;> rfl

theorem bind_ofInt? (n : Option Nat) :
    (n.map Int.ofNat).bind (ofInt? width) = n.filter (· < Nat.pow 2 width) := by
  cases n with
  | none => rfl
  | some n =>
    have natural : ((n : Int) < 2 ^ width) = (n < 2 ^ width) := by norm_cast
    simp [ofInt?, Option.filter_some, natural]

theorem toOption_numberOfArgument_64 {text : String} :
    (numberOfArgument 64 text).toOption = (readNumber 64 text).toOption := by
  rw [toOption_numberOfArgument, if_neg (by decide), bind_ofInt?, ← toOption_readNumber le_rfl]

theorem toOption_numberOfArgument_or {text : String} (short : width < 64) :
    (numberOfArgument width text).toOption = (readNumber width text).toOption ∨
      (numberOfArgument width text).toOption = some 0 ∧
        (readNumber width text).toOption = none := by
  rw [toOption_numberOfArgument, if_pos short]
  by_cases minus : ∃ s, text.toList = '-' :: s
  · obtain ⟨s, minus⟩ := minus
    rw [toOption_readNumber_minus minus]
    cases read : readSigned? text with
    | none => exact .inl rfl
    | some z =>
      obtain below | rfl := Int.lt_or_eq_of_le (readSigned?_minus minus read)
      · exact .inl (by simp [ofInt?, below])
      · exact .inr ⟨ofInt?_zero, rfl⟩
  · rw [readSigned?_of_ne (not_exists.1 minus), bind_ofInt?, ← toOption_readNumber short.le]
    exact .inl rfl

end

section

variable {α : Type} {name : α → String} {choices : List α} {s : String}

theorem toOption_choiceOfArgument :
    (choiceOfArgument name choices (Text.bytes s)).toOption = readChoice? name choices s := by
  rw [choiceOfArgument, Text.decode?_bytes, Option.bind_some]
  cases readChoice? name choices s <;> rfl

theorem toOption_choiceOfArgument_of_eq (h : s.map Char.toLower = s) :
    (choiceOfArgument name choices (Text.bytes s)).toOption =
      (readChoice name choices s).toOption := by
  rw [toOption_choiceOfArgument, readChoice, h]
  cases readChoice? name choices s <;> rfl

theorem toOption_choiceOfArgument_of_ne
    (lower : ∀ a ∈ choices, (name a).map Char.toLower = name a) (h : s.map Char.toLower ≠ s) :
    (choiceOfArgument name choices (Text.bytes s)).toOption = none := by
  rw [toOption_choiceOfArgument]
  refine List.find?_eq_none.2 fun a mem same => h ?_
  rw [← of_decide_eq_true same, lower a mem]

end

end Config

/-- What arguments ask of a text and variables do not: that there are no capitals in the name of a
choice, and that a path is not empty. -/
def SettingKind.Strict : SettingKind → String → Prop
  | policy, s | level, s | format, s => s.map Char.toLower = s
  | path, s => s ≠ ""
  | text, _ | number _, _ | switch, _ => True

instance (k : SettingKind) (s : String) : Decidable (k.Strict s) :=
  match k with
  | .policy | .level | .format => inferInstanceAs (Decidable (s.map Char.toLower = s))
  | .path => inferInstanceAs (Decidable (s ≠ ""))
  | .text | .number _ | .switch => inferInstanceAs (Decidable True)

abbrev ValueReader := (k : SettingKind) → String → Option k.Value

namespace ValueReader

open Config hiding ofVariable ofArgument

def ofVariable : ValueReader := fun k text => (Config.ofVariable k text).toOption

def ofArgument : ValueReader := fun k text => (Config.ofArgument k (Text.bytes text)).toOption

variable {k : SettingKind} {s : String}

theorem ofArgument_number {width : Nat} :
    ofArgument (.number width) s = (numberOfArgument width s).toOption := by
  rw [ofArgument, Config.ofArgument, textOfArgument, Text.decode?_bytes]
  rfl

theorem ofVariable_number {width : Nat} :
    ofVariable (.number width) s = (readNumber width s).toOption := by
  rw [ofVariable, Config.ofVariable]
  cases readNumber width s <;> rfl

theorem ofArgument_number_or (s : String) {width : Nat} (short : width < 64) :
    ofArgument (.number width) s = ofVariable (.number width) s ∨
      ofArgument (.number width) s = some (0 : Nat) ∧ ofVariable (.number width) s = none := by
  rw [ofArgument_number, ofVariable_number]
  exact toOption_numberOfArgument_or short

theorem ofArgument_path (h : s ≠ "") : ofArgument .path s = some (Text.bytes s) := by
  have some_byte : (Text.bytes s).isEmpty = false := by
    rw [List.isEmpty_eq_false_iff, ← List.length_pos_iff, Text.length_bytes, Nat.pos_iff_ne_zero]
    exact mt String.utf8ByteSize_eq_zero_iff.1 h
  rw [ofArgument, Config.ofArgument, some_byte]
  rfl

theorem eq_bytes_of_ofArgument_path {p : Path} (h : ofArgument .path s = some p) :
    p = Text.bytes s := by
  by_cases empty : s = ""
  · subst empty
    cases h
  · rw [ofArgument_path empty] at h
    exact (Option.some.inj h).symm

theorem ofArgument_of_strict (wide : ∀ width, k = .number width → width = 64) (h : k.Strict s) :
    ofArgument k s = ofVariable k s := by
  cases k with
  | text =>
    rw [ofArgument, Config.ofArgument, textOfArgument, Text.decode?_bytes]
    rfl
  | number width =>
    obtain rfl := wide width rfl
    rw [ofArgument_number, ofVariable_number, toOption_numberOfArgument_64]
  | switch =>
    rw [ofArgument, Config.ofArgument, Text.decode?_bytes, ofVariable, Config.ofVariable,
      Option.bind_some]
    cases readSwitch? s <;> rfl
  | path => exact ofArgument_path h
  | policy => exact toOption_choiceOfArgument_of_eq h
  | level => exact toOption_choiceOfArgument_of_eq h
  | format => exact toOption_choiceOfArgument_of_eq h

theorem ofArgument_of_not_strict (h : ¬k.Strict s) : ofArgument k s = none := by
  cases k with
  | text => exact absurd trivial h
  | number width => exact absurd trivial h
  | switch => exact absurd trivial h
  | path =>
    rw [not_not.1 h]
    rfl
  | policy => exact toOption_choiceOfArgument_of_ne (by decide +kernel) h
  | level => exact toOption_choiceOfArgument_of_ne (by decide +kernel) h
  | format => exact toOption_choiceOfArgument_of_ne (by decide +kernel) h

end ValueReader

end MetricRelay
