import MetricRelay.Proofs.Command.Reading
import MetricRelay.Proofs.Text.Lines

namespace MetricRelay

open Text Quoted

namespace Word

theorem endsBlank_label {label : List Char} (h : isLabel label = true) :
    endsBlank label = false := by
  obtain ⟨name, rfl, -⟩ := isLabel_eq_true.1 h
  exact endsBlank_concat name ':'

theorem write_ne_nil {label : List Char} (h : isLabel label = true) (key : List Char)
    (value : Option (List Char)) : write label key value ≠ [] := by
  obtain ⟨name, rfl, -⟩ := isLabel_eq_true.1 h
  simp [write]

end Word

theorem endsBlank_append_encode {front : List Char} (visible : endsBlank front = false)
    (s : List Char) :
    endsBlank (front ++ encode s) = (endsBlank s && !needsQuotes s) := by
  cases h : needsQuotes s with
  | true =>
    rw [encode_of_special h, ← List.cons_append, ← List.append_assoc, endsBlank_concat,
      Bool.not_true, Bool.and_false]
    decide
  | false =>
    rw [encode_of_plain h, Bool.not_false, Bool.and_true]
    by_cases empty : s = []
    · rw [empty, List.append_nil, visible]
      rfl
    · exact endsBlank_append empty front

namespace Token

def ending : Token → List Char
  | field _ v => v.toList
  | pair _ _ v => v.toList
  | number _ _ v => Decimal.ofFloat v
  | raw _ text => text.toList

def endsBlank (t : Token) : Bool := Text.endsBlank t.ending && !needsQuotes t.ending

theorem Regular.text_ne_nil {t : Token} (h : t.Regular) : t.text ≠ [] := by
  obtain ⟨label, key, value, isLabel, text, -⟩ := h.text_eq
  exact text ▸ Word.write_ne_nil isLabel key value

theorem Regular.endsBlank_text {t : Token} (h : t.Regular) :
    Text.endsBlank t.text = t.endsBlank := by
  cases t with
  | field label v => exact endsBlank_append_encode (Word.endsBlank_label h) _
  | pair label k v =>
    have front : Text.endsBlank (label.toList ++ quoted k ++ ['=']) = false :=
      endsBlank_concat _ _
    have := endsBlank_append_encode front v.toList
    rwa [List.append_assoc] at this
  | number label k v =>
    have front : Text.endsBlank (label.toList ++ quoted k ++ ['=']) = false :=
      endsBlank_concat _ _
    have := endsBlank_append_encode front (Decimal.ofFloat v)
    rwa [encode_of_plain (needsQuotes_ofFloat v), List.append_assoc] at this
  | raw label s =>
    obtain ⟨isLabel, plain⟩ := h
    have := endsBlank_append_encode (Word.endsBlank_label isLabel) s.toList
    rwa [encode_of_plain plain] at this

end Token

namespace Command

variable (c : Command)

def body : List Char := c.name.toList ++ c.tokens.flatMap fun t => ' ' :: t.text

theorem toList_compose : c.compose.toList = c.body ++ ['\n'] := String.toList_ofList

theorem lineFeed_notMem_body : '\n' ∉ c.body := by
  obtain ⟨body, text, unbroken⟩ := Reading.line_eq c.all_isAlpha_name c.regular_tokens
  obtain rfl := List.append_cancel_right (c.toList_compose.symm.trans text)
  exact (not_or.1 unbroken).1

theorem isBlank_compose : isBlank c.compose = false := by
  have name : isBlank c.name = false := by
    cases c <;> (rw [Command.name]; decide)
  rw [isBlank] at name
  rw [isBlank, toList_compose, body, List.all_append, List.all_append, name, Bool.false_and,
    Bool.false_and]

/-- There is white space at the end of the last token, and no quotes are around it. -/
def endsBlank : Bool := c.tokens.getLast?.any Token.endsBlank

theorem endsBlank_body : Text.endsBlank c.body = c.endsBlank := by
  obtain none_ | ⟨tokens, t, h⟩ := List.eq_nil_or_concat c.tokens
  · cases none_
  · have regular : t.Regular := c.regular_tokens t (by simp [h])
    rw [List.concat_eq_append] at h
    rw [endsBlank, body, h, List.getLast?_concat, Option.any_some, ← regular.endsBlank_text,
      List.flatMap_append, ← List.append_assoc, List.flatMap_singleton, ← List.singleton_append,
      ← List.append_assoc]
    exact endsBlank_append regular.text_ne_nil _

/-- The line as it is once it has been read. -/
def trimmed : String := (trimEnd c.compose).push '\n'

theorem toList_trimmed : c.trimmed.toList = dropBlanksEnd c.body ++ ['\n'] := by
  rw [trimmed, String.toList_push, trimEnd, String.toList_ofList, toList_compose,
    dropBlanksEnd_concat _ (by decide)]

theorem length_trimmed_le : c.trimmed.length ≤ c.compose.length := by
  rw [← String.length_toList, ← String.length_toList, toList_trimmed, toList_compose]
  simpa using length_dropBlanksEnd_le c.body

theorem trimmed_eq_iff : c.trimmed = c.compose ↔ c.endsBlank = false := by
  rw [← String.toList_inj, toList_trimmed, toList_compose, List.append_left_inj,
    dropBlanksEnd_eq_self_iff, endsBlank_body]

end Command

end MetricRelay
