import Mathlib.Data.Bool.AllAny
import MetricRelay.Decimal.Positional
import MetricRelay.Proofs.Text.Quoted

namespace MetricRelay.Decimal

def isNumeral (c : Char) : Bool := c.isDigit || c == '.' || c == '-' || c == 'N' || c == 'a'

theorem isNumeral_of_isDigit {c : Char} (h : c.isDigit = true) : isNumeral c = true := by
  simp [isNumeral, h]

theorem isDigit_toDigits (n : Nat) : ∀ c ∈ Nat.toDigits 10 n, c.isDigit = true :=
  fun _ hc => Nat.isDigit_of_mem_toDigits (by decide) (by decide) hc

theorem isDigit_zeros (n : Nat) : ∀ c ∈ zeros n, c.isDigit = true := by
  intro c hc
  rw [List.eq_of_mem_replicate hc]
  rfl

theorem isNumeral_toDigits (n : Nat) : ∀ c ∈ Nat.toDigits 10 n, isNumeral c = true :=
  fun c hc => isNumeral_of_isDigit (isDigit_toDigits n c hc)

theorem isNumeral_zeros (n : Nat) : ∀ c ∈ zeros n, isNumeral c = true :=
  fun c hc => isNumeral_of_isDigit (isDigit_zeros n c hc)

theorem isNumeral_append {s t : List Char} (hs : ∀ c ∈ s, isNumeral c = true)
    (ht : ∀ c ∈ t, isNumeral c = true) : ∀ c ∈ s ++ t, isNumeral c = true :=
  List.forall_mem_append.2 ⟨hs, ht⟩

theorem isNumeral_pointed {digits : List Char} (h : ∀ c ∈ digits, isNumeral c = true)
    (places : Nat) : ∀ c ∈ pointed digits places, isNumeral c = true := by
  unfold pointed
  split
  · exact isNumeral_append h (List.all_eq_true.1 (by decide))
  · have padded := isNumeral_append (isNumeral_zeros (places + 1 - digits.length)) h
    refine isNumeral_append (fun c hc => padded c (List.mem_of_mem_take hc)) ?_
    exact List.forall_mem_cons.2 ⟨rfl, fun c hc => padded c (List.mem_of_mem_drop hc)⟩

theorem isNumeral_positional (d : Decimal) : ∀ c ∈ positional d, isNumeral c = true := by
  unfold positional
  dsimp only
  split
  · exact isNumeral_pointed (isNumeral_append (isNumeral_toDigits _) (isNumeral_zeros _)) _
  · exact isNumeral_pointed (isNumeral_toDigits _) _

theorem isNumeral_ofBits (b : UInt64) : ∀ c ∈ ofBits b, isNumeral c = true := by
  unfold ofBits
  split
  · exact List.all_eq_true.1 (by decide)
  · rename_i x _
    have text : ∀ c ∈ (if x.mantissa = 0 then ['0', '.', '0']
        else positional (Rounding.ofBinary64 x).shortest), isNumeral c = true := by
      split
      · exact List.all_eq_true.1 (by decide)
      · exact isNumeral_positional _
    dsimp only
    split
    · exact List.forall_mem_cons.2 ⟨rfl, text⟩
    · exact text

theorem needsQuotes_ofBits (b : UInt64) : Text.Quoted.needsQuotes (ofBits b) = false := by
  have other : ∀ c ∈ Text.Quoted.special, isNumeral c = false :=
    List.all_iff_forall_prop.1 (by decide)
  refine Text.Quoted.needsQuotes_eq_false.2 fun c hc there => ?_
  have numeral : isNumeral c = true := isNumeral_ofBits _ c hc
  rw [other c there] at numeral
  cases numeral

end MetricRelay.Decimal
