import MqAssembler.Text.Layout
import Mathlib.Data.List.Basic

/-!
# Hexadecimal numerals

What it means that a text writes a number in upper-case hexadecimal with a least number of digits,
and that the numerals of listings do.

## Implementation notes

The meaning of a digit is its place in the list of all digits, so that the meaning of a numeral
does not go through the function that writes it. Leading zeros are only allowed as padding.
-/

namespace MqAssembler.Text

/-- The digits of upper-case hexadecimal numerals in the order of their values. -/
def hexDigits : List Char := "0123456789ABCDEF".toList

/-- The number that some digits denote, highest digit first. -/
def hexValue (digits : List Char) : Nat :=
  digits.foldl (fun n d => 16 * n + hexDigits.idxOf d) 0

/-- A text writes `n` in upper-case hexadecimal with at least `width` digits, and with more only if
the number needs them. -/
structure IsHexNumeral (width n : Nat) (text : String) : Prop where
  digits : ∀ d ∈ text.toList, d ∈ hexDigits
  width_le : width ≤ text.length
  value_eq : hexValue text.toList = n
  shortest : width < text.length → text.toList.head? ≠ some '0'

/-! ## Without padding -/

/-- The shortest upper-case hexadecimal digits of a number. -/
def upperDigits (n : Nat) : List Char :=
  (Nat.toDigits 16 n).map Char.toUpper

theorem upperDigit_spec : ∀ d < 16, d.digitChar.toUpper ∈ hexDigits ∧
    hexDigits.idxOf d.digitChar.toUpper = d ∧ (d.digitChar.toUpper = '0' → d = 0) := by
  decide

theorem upperDigits_eq_if (n : Nat) :
    upperDigits n =
      if n < 16 then [n.digitChar.toUpper]
      else upperDigits (n / 16) ++ [(n % 16).digitChar.toUpper] := by
  rw [upperDigits, Nat.toDigits_eq_if (by decide)]
  split
  · rfl
  · rw [List.map_append]
    rfl

theorem hexValue_append_singleton (digits : List Char) (d : Char) :
    hexValue (digits ++ [d]) = 16 * hexValue digits + hexDigits.idxOf d := by
  simp only [hexValue, List.foldl_append, List.foldl_cons, List.foldl_nil]

/-- The shortest digits of a number are hexadecimal, denote it, and start with zero only for
zero. -/
theorem upperDigits_spec (n : Nat) :
    (∀ d ∈ upperDigits n, d ∈ hexDigits) ∧ hexValue (upperDigits n) = n ∧
      ((upperDigits n).head? = some '0' → n = 0) ∧ 0 < (upperDigits n).length := by
  induction n using Nat.strongRecOn with
  | ind n ih =>
      rw [upperDigits_eq_if]
      split
      · rename_i hlt
        obtain ⟨hmem, hvalue, hzero⟩ := upperDigit_spec n hlt
        refine ⟨by simpa using hmem, ?_, by simpa using hzero, by simp⟩
        simp only [hexValue, List.foldl_cons, List.foldl_nil, hvalue]
        omega
      · rename_i hge
        obtain ⟨hmem, hvalue, hzero, hpos⟩ := ih (n / 16) (by omega)
        obtain ⟨hmem', hvalue', -⟩ := upperDigit_spec (n % 16) (Nat.mod_lt n (by decide))
        have hhead : (upperDigits (n / 16) ++ [(n % 16).digitChar.toUpper]).head? =
            (upperDigits (n / 16)).head? :=
          List.head?_append_of_ne_nil _ (List.ne_nil_of_length_pos hpos)
        refine ⟨?_, ?_, ?_, by simp⟩
        · intro d hd
          rcases List.mem_append.1 hd with hd | hd
          · exact hmem d hd
          · rw [List.mem_singleton.1 hd]
            exact hmem'
        · rw [hexValue_append_singleton, hvalue, hvalue']
          omega
        · intro hfirst
          rw [hhead] at hfirst
          have := hzero hfirst
          omega

/-! ## With padding -/

theorem toList_hex (width n : Nat) :
    (hex width n).toList =
      List.replicate (width - (upperDigits n).length) '0' ++ upperDigits n := by
  simp [hex, padLeft, upperDigits]

theorem hexValue_replicate_zero_append (count : Nat) (digits : List Char) :
    hexValue (List.replicate count '0' ++ digits) = hexValue digits := by
  induction count with
  | zero => rfl
  | succ count ih =>
      rw [List.replicate_succ, List.cons_append, ← ih]
      rfl

/-- A padded number is a hexadecimal numeral of at least the width asked for. -/
theorem isHexNumeral_hex {width : Nat} (hwidth : 0 < width) (n : Nat) :
    IsHexNumeral width n (hex width n) := by
  obtain ⟨hdigits, hvalue, hzero, hpos⟩ := upperDigits_spec n
  have hlist := toList_hex width n
  have hlength : (hex width n).length =
      width - (upperDigits n).length + (upperDigits n).length := by
    rw [← String.length_toList, hlist, List.length_append, List.length_replicate]
  refine ⟨?_, by omega, ?_, ?_⟩
  · intro d hd
    rw [hlist, List.mem_append] at hd
    rcases hd with hd | hd
    · rw [List.eq_of_mem_replicate hd]
      decide
    · exact hdigits d hd
  · rw [hlist, hexValue_replicate_zero_append, hvalue]
  · intro hlong hfirst
    -- a numeral longer than the width has no padding, and zero has one digit only
    have hpadding : width - (upperDigits n).length = 0 := by omega
    rw [hlist, hpadding, List.replicate_zero, List.nil_append] at hfirst
    have hn := hzero hfirst
    subst hn
    have hone : (upperDigits 0).length = 1 := rfl
    omega

/-- A numeral determines its number. -/
theorem hex_injective {width m n : Nat} (hwidth : 0 < width) (h : hex width m = hex width n) :
    m = n := by
  rw [← (isHexNumeral_hex hwidth m).value_eq, h, (isHexNumeral_hex hwidth n).value_eq]

/-- Two digits suffice for a byte. -/
theorem length_hex_byte (b : UInt8) : (hex 2 b.toNat).toList.length = 2 := by
  have hb : b.toNat < 256 := b.toNat_lt
  have hdigits : (upperDigits b.toNat).length ≤ 2 := by
    rw [upperDigits_eq_if]
    split
    · exact Nat.le_succ 1
    · rw [upperDigits_eq_if, if_pos (by omega)]
      exact Nat.le_refl 2
  rw [toList_hex, List.length_append, List.length_replicate]
  omega

end MqAssembler.Text
