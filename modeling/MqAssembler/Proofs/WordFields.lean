import MqAssembler.Assembly
import Mathlib.Data.List.Induction

/-!
# Words and their fields

A word is determined by its mode, its operand and its opcode, and every field that fits its place
comes back from the packed word. Packing therefore has one answer at most, and the words of a
program are the words that carry its instructions one by one.

## Implementation notes

Field facts are linear arithmetic over the number of a word. The places are 32768, 128 and 1, so
division and remainder by literals suffice and no bit operation is unfolded.
-/

namespace MqAssembler

namespace Word

theorem toNat_ofFields (mode : Mode) {operand opcode : Nat}
    (hoperand : operand ≤ operandMax) (hopcode : opcode ≤ opcodeMax) :
    (ofFields mode operand opcode).bits.toNat = mode.bit * 32768 + operand * 128 + opcode := by
  have hmode := mode.bit_le_one
  simp only [operandMax, opcodeMax] at hoperand hopcode
  simp only [ofFields, UInt16.toNat_ofNat']
  omega

theorem mode_ofFields {mode : Mode} {operand opcode : Nat}
    (hoperand : operand ≤ operandMax) (hopcode : opcode ≤ opcodeMax) :
    (ofFields mode operand opcode).mode = mode := by
  have hbits := toNat_ofFields mode hoperand hopcode
  simp only [operandMax, opcodeMax] at hoperand hopcode
  have hdiv : (ofFields mode operand opcode).bits.toNat / 32768 = mode.bit := by omega
  rw [Word.mode, hdiv, Mode.ofNumber_bit]

theorem operand_ofFields {mode : Mode} {operand : UInt16} {opcode : Nat}
    (hoperand : operand.toNat ≤ operandMax) (hopcode : opcode ≤ opcodeMax) :
    (ofFields mode operand.toNat opcode).operand = operand := by
  have hbits := toNat_ofFields mode hoperand hopcode
  simp only [operandMax, opcodeMax] at hoperand hopcode
  have hdiv : (ofFields mode operand.toNat opcode).bits.toNat / 128 % 256 = operand.toNat := by
    omega
  rw [Word.operand, hdiv, UInt16.ofNat_toNat]

theorem opcode_ofFields {mode : Mode} {operand : Nat} {opcode : UInt8}
    (hoperand : operand ≤ operandMax) (hopcode : opcode.toNat ≤ opcodeMax) :
    (ofFields mode operand opcode.toNat).opcode = opcode := by
  have hbits := toNat_ofFields mode hoperand hopcode
  simp only [operandMax, opcodeMax] at hoperand hopcode
  have hmod : (ofFields mode operand opcode.toNat).bits.toNat % 128 = opcode.toNat := by omega
  rw [Word.opcode, hmod, UInt8.ofNat_toNat]

theorem toNat_operand (w : Word) : w.operand.toNat = w.bits.toNat / 128 % 256 := by
  simp only [operand, UInt16.toNat_ofNat']
  omega

theorem toNat_opcode (w : Word) : w.opcode.toNat = w.bits.toNat % 128 := by
  simp only [opcode, UInt8.toNat_ofNat']
  omega

theorem bit_mode (w : Word) : w.mode.bit = w.bits.toNat / 32768 := by
  have hbits : w.bits.toNat < 65536 := w.bits.toNat_lt
  have hdiv : w.bits.toNat / 32768 = 0 ∨ w.bits.toNat / 32768 = 1 := by omega
  rcases hdiv with h | h <;> simp [mode, Mode.ofNumber, h, Mode.bit]

/-- The operand field of any word is within its width. -/
theorem operand_le (w : Word) : w.operand.toNat ≤ operandMax := by
  rw [toNat_operand, operandMax]
  omega

/-- The opcode field of any word is within its width. -/
theorem opcode_le (w : Word) : w.opcode.toNat ≤ opcodeMax := by
  rw [toNat_opcode, opcodeMax]
  omega

/-- A word is made up of its own fields. -/
theorem ofFields_fields (w : Word) :
    ofFields w.mode w.operand.toNat w.opcode.toNat = w := by
  have hsum : w.mode.bit * 32768 + w.operand.toNat * 128 + w.opcode.toNat = w.bits.toNat := by
    rw [bit_mode, toNat_operand, toNat_opcode]
    have hbits : w.bits.toNat < 65536 := w.bits.toNat_lt
    omega
  rw [ofFields, hsum, UInt16.ofNat_toNat]

/-- Packing yields a word exactly when that word has the given fields. The mnemonic and the line
do not matter. -/
theorem pack_eq_ok_iff {mode : Mode} {operand : UInt16} {mnemonic : String} {opcode : UInt8}
    {line : Nat} {w : Word} :
    pack mode operand mnemonic opcode line = .ok w ↔
      w.mode = mode ∧ w.operand = operand ∧ w.opcode = opcode := by
  constructor
  · intro h
    simp only [pack] at h
    split at h
    · cases h
    · split at h
      · cases h
      · rename_i hoperand hopcode
        have hw : ofFields mode operand.toNat opcode.toNat = w := Except.ok.inj h
        rw [Nat.not_lt] at hoperand hopcode
        subst hw
        exact ⟨mode_ofFields hoperand hopcode, operand_ofFields hoperand hopcode,
          opcode_ofFields hoperand hopcode⟩
  · rintro ⟨rfl, rfl, rfl⟩
    have hoperand := Nat.not_lt.2 w.operand_le
    have hopcode := Nat.not_lt.2 w.opcode_le
    simp only [pack, if_neg hoperand, if_neg hopcode, ofFields_fields]

/-! ## Words as bytes -/

theorem toBytes_ofBytes (low high : UInt8) : (ofBytes low high).toBytes = [low, high] := by
  have hlt : LittleEndian.decode [low, high] < 65536 := LittleEndian.decode_lt [low, high]
  have hbits : (ofBytes low high).bits.toNat = LittleEndian.decode [low, high] := by
    simp only [ofBytes, UInt16.toNat_ofNat', Nat.reducePow, Nat.mod_eq_of_lt hlt]
  rw [toBytes, hbits]
  exact LittleEndian.encode_decode [low, high]

/-- The bytes of a word are a low and a high byte that make up that word. -/
theorem exists_toBytes_eq (w : Word) :
    ∃ low high, w.toBytes = [low, high] ∧ ofBytes low high = w := by
  refine ⟨UInt8.ofNat w.bits.toNat, UInt8.ofNat (w.bits.toNat / 256), rfl, ?_⟩
  have hlt : w.bits.toNat < 65536 := w.bits.toNat_lt
  have hdecode := LittleEndian.decode_encode 2 w.bits.toNat
  have hmod : w.bits.toNat % LittleEndian.capacity 2 = w.bits.toNat := Nat.mod_eq_of_lt hlt
  rw [hmod] at hdecode
  change (⟨UInt16.ofNat (LittleEndian.decode (LittleEndian.encode 2 w.bits.toNat))⟩ : Word) = w
  rw [hdecode, UInt16.ofNat_toNat]

@[simp] theorem length_toBytes (w : Word) : w.toBytes.length = 2 :=
  LittleEndian.length_encode 2 w.bits.toNat

theorem length_flatMap_toBytes (words : List Word) :
    (words.flatMap toBytes).length = 2 * words.length := by
  induction words with
  | nil => rfl
  | cons w rest ih =>
      simp only [List.flatMap_cons, List.length_append, length_toBytes, ih, List.length_cons]
      omega

/-- The bytes of some words read back as these words. -/
theorem readAll_flatMap_toBytes (words : List Word) : readAll (words.flatMap toBytes) = words := by
  induction words with
  | nil => rfl
  | cons w rest ih =>
      obtain ⟨low, high, hbytes, hw⟩ := w.exists_toBytes_eq
      rw [List.flatMap_cons, hbytes]
      simp only [List.cons_append, List.nil_append, readAll_cons_cons, ih, hw]

/-- No byte of a section of even length is lost in its words. -/
theorem flatMap_toBytes_readAll {bytes : List UInt8} (heven : bytes.length % 2 = 0) :
    (readAll bytes).flatMap toBytes = bytes := by
  induction bytes using List.twoStepInduction with
  | nil => rfl
  | singleton b => simp at heven
  | cons_cons low high rest ih _ =>
      have hrest : rest.length % 2 = 0 := by
        simp only [List.length_cons] at heven
        omega
      rw [readAll_cons_cons, List.flatMap_cons, toBytes_ofBytes, ih hrest]
      rfl

end Word

/-! ## Instructions and the words that carry them -/

namespace Instruction

/-- The word `w` carries instruction `i`: its mode and value, and the number that the table gives
to its mnemonic. -/
structure CarriedBy (table : OpcodeTable) (i : Instruction) (w : Word) : Prop where
  mode_eq : w.mode = i.mode
  operand_eq : w.operand = i.value
  opcode_eq : table.opcode? i.mnemonic = some w.opcode

/-- Encoding an instruction yields exactly the word that carries it. -/
theorem toWord_eq_ok_iff {table : OpcodeTable} {i : Instruction} {w : Word} :
    i.toWord table = .ok w ↔ i.CarriedBy table w := by
  cases hnumber : table.opcode? i.mnemonic with
  | none =>
      simp only [toWord, hnumber, reduceCtorEq, false_iff]
      intro h
      have hsome := h.opcode_eq
      rw [hnumber] at hsome
      cases hsome
  | some number =>
      simp only [toWord, hnumber]
      rw [Word.pack_eq_ok_iff]
      constructor
      · rintro ⟨hmode, hoperand, hopcode⟩
        exact ⟨hmode, hoperand, by rw [hnumber, hopcode]⟩
      · intro h
        have hsome := h.opcode_eq
        rw [hnumber] at hsome
        exact ⟨h.mode_eq, h.operand_eq, (Option.some.inj hsome).symm⟩

end Instruction

end MqAssembler
