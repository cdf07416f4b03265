import MqAssembler.LittleEndian
import MqAssembler.MachineError
import MqAssembler.Mode

/-! # Instruction words

A word has sixteen bits: the mode in bit 15, the operand in bits 14 to 7 and the opcode in bits
6 to 0.

## Implementation notes

Fields are taken out by division, so that facts about them are facts about natural numbers. -/

namespace MqAssembler

/-- One encoded instruction. -/
structure Word where
  bits : UInt16
deriving DecidableEq, Repr, Inhabited

namespace Word

/-- The widest operand. -/
def operandMax : Nat := 255

/-- The widest opcode number. -/
def opcodeMax : Nat := 127

/-- The word with given fields, each within its width. -/
def ofFields (mode : Mode) (operand opcode : Nat) : Word :=
  ⟨UInt16.ofNat (mode.bit * 32768 + operand * 128 + opcode)⟩

/-- The mode field. -/
def mode (w : Word) : Mode :=
  Mode.ofNumber (w.bits.toNat / 32768)

/-- The operand field. -/
def operand (w : Word) : UInt16 :=
  UInt16.ofNat (w.bits.toNat / 128 % 256)

/-- The opcode field. -/
def opcode (w : Word) : UInt8 :=
  UInt8.ofNat (w.bits.toNat % 128)

/-- Packs the fields and refuses one that is wider than its place, the operand first. The mnemonic
and the line only describe the fault. -/
def pack (mode : Mode) (operand : UInt16) (mnemonic : String) (opcode : UInt8) (line : Nat) :
    Except MachineError Word :=
  if operandMax < operand.toNat then
    .error (.operandOverflow operand line)
  else if opcodeMax < opcode.toNat then
    .error (.opcodeOverflow mnemonic opcode.toUInt16)
  else
    .ok (ofFields mode operand.toNat opcode.toNat)

/-- The two bytes of a word, low byte first. -/
def toBytes (w : Word) : List UInt8 :=
  LittleEndian.encode 2 w.bits.toNat

/-- The word of a low and a high byte. -/
def ofBytes (low high : UInt8) : Word :=
  ⟨UInt16.ofNat (LittleEndian.decode [low, high])⟩

/-- The words of consecutive byte pairs, put in front of `done`, which is held backwards. -/
def readAfter (done : List Word) : List UInt8 → List Word
  | low :: high :: rest => readAfter (ofBytes low high :: done) rest
  | _ => done.reverse

/-- The words of consecutive byte pairs. An odd byte at the end is left out. -/
def readAll (bytes : List UInt8) : List Word :=
  readAfter [] bytes

/-- A word in four hexadecimal digits. -/
def render (w : Word) : String :=
  Text.hex 4 w.bits.toNat

theorem readAfter_eq (done : List Word) (bytes : List UInt8) :
    readAfter done bytes = done.reverse ++ readAll bytes := by
  suffices h : ∀ n, ∀ bytes : List UInt8, bytes.length ≤ n → ∀ done,
      readAfter done bytes = done.reverse ++ readAfter [] bytes from
    h bytes.length bytes (Nat.le_refl _) done
  intro n
  induction n with
  | zero =>
      intro bytes hlen done
      have hnil : bytes = [] := List.length_eq_zero_iff.1 (Nat.le_zero.1 hlen)
      subst hnil
      simp [readAfter]
  | succ n ih =>
      intro bytes hlen done
      match bytes, hlen with
      | [], _ => simp [readAfter]
      | [_], _ => simp [readAfter]
      | low :: high :: rest, hlen =>
          have hrest : rest.length ≤ n := by simp at hlen; omega
          rw [readAfter, readAfter, ih rest hrest, ih rest hrest [ofBytes low high]]
          simp

@[simp] theorem readAll_nil : readAll [] = [] := rfl

@[simp] theorem readAll_cons_cons (low high : UInt8) (rest : List UInt8) :
    readAll (low :: high :: rest) = ofBytes low high :: readAll rest := by
  rw [readAll, readAfter, readAfter_eq]
  rfl

end Word

end MqAssembler
