import MqAssembler.OpcodeTable
import MqAssembler.Text.Style
import MqAssembler.Word

/-! # Instructions

An instruction names its operation; the opcode table gives the number when a word is formed. -/

namespace MqAssembler

/-- An instruction ready for encoding. Line zero means that its source line is unknown. -/
structure Instruction where
  mnemonic : String
  value : UInt16 := 0
  mode : Mode := .immediate
  line : Nat := 0
deriving DecidableEq, Repr, Inhabited

namespace Instruction

open Text

/-- An instruction without an operand. -/
def bare (mnemonic : String) (line : Nat) : Instruction :=
  ⟨mnemonic, 0, .immediate, line⟩

/-- An instruction whose operand is a value. -/
def immediate (mnemonic : String) (value : UInt16) (line : Nat) : Instruction :=
  ⟨mnemonic, value, .immediate, line⟩

/-- An instruction whose operand is an address. -/
def pointer (mnemonic : String) (value : UInt16) (line : Nat) : Instruction :=
  ⟨mnemonic, value, .pointer, line⟩

/-- Looks up the opcode number and packs the word. -/
def toWord (i : Instruction) (table : OpcodeTable) : Except MachineError Word :=
  match table.opcode? i.mnemonic with
  | none => .error (.unknownOpcode i.mnemonic i.line)
  | some number => Word.pack i.mode i.value i.mnemonic number i.line

/-- The instruction of a word whose opcode the table can name. -/
def ofWord? (word : Word) (table : OpcodeTable) : Option Instruction :=
  (table.mnemonic? word.opcode).map fun mnemonic => ⟨mnemonic, word.operand, word.mode, 0⟩

/-- The operand as written: an address is marked. -/
def operandText (i : Instruction) : String :=
  match i.mode with
  | .pointer => "$" ++ decimal i.value.toNat
  | .immediate => decimal i.value.toNat

/-- An instruction in plain text. -/
def render (i : Instruction) : String :=
  i.mnemonic ++ " " ++ i.operandText

/-- An instruction in colour, its mnemonic padded to a column of six characters. -/
def renderStyled (i : Instruction) : String :=
  Colour.paintBoth .red (padRight 6 i.mnemonic)
    (match i.mode with | .pointer => .cyan | .immediate => .yellow) i.operandText

end Instruction

end MqAssembler
