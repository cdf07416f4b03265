import MqAssembler.Text.Layout

/-! # Faults of words, opcode tables and scopes -/

namespace MqAssembler

/-- Why a word cannot be formed, a table entry not be added, or a child not be reached. -/
inductive MachineError where
  /-- A scope has no child at an index. -/
  | indexOutOfRange (index length : Nat)
  /-- The opcode table does not know a mnemonic. -/
  | unknownOpcode (mnemonic : String) (line : Nat)
  /-- An operand is wider than its field. -/
  | operandOverflow (value : UInt16) (line : Nat)
  /-- An opcode number is wider than its field. -/
  | opcodeOverflow (mnemonic : String) (number : UInt16)
  /-- A mnemonic or an opcode number is already taken. -/
  | duplicateOpcode (mnemonic : String) (number : UInt8)
deriving DecidableEq, Repr

namespace MachineError

open Text

/-- The wording of a fault. -/
def message : MachineError → String
  | indexOutOfRange index length =>
      "Index " ++ decimal index ++ " out of range for scope of length " ++ decimal length
  | unknownOpcode mnemonic _ => "Unknown operation: `" ++ mnemonic ++ "`"
  | operandOverflow value _ =>
      "Operand " ++ decimal value.toNat ++ " does not fit in 8 bits (max 255)"
  | opcodeOverflow mnemonic number =>
      "Opcode number " ++ decimal number.toNat ++ " of `" ++ mnemonic ++
        "` does not fit in 7 bits (max 127)"
  | duplicateOpcode mnemonic number =>
      "Re-defined operation: `" ++ mnemonic ++ "` = " ++ decimal number.toNat

/-- The source line of the instruction at fault, counted from one. Line zero means that the
origin is unknown. -/
def line? : MachineError → Option Nat
  | unknownOpcode _ line => if line = 0 then none else some line
  | operandOverflow _ line => if line = 0 then none else some line
  | _ => none

end MachineError

end MqAssembler
