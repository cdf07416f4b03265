import MqAssembler.OpcodeTable
import MqAssembler.Text.Lowercase
import MqAssembler.Word

/-! # Instruction sets

A case-insensitive table between mnemonics and opcode numbers, one to one in both directions.

## Implementation notes

There is one slot for each number a word can hold. A slot keeps a mnemonic in lower case, and a
mnemonic stands in at most one slot, so that two sets with the same entries are equal whatever
the order in which they were built. -/

namespace MqAssembler

/-- The mnemonic of each opcode number that is in use. -/
structure InstructionSet where
  slots : Vector (Option String) 128
deriving DecidableEq

namespace InstructionSet

/-- The set without entries. -/
def empty : InstructionSet := ⟨Vector.replicate 128 none⟩

instance : Inhabited InstructionSet := ⟨empty⟩

/-- The number whose slot holds exactly this mnemonic. -/
def numberOf? (set : InstructionSet) (mnemonic : String) : Option (Fin 128) :=
  (List.finRange 128).find? fun i => set.slots[i] == some mnemonic

/-- The number of a mnemonic in any letter case. -/
def opcode? (set : InstructionSet) (mnemonic : String) : Option UInt8 :=
  (set.numberOf? (Text.lowercase mnemonic)).map fun i => UInt8.ofNat i.val

/-- The lower-case mnemonic of a number. -/
def mnemonic? (set : InstructionSet) (number : UInt8) : Option String :=
  if h : number.toNat < 128 then set.slots[number.toNat] else none

/-- Adds an entry. The number must fit its field, and neither the mnemonic in lower case nor the
number may be taken. -/
def insert (set : InstructionSet) (mnemonic : String) (number : UInt16) :
    Except MachineError InstructionSet :=
  let name := Text.lowercase mnemonic
  if h : number.toNat < 128 then
    if (set.numberOf? name).isSome || set.slots[number.toNat].isSome then
      .error (.duplicateOpcode name (UInt8.ofNat number.toNat))
    else
      .ok ⟨set.slots.set number.toNat (some name)⟩
  else
    .error (.opcodeOverflow name number)

/-- Adds an entry to the set at hand and answers whether it was accepted. -/
def enter (mnemonic : String) (number : UInt16) :
    StateM InstructionSet (Except MachineError Unit) := do
  match (← get).insert mnemonic number with
  | .ok next =>
      MonadState.set next
      return .ok ()
  | .error e => return .error e

/-- The set of a list of entries, added one after another up to the first fault. -/
def ofPairs (pairs : List (String × UInt16)) : Except MachineError InstructionSet :=
  pairs.foldlM (fun set p => set.insert p.1 p.2) empty

/-- How many numbers are in use. -/
def size (set : InstructionSet) : Nat :=
  set.slots.toList.countP Option.isSome

/-- Whether no number is in use. -/
def isEmpty (set : InstructionSet) : Bool :=
  set.size == 0

/-- A set as an opcode table. -/
def toTable (set : InstructionSet) : OpcodeTable where
  opcode? := set.opcode?
  mnemonic? := set.mnemonic?

end InstructionSet

end MqAssembler
