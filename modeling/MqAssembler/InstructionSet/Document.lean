import MqAssembler.DocumentError
import MqAssembler.InstructionSet

/-! # Instruction sets as documents

An instruction set is written as a mapping from mnemonics to numbers. A key that is repeated in the
same spelling keeps its place and takes its last number; only then are the entries added. -/

namespace MqAssembler.InstructionSet

open Yaml

/-- Reads the number of an entry. -/
def number : Decoder Nat := Decode.natural 65536 "u16"

/-- Adds an entry. -/
def addEntry (d : Dictionary UInt16) (name : String) (n : Nat) : Dictionary UInt16 :=
  d.insert name (UInt16.ofNat n)

/-- Reads the entries of an instruction set. -/
def entries : Decoder (Dictionary UInt16) :=
  Decode.dictionary number addEntry Dictionary.empty

/-- The instruction set of a document. -/
def ofDocument (d : Document) : Except DocumentError InstructionSet := do
  let pairs ← d.decode entries Dictionary.empty
  match ofPairs pairs.toList with
  | .ok set => .ok set
  | .error e => .error (.table e)

/-- The instruction set that some bytes describe. -/
def ofBytes (bytes : List UInt8) : Except DocumentError InstructionSet := do
  ofDocument (← Document.ofBytes bytes)

end MqAssembler.InstructionSet
