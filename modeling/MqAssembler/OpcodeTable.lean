import MqAssembler.Dictionary

/-! # Opcode tables

A table answers two questions: the number of a mnemonic, and the mnemonic of a number. Listings
ask the second one. -/

namespace MqAssembler

/-- A lookup in both directions between mnemonics and opcode numbers. -/
structure OpcodeTable where
  /-- The number of a mnemonic. -/
  opcode? : String → Option UInt8
  /-- The mnemonic of a number. -/
  mnemonic? : UInt8 → Option String

namespace OpcodeTable

/-- Exact spelling in both directions. Of several mnemonics with one number the first answers. -/
def ordered (entries : Dictionary UInt8) : OpcodeTable where
  opcode? := entries.get?
  mnemonic? n := (entries.toList.find? (·.2 == n)).map (·.1)

/-- Exact spelling, and no answer to the mnemonic of a number. -/
def oneWay (entries : Dictionary UInt8) : OpcodeTable where
  opcode? := entries.get?
  mnemonic? _ := none

end OpcodeTable

end MqAssembler
