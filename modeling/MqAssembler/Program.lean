import MqAssembler.DocumentError
import MqAssembler.Instruction
import MqAssembler.Scope.Basic

/-! # Programs

A program listing names its source file, its include names and its instructions. Every field may
be left out; an instruction must name its operation. -/

namespace MqAssembler

/-- A program ready for assembly. -/
structure Program where
  /-- The file that the lines of the instructions refer to. -/
  source : Option String := none
  includes : List String := []
  code : List Instruction := []
deriving DecidableEq, Repr, Inhabited

namespace Program

open Yaml

/-- What is wrong with a name that no addressing mode has. -/
def unknownMode (name : String) : Problem :=
  .unknownVariant name "`immediate` or `pointer`"

/-- The addressing mode of a node. A tag names it by itself, and then the node must be empty;
without a tag the text of the node names it. -/
def modeOf (path : Path) (v : Value) : Decoding Mode :=
  match v.tag?.bind Tag.name?, v with
  | some name, v =>
      match Mode.ofName? name, v with
      | none, _ => Decode.fail (unknownMode name)
      | some mode, .scalar place _ style s =>
          if style = .plain ∧ Plain.isNull s then return mode
          else Decode.failAt path place (.invalidValue s "null")
      | some _, v => Decode.wrongType path v "unit"
  | none, .scalar place _ _ name =>
      match Mode.ofName? name with
      | some mode => return mode
      | none => Decode.failAt path place (unknownMode name)
  | none, v => Decode.wrongType path v "a YAML tag starting with '!'"

/-- Reads an addressing mode. Behind an alias, a tag that names no mode is reported at the alias. -/
def modeDecoder : Decoder Mode := fun doc path v => do
  match v with
  | .reference place _ => Decode.locate path place (modeOf path (← Decode.follow doc v))
  | v => modeOf path v

/-- The fields of an instruction. -/
def instructionFields : List (Decode.Field Instruction) :=
  [⟨"op", fun i doc path v => do
      return { i with mnemonic := ← Decode.text doc path v }⟩,
   ⟨"value", fun i doc path v => do
      return { i with value := UInt16.ofNat (← Decode.natural 65536 "u16" doc path v) }⟩,
   ⟨"mode", fun i doc path v => do
      return { i with mode := ← modeDecoder doc path v }⟩,
   ⟨"line", fun i doc path v => do
      return { i with line := ← Decode.natural wordBound "usize" doc path v }⟩]

/-- Reads an instruction. -/
def instruction : Decoder Instruction :=
  Decode.record "struct Instruction" instructionFields ["op"] (Instruction.bare "" 0)

/-- The fields of a program. -/
def fields : List (Decode.Field Program) :=
  [⟨"source", fun p doc path v => do
      return { p with source := ← Decode.optionalText doc path v }⟩,
   ⟨"include", fun p doc path v => do
      return { p with includes := ← Decode.list Decode.text doc path v }⟩,
   ⟨"code", fun p doc path v => do
      return { p with code := ← Decode.list instruction doc path v }⟩]

/-- Reads a program. -/
def decoder : Decoder Program :=
  Decode.record "struct Program" fields [] {}

/-- The program of a document. -/
def ofDocument (d : Document) : Except DocumentError Program :=
  d.decode decoder {}

/-- The program that some bytes describe. -/
def ofBytes (bytes : List UInt8) : Except DocumentError Program := do
  ofDocument (← Document.ofBytes bytes)

/-- The program that a text describes. -/
def ofText (text : String) : Except DocumentError Program :=
  match Document.parse text with
  | some d => ofDocument d
  | none => .error .malformed

/-- The instructions as a scope. -/
def instructions (p : Program) : Scope Instruction := Scope.ofItems p.code

end Program

end MqAssembler
