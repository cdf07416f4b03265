import MqAssembler.Executable.Image
import MqAssembler.Instruction

/-! # Listings of executables

A listing shows the header summary, then one row for each include name and each word between two
rules. -/

namespace MqAssembler.Listing

open Text

/-- One row between the rules. -/
inductive Row where
  /-- An include name. -/
  | name (text : String)
  /-- A word at its address, with its instruction if the table can name the opcode. -/
  | word (address : Nat) (word : Word) (shown : Option Instruction)
deriving DecidableEq, Repr

/-- A word whose opcode has no name. -/
def unnamed (w : Word) : String :=
  Colour.red.paintBold ("op#" ++ decimal w.opcode.toNat) ++ " " ++ decimal w.operand.toNat

/-- The text of a row. -/
def Row.render : Row → String
  | name text => padRight 15 "" ++ "| " ++ Colour.green.paint "include" ++ " " ++ text
  | word address w shown =>
      "[" ++ hex 4 address ++ "] " ++ " ".intercalate (w.toBytes.map fun b => hex 2 b.toNat) ++
        " | " ++ (match shown with
          | some i => i.renderStyled
          | none => unnamed w)

/-- The line above and below the rows. -/
def rule : String :=
  String.ofList (List.replicate 15 '-' ++ ['+'] ++ List.replicate 40 '-')

/-- The rows of an image: include names, then words by address. -/
def rows (image : Image) (table : OpcodeTable) : List Row :=
  image.includes.map .name ++
    image.words.zipIdx.map fun p => .word p.2 p.1 (Instruction.ofWord? p.1 table)

/-- The lines of a listing. -/
def lines (image : Image) (table : OpcodeTable) : List String :=
  image.header.summary ++ [rule] ++ (rows image table).map Row.render ++ [rule]

/-- The printed text of a listing. -/
def render (image : Image) (table : OpcodeTable) : String :=
  printed (lines image table)

end MqAssembler.Listing
