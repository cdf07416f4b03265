import MqAssembler.Executable.Buffer
import MqAssembler.Executable.Image
import MqAssembler.Instruction

/-! # Assembly

Include names and instructions become an executable, or the first fault in a fixed order: include
names, the size of their section, instructions, the size of theirs.

## Implementation notes

An executable is written into a buffer. The header comes first, when the sizes of the sections are
not known; each size is written into its field once the section is complete. -/

namespace MqAssembler

/-- The two sections of an executable. -/
inductive Segment where
  | includes
  | assembly
deriving DecidableEq, Repr

/-- The name of a section in a message. -/
def Segment.name : Segment → String
  | includes => "Include"
  | assembly => "Assembly"

/-- The largest size that the header can record for a section. -/
def Segment.sizeMax : Segment → Nat
  | includes => 65535
  | assembly => 4294967295

/-- Why a program cannot be assembled. -/
inductive AssemblyError where
  /-- An instruction has no word. -/
  | machine (e : MachineError)
  /-- An include name is not one line of ASCII. -/
  | nonAsciiInclude (name : String)
  /-- A section is larger than its size field can say. -/
  | sectionOverflow (segment : Segment) (size : Nat)
deriving DecidableEq, Repr

namespace AssemblyError

/-- The wording of a fault. -/
def message : AssemblyError → String
  | machine e => e.message
  | nonAsciiInclude name => "Include `" ++ name ++ "` is not a single line of ASCII text"
  | sectionOverflow segment size =>
      segment.name ++ " section is " ++ Text.decimal size ++ " bytes, exceeding its size field"

/-- The source line of the instruction at fault. -/
def line? : AssemblyError → Option Nat
  | machine e => e.line?
  | _ => none

end AssemblyError

/-- Refuses a section that its size field cannot describe. -/
def Segment.checkSize (segment : Segment) (size : Nat) : Except AssemblyError Unit :=
  if segment.sizeMax < size then .error (.sectionOverflow segment size) else .ok ()

/-- Where the header records the size of a section. -/
def Segment.sizePlace : Segment → Nat
  | includes => 4
  | assembly => 6

/-- How many bytes the header has for the size of a section. -/
def Segment.sizeWidth : Segment → Nat
  | includes => 2
  | assembly => 4

namespace Buffer

/-- A buffer with the version and with zeros in place of the sizes. -/
def reserved : Buffer :=
  empty.append Version.current.toBytes
    |>.append (List.replicate Segment.includes.sizeWidth 0)
    |>.append (List.replicate Segment.assembly.sizeWidth 0)

/-- Writes a name of the include section. -/
def writeName (b : Buffer) (name : String) : Except AssemblyError Buffer :=
  if IsIncludeName name then
    .ok ((b.append (IncludeName.toBytes name)).append [IncludeName.terminator])
  else .error (.nonAsciiInclude name)

/-- Writes the word of an instruction. -/
def writeInstruction (table : OpcodeTable) (b : Buffer) (i : Instruction) :
    Except AssemblyError Buffer :=
  match i.toWord table with
  | .ok word => .ok (b.append word.toBytes)
  | .error e => .error (.machine e)

/-- Writes a section item by item, and then its size into the header. -/
def writeSection {α : Type} (segment : Segment) (write : Buffer → α → Except AssemblyError Buffer)
    (items : List α) (b : Buffer) : Except AssemblyError (Nat × Buffer) := do
  let start := b.size
  let written ← items.foldlM write b
  let size := written.size - start
  segment.checkSize size
  return (size, written.overwrite segment.sizePlace (LittleEndian.encode segment.sizeWidth size))

/-- Writes an executable, and returns its header as well. -/
def writeExecutable (includes : List String) (code : List Instruction) (table : OpcodeTable) :
    Except AssemblyError (Header × Buffer) := do
  let (includeSize, b) ← writeSection .includes writeName includes reserved
  let (assemblySize, b) ← writeSection .assembly (writeInstruction table) code b
  return (Header.ofSizes includeSize assemblySize, b)

end Buffer

/-- The executable of some include names and instructions. -/
def assemble (includes : List String) (code : List Instruction) (table : OpcodeTable) :
    Except AssemblyError (List UInt8) := do
  let (_, b) ← Buffer.writeExecutable includes code table
  return b.toList

/-- An outcome together with the lines printed on the way to it. -/
structure Printed (α : Type) where
  result : α
  lines : List String

/-- Assembles, and prints the header summary of a finished executable if asked to. -/
def assembleReporting (verbose : Bool) (includes : List String) (code : List Instruction)
    (table : OpcodeTable) : Printed (Except AssemblyError (List UInt8)) :=
  match Buffer.writeExecutable includes code table with
  | .error e => ⟨.error e, []⟩
  | .ok (header, b) => ⟨.ok b.toList, if verbose then header.summary else []⟩

end MqAssembler
