import MqAssembler.CommandLine
import MqAssembler.Failure
import MqAssembler.FileStore
import MqAssembler.InstructionSet.Document
import MqAssembler.Listing
import MqAssembler.OutputPath
import MqAssembler.Program

/-! # A run of the assembler

A run loads the instruction set and the program, assembles, writes the executable and lists it if
asked to. It stops at the first failure, and nothing is written unless everything before succeeded.

## Implementation notes

The run is written for any monad with file access. The same steps act on any file system in the
theory and on that of the machine in the program. A run is also written for any format of documents,
since all it needs is that the bytes of a file decide what is loaded from it. -/

namespace MqAssembler

/-- How a run ends: its exit status and the lines it printed. -/
structure Outcome where
  status : Nat
  lines : List String
deriving DecidableEq, Repr

/-- A failure as the outcome of a run that has printed some lines. -/
def Failure.outcome (failure : Failure) (printed : List String) (source : Option SourceText) :
    Outcome :=
  ⟨1, printed ++ (failure.diagnose source).lines⟩

/-- A format of documents: the instruction sets and the programs that bytes describe. -/
structure DocumentFormat where
  instructionSet : List UInt8 → Except DocumentError InstructionSet
  program : List UInt8 → Except DocumentError Program

/-- The format of the program. -/
def DocumentFormat.yaml : DocumentFormat :=
  ⟨InstructionSet.ofBytes, Program.ofBytes⟩

section Access

variable {m : Type → Type} [Monad m] [FileAccess m]

/-- Reads a document from a file. -/
def loadDocument {α : Type} (path : String)
    (ofBytes : List UInt8 → Except DocumentError α) : m (Except Failure α) := do
  match ← FileAccess.read path with
  | .error .notFound => return .error (.fileOpen path)
  | .error (.failed reason) => return .error (.document path (.unreadable reason))
  | .ok bytes =>
      match ofBytes bytes with
      | .ok x => return .ok x
      | .error e => return .error (.document path e)

/-- Loads an instruction set. -/
def InstructionSet.load (path : String) : m (Except Failure InstructionSet) :=
  loadDocument path DocumentFormat.yaml.instructionSet

/-- Loads a program. -/
def Program.load (path : String) : m (Except Failure Program) :=
  loadDocument path DocumentFormat.yaml.program

/-- The source of a program, if it names one that can be read as text. -/
def Program.sourceText (p : Program) : m (Option SourceText) := do
  match p.source with
  | none => return none
  | some file =>
      match ← FileAccess.read file with
      | .error _ => return none
      | .ok bytes => return (Text.Utf8.decode? bytes).map fun s => ⟨file, Text.lines s⟩

/-- Writes an executable. -/
def writeExecutable (path : String) (bytes : List UInt8) : m (Except Failure Unit) := do
  match ← FileAccess.create path with
  | none => return .error (.fileCreate path)
  | some handle =>
      if ← FileAccess.fill handle bytes then return .ok ()
      else return .error (.fileWrite path)

/-- The output file of a request. -/
def Request.outputPath (r : Request) : String :=
  r.output.getD (OutputPath.ofInput r.input)

/-- Writes and lists an executable that has been assembled. -/
def Request.finish (r : Request) (set : InstructionSet) (printed : List String)
    (bytes : List UInt8) : m Outcome := do
  let printed := printed ++ ["  > " ++ r.outputPath]
  match ← writeExecutable r.outputPath bytes with
  | .error e => return e.outcome printed none
  | .ok () =>
      if r.dump then
        match Image.read bytes with
        | .error e => return (Failure.image e).outcome printed none
        | .ok image => return ⟨0, printed ++ Listing.lines image set.toTable⟩
      else return ⟨0, printed⟩

/-- Assembles a program that has been loaded. -/
def Request.build (r : Request) (set : InstructionSet) (program : Program)
    (printed : List String) : m Outcome := do
  let printed := printed ++ Message.linesOf (Message.repeatedIncludes program.includes) ++
    ["3. Generate Binary"]
  let assembled := assembleReporting r.verbose program.includes program.code set.toTable
  match assembled.result with
  | .error e => return (Failure.assembly e).outcome printed (← program.sourceText)
  | .ok bytes => r.finish set (printed ++ assembled.lines) bytes

/-- Carries out a request on documents of some format. -/
def Request.run (r : Request) (format : DocumentFormat) : m Outcome := do
  let printed := ["MQ Assembler", "1. Load Instruction Set", "  < " ++ r.isa]
  match ← loadDocument r.isa format.instructionSet with
  | .error e => return e.outcome printed none
  | .ok set =>
      let printed := printed ++ ["2. Load Program", "  < " ++ r.input]
      match ← loadDocument r.input format.program with
      | .error e => return e.outcome printed none
      | .ok program => r.build set program printed

/-- Carries out a command line. One that cannot be understood prints nothing. -/
def run (words : List String) : m Outcome :=
  match CommandLine.parse words with
  | none => return ⟨2, []⟩
  | some .help => return ⟨0, CommandLine.helpLines⟩
  | some .version => return ⟨0, [CommandLine.versionLine]⟩
  | some (.assemble request) => request.run .yaml

end Access

/-- Carries out a command line on a file store. -/
def runOn (store : FileStore) (words : List String) : Outcome × FileStore :=
  (run words : StateM FileStore Outcome).run store

end MqAssembler
