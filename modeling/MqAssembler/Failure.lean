import MqAssembler.Assembly
import MqAssembler.DocumentError
import MqAssembler.Message

/-! # Failures and their diagnosis

Everything that can end a run early, with its wording and the source line it points at. -/

namespace MqAssembler

/-- Why a run ends early. -/
inductive Failure where
  /-- The program cannot be assembled. -/
  | assembly (e : AssemblyError)
  /-- Bytes are not an executable. -/
  | image (e : ImageError)
  /-- A file cannot be opened. -/
  | fileOpen (path : String)
  /-- A file cannot be created. -/
  | fileCreate (path : String)
  /-- A file cannot be written. -/
  | fileWrite (path : String)
  /-- A file does not hold what is expected of it. -/
  | document (path : String) (e : DocumentError)
deriving DecidableEq, Repr

namespace Failure

/-- The wording of a failure. -/
def message : Failure → String
  | assembly e => e.message
  | image e => e.message
  | fileOpen path => "Failed to open file: " ++ path
  | fileCreate path => "Failed to create file: " ++ path
  | fileWrite path => "Failed to write file: " ++ path
  | document path e => "Failed to parse " ++ path ++ ": " ++ e.message

/-- The source line at fault, counted from one. -/
def line? : Failure → Option Nat
  | assembly e => e.line?
  | _ => none

end Failure

/-- A source file by its lines. -/
structure SourceText where
  file : String
  lines : List String
deriving DecidableEq, Repr

/-- The place of a line in a source file. A line beyond the end is shown empty. -/
def SourceText.locate (source : SourceText) (line : Nat) : Location :=
  ⟨source.file, line, (source.lines[line - 1]?).getD ""⟩

/-- The message of a failure. It points at the source line if that is known and the source is at
hand. -/
def Failure.diagnose (failure : Failure) (source : Option SourceText) : Message :=
  { severity := .error
    text := failure.message
    location :=
      match source, failure.line? with
      | some text, some line => some (text.locate line)
      | _, _ => none }

end MqAssembler
