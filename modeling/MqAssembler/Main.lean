import MqAssembler.Run

/-! # The program -/

namespace MqAssembler

/-- The wording of a reason why an open file cannot be read. -/
def reasonOf : IO.Error → String
  | .inappropriateType _ code _ => "Is a directory (os error " ++ toString code ++ ")"
  | e => toString e

/-- Reads an open file to its end. -/
def readOpen (handle : IO.FS.Handle) : IO (Except ReadError (List UInt8)) := do
  try
    let bytes ← handle.readBinToEnd
    return .ok bytes.data.toList
  catch e =>
    return .error (.failed (reasonOf e))

/-- Reads a file of the file system. -/
def readFile (path : String) : IO (Except ReadError (List UInt8)) := do
  try
    readOpen (← IO.FS.Handle.mk path .read)
  catch _ =>
    return .error .notFound

/-- Creates or empties a file of the file system. -/
def createFile (path : String) : IO (Option IO.FS.Handle) := do
  try
    return some (← IO.FS.Handle.mk path .write)
  catch _ =>
    return none

/-- Writes bytes to a file that was created. -/
def fillFile (handle : IO.FS.Handle) (bytes : List UInt8) : IO Bool := do
  try
    handle.write ⟨bytes.toArray⟩
    handle.flush
    return true
  catch _ =>
    return false

instance : FileAccess IO where
  Handle := IO.FS.Handle
  read := readFile
  create := createFile
  fill := fillFile

end MqAssembler

/-- Runs the assembler on the command line. -/
def main (args : List String) : IO UInt32 := do
  let outcome : MqAssembler.Outcome ← MqAssembler.run args
  IO.print (MqAssembler.Text.printed outcome.lines)
  return UInt32.ofNat outcome.status
