import MqAssembler.MachineError
import MqAssembler.Text.Utf8
import MqAssembler.Yaml.Decode

/-! # Faults of documents -/

namespace MqAssembler

/-- Why a file does not hold what is expected of it. -/
inductive DocumentError where
  /-- The text is not one well-formed YAML document. -/
  | malformed
  /-- The file cannot be read, for a reason that the system words. -/
  | unreadable (reason : String)
  /-- A node does not fit. -/
  | mismatch (m : Yaml.Mismatch)
  /-- An entry of an instruction set is refused. -/
  | table (e : MachineError)
deriving DecidableEq, Repr

/-- The wording of a fault. -/
def DocumentError.message : DocumentError → String
  | malformed => "not a well-formed YAML document"
  | unreadable reason => reason
  | mismatch m => m.message
  | table e => e.message

/-- The document of some bytes. -/
def Yaml.Document.ofBytes (bytes : List UInt8) : Except DocumentError Yaml.Document :=
  match (Text.Utf8.decode? bytes).bind Yaml.Document.parse with
  | some d => .ok d
  | none => .error .malformed

/-- Decodes the root of a document; a document without a root gives `absent`. -/
def Yaml.Document.decode {α : Type} (d : Yaml.Document) (decoder : Yaml.Decoder α) (absent : α) :
    Except DocumentError α :=
  match d.root with
  | none => .ok absent
  | some v =>
      match (decoder d [] v).run 0 with
      | .ok (x, _) => .ok x
      | .error m => .error (.mismatch m)

end MqAssembler
