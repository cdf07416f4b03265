import MqAssembler.Yaml.Document
import MqAssembler.Yaml.Scalar.Shape

/-! # Decoding documents

Decoders turn a node into a value of the domain. The first mismatch in document order is reported
with the path to it and the place of the offending node.

## Implementation notes

An alias is followed silently, so a mismatch behind it has the path of the alias and the place of
the anchored node. Since one alias may lead to many others, a document must not have more than a
hundred of them followed for each of its events. A key that is itself an alias leaves a question
mark in the path. An empty plain scalar counts as an empty list and as a record without fields; a
spelled-out null does not. A problem that belongs to no place of its own is reported at the
collection around it. -/

namespace MqAssembler.Yaml

/-- One step of a path. -/
inductive Segment where
  | key (text : String)
  /-- A key without a text of its own. -/
  | unknown
  | index (n : Nat)
deriving DecidableEq, Repr

/-- A path from the root, innermost step first. -/
abbrev Path := List Segment

/-- A path as written: keys are divided by dots, indices stand in brackets, and the root alone is
a dot. -/
def Path.render : Path → String
  | [] => "."
  | .index n :: outer => Path.render outer ++ "[" ++ Text.decimal n ++ "]"
  | .key text :: outer => under outer ++ text
  | .unknown :: outer => under outer ++ "?"
where
  /-- What stands in front of a key. -/
  under : Path → String
    | [] => ""
    | path => Path.render path ++ "."

/-- What is wrong with a node. -/
inductive Problem where
  | invalidType (found : Shape) (expected : String)
  | invalidValue (text : String) (expected : String)
  | tooLarge (n : Nat) (expected : String)
  | unknownVariant (name : String) (variants : String)
  | missingField (name : String)
  | duplicateField (name : String)
deriving DecidableEq, Repr

/-- The wording of a problem. -/
def Problem.message : Problem → String
  | invalidType found expected =>
      "invalid type: " ++ found.describe ++ ", expected " ++ expected
  | invalidValue text expected =>
      "invalid value: " ++ (Shape.string text).describe ++ ", expected " ++ expected
  | tooLarge n expected =>
      "invalid value: integer `" ++ Text.decimal n ++ "`, expected " ++ expected
  | unknownVariant name variants =>
      "unknown variant `" ++ name ++ "`, expected " ++ variants
  | missingField name => "missing field `" ++ name ++ "`"
  | duplicateField name => "duplicate field `" ++ name ++ "`"

/-- Where a problem is reported. -/
structure Location where
  path : Path
  place : Position
deriving DecidableEq, Repr

/-- Why a document does not hold what is expected of it. -/
inductive Mismatch where
  /-- A node is wrong. The location is left open until a collection around it gives its own. -/
  | misfit (problem : Problem) (location : Option Location)
  /-- Too many aliases are followed. -/
  | repetition
deriving DecidableEq, Repr

namespace Mismatch

/-- Settles a location that is left open. -/
def locate (path : Path) (place : Position) : Mismatch → Mismatch
  | misfit problem none => misfit problem (some ⟨path, place⟩)
  | m => m

/-- The wording of a mismatch. The root path and the very first place are left out. -/
def message : Mismatch → String
  | misfit problem none => problem.message
  | misfit problem (some ⟨path, place⟩) =>
      (if path.render = "." then "" else path.render ++ ": ") ++ problem.message ++
        (if place.line = 0 ∧ place.column = 0 then ""
         else " at line " ++ Text.decimal (place.line + 1) ++
           " column " ++ Text.decimal (place.column + 1))
  | repetition => "repetition limit exceeded"

end Mismatch

/-- Decoding, which counts the aliases that are followed. -/
abbrev Decoding := StateT Nat (Except Mismatch)

/-- Turns the node at a path of a document into a value. -/
abbrev Decoder (α : Type) := Document → Path → Value → Decoding α

namespace Value

/-- What is wrong with a node where something else is expected. A scalar that does not spell what
its tag calls for is reported as that. -/
def misfit (v : Value) (expected : String) : Problem :=
  match v with
  | scalar _ (some tag) style text =>
      match Tagged.shape tag style text with
      | .ok shape => .invalidType shape expected
      | .error called => .invalidValue text called
  | scalar _ none .plain text => .invalidType (Plain.shape text) expected
  | scalar _ none _ text => .invalidType (.string text) expected
  | sequence _ _ _ => .invalidType .sequence expected
  | mapping _ _ _ => .invalidType .mapping expected
  | reference _ _ => .invalidType .unit expected

/-- The non-negative integer that a node spells. A scalar must be plain for that, or a literal block
with the tag of integers. -/
def natural? : Value → Option Nat
  | scalar _ _ .plain text => Plain.natural? text
  | scalar _ tag .literal text => if tag = some .integer then Plain.natural? text else none
  | _ => none

end Value

namespace Decode

variable {α σ : Type}

/-- Reports a problem whose location is left open. -/
def fail (problem : Problem) : Decoding α := throw (.misfit problem none)

/-- Reports a problem at a location. -/
def failAt (path : Path) (place : Position) (problem : Problem) : Decoding α :=
  throw (.misfit problem (some ⟨path, place⟩))

/-- Reports a node that is not of the expected kind. -/
def wrongType (path : Path) (v : Value) (expected : String) : Decoding α :=
  failAt path v.place (v.misfit expected)

/-- Reports the problems whose location is left open at this one. -/
def locate (path : Path) (place : Position) (x : Decoding α) : Decoding α := fun followed =>
  (x followed).mapError (·.locate path place)

/-- The node that an alias stands for; any other node stands for itself. -/
def follow (doc : Document) (v : Value) : Decoding Value := fun followed =>
  match v with
  | .reference _ _ =>
      if followed < 100 * doc.size then .ok (doc.follow v, followed + 1) else .error .repetition
  | v => .ok (v, followed)

/-- The text of any scalar. -/
def text : Decoder String := fun doc path v => do
  match ← follow doc v with
  | .scalar _ _ _ s => return s
  | v => wrongType path v "a string"

/-- The text of a scalar, or nothing for a plain null. A plain scalar with the tag of absent values
must spell one out; any other tag makes it a text. -/
def optionalText : Decoder (Option String) := fun doc path v => do
  match ← follow doc v with
  | .scalar _ none .plain s => return if Plain.isNull s then none else some s
  | .scalar _ (some tag) .plain s =>
      if tag ≠ .null then return some s
      else if Plain.isNullWord s then return none
      else fail (.invalidValue s "null")
  | .scalar _ _ _ s => return some s
  | v => wrongType path v "a string"

/-- An integer below a bound, which is at most that of a word. -/
def natural (bound : Nat) (expected : String) : Decoder Nat := fun doc path v => do
  let v ← follow doc v
  match v.natural? with
  | some n =>
      if n < bound then return n
      else if n < wordBound then failAt path v.place (.tooLarge n expected)
      else wrongType path v expected
  | none => wrongType path v expected

/-- A list whose entries are decoded in order. -/
def list (item : Decoder α) : Decoder (List α) := fun doc path v => do
  match ← follow doc v with
  | .sequence place _ items =>
      locate path place (items.zipIdx.mapM fun p => item doc (.index p.2 :: path) p.1)
  | .scalar _ _ .plain "" => return []
  | v => wrongType path v "a sequence"

/-- The path step of a key. -/
def segment (key : Value) : Segment :=
  match key with
  | .scalar _ _ _ s => .key s
  | _ => .unknown

/-- One entry of a dictionary. -/
def dictionaryStep (value : Decoder α) (insert : σ → String → α → σ) (doc : Document)
    (path : Path) (state : σ) (entry : Value × Value) : Decoding σ := do
  let name ← text doc path entry.1
  let x ← value doc (segment entry.1 :: path) entry.2
  return insert state name x

/-- A dictionary whose entries are decoded and inserted in order. -/
def dictionary (value : Decoder α) (insert : σ → String → α → σ) (start : σ) : Decoder σ :=
  fun doc path v => do
    match ← follow doc v with
    | .mapping place _ entries =>
        locate path place (entries.foldlM (dictionaryStep value insert doc path) start)
    | .scalar _ _ .plain "" => return start
    | v => wrongType path v "a map"

/-- A field of a record: how its value changes the record. -/
structure Field (σ : Type) where
  name : String
  decode : σ → Decoder σ

/-- One entry of a record. The names of the fields met so far are carried along; an unknown key is
passed over with its value. -/
def recordStep (fields : List (Field σ)) (doc : Document) (path : Path)
    (state : σ × List String) (entry : Value × Value) : Decoding (σ × List String) := do
  match ← follow doc entry.1 with
  | .scalar _ _ _ name =>
      match fields.find? (·.name == name) with
      | none => return state
      | some field =>
          if name ∈ state.2 then fail (.duplicateField name)
          else
            let record ← field.decode state.1 doc (segment entry.1 :: path) entry.2
            return (record, name :: state.2)
  | key => wrongType path key "field identifier"

/-- A record whose fields are decoded in document order. A field in `required` must be there. -/
def record (expected : String) (fields : List (Field σ)) (required : List String) (start : σ) :
    Decoder σ := fun doc path v => do
  match ← follow doc v with
  | .mapping place _ entries =>
      locate path place do
        finish (← entries.foldlM (recordStep fields doc path) (start, []))
  | .scalar place _ .plain "" => locate path place (finish (start, []))
  | v => wrongType path v expected
where
  /-- The record, once its entries have been decoded. -/
  finish (state : σ × List String) : Decoding σ :=
    match required.find? fun name => !state.2.contains name with
    | some name => fail (.missingField name)
    | none => return state.1

end Decode

end MqAssembler.Yaml
