import MqAssembler.Yaml.Event
import MqAssembler.Yaml.Token.Scan

/-! # Documents

A document is a tree of scalars, sequences and mappings in which an alias stands for the node that
carries its anchor.

## Implementation notes

An anchor is numbered when its node begins, by the number of anchor names known at that time. A
name that is defined again therefore takes a fresh number which the next new name will share, and
an alias means the latest node with its number. A node that contains an alias to itself is not
unfolded. -/

namespace MqAssembler.Yaml

/-- A node of a document. -/
inductive Value where
  | scalar (place : Position) (tag : Option Tag) (style : ScalarStyle) (text : String)
  | sequence (place : Position) (tag : Option Tag) (items : List Value)
  | mapping (place : Position) (tag : Option Tag) (entries : List (Value × Value))
  /-- Stands for the node with an anchor number. -/
  | reference (place : Position) (number : Nat)

/-- Where a node begins. -/
def Value.place : Value → Position
  | scalar place _ _ _ => place
  | sequence place _ _ => place
  | mapping place _ _ => place
  | reference place _ => place

/-- The tag of a node. -/
def Value.tag? : Value → Option Tag
  | scalar _ tag _ _ => tag
  | sequence _ tag _ => tag
  | mapping _ tag _ => tag
  | reference _ _ => none

/-- An anchored node: its number, and how many anchors began before it. -/
structure Anchored where
  number : Nat
  order : Nat
  value : Value

/-- A document: its root, if it has one, and its anchored nodes. -/
structure Document where
  root : Option Value
  anchored : List Anchored := []
  /-- How many events described it. -/
  size : Nat

namespace Document

/-- The later one of the best node so far and another. -/
def laterOf (best : Option Anchored) (a : Anchored) : Option Anchored :=
  match best with
  | some b => if b.order < a.order then some a else best
  | none => some a

/-- The latest node with an anchor number. -/
def target? (d : Document) (number : Nat) : Option Value :=
  ((d.anchored.filter (·.number == number)).foldl laterOf none).map (·.value)

/-- The node that an alias stands for; any other node stands for itself. -/
def follow (d : Document) (v : Value) : Value :=
  match v with
  | .reference _ number => (d.target? number).getD v
  | v => v

/-- The entries of a mapping whose keys and values alternate, latest first. -/
def pairUp : List Value → List (Value × Value) → List (Value × Value)
  | value :: key :: rest, entries => pairUp rest ((key, value) :: entries)
  | _, entries => entries

/-- A collection under way. -/
structure Frame where
  place : Position
  tag : Option Tag
  isMapping : Bool
  /-- Number and order of its anchor. -/
  anchor : Option (Nat × Nat)
  /-- The nodes in it so far, latest first. -/
  nodes : List Value := []

/-- The finished collection. -/
def Frame.close (f : Frame) : Value :=
  if f.isMapping then .mapping f.place f.tag (pairUp f.nodes [])
  else .sequence f.place f.tag f.nodes.reverse

/-- A document under way. -/
structure Draft where
  /-- The open collections, innermost first. -/
  frames : List Frame := []
  root : Option Value := none
  /-- The number of each anchor name. -/
  names : List (String × Nat) := []
  /-- How many anchors have begun. -/
  begun : Nat := 0
  anchored : List Anchored := []

namespace Draft

/-- Gives an anchor that begins here its number and order. -/
def begin (d : Draft) (anchor : Option String) : Option (Nat × Nat) × Draft :=
  match anchor with
  | none => (none, d)
  | some name =>
      let number := d.names.length
      let names := (name, number) :: d.names.filter fun p => p.1 != name
      (some (number, d.begun), { d with names, begun := d.begun + 1 })

/-- Keeps a finished node if it is anchored. -/
def keep (d : Draft) (anchor : Option (Nat × Nat)) (v : Value) : Draft :=
  match anchor with
  | none => d
  | some (number, order) => { d with anchored := ⟨number, order, v⟩ :: d.anchored }

/-- Puts a finished node into the innermost open collection. Outside of all it is the root. -/
def put (d : Draft) (v : Value) : Draft :=
  match d.frames with
  | [] => { d with root := some v }
  | f :: outer => { d with frames := { f with nodes := v :: f.nodes } :: outer }

/-- Adds a finished node. -/
def add (d : Draft) (anchor : Option (Nat × Nat)) (v : Value) : Draft :=
  (d.keep anchor v).put v

/-- One event. An alias without an anchor before it is refused. -/
def step (d : Draft) : Event → Option Draft
  | .scalar anchor tag style text place =>
      let (a, d) := d.begin anchor
      some (d.add a (.scalar place tag style text))
  | .reference name place =>
      (d.names.lookup name).map fun number => d.add none (.reference place number)
  | .sequenceStart anchor tag place =>
      let (a, d) := d.begin anchor
      some { d with frames := { place, tag, isMapping := false, anchor := a } :: d.frames }
  | .mappingStart anchor tag place =>
      let (a, d) := d.begin anchor
      some { d with frames := { place, tag, isMapping := true, anchor := a } :: d.frames }
  | .collectionEnd =>
      match d.frames with
      | [] => none
      | f :: outer => some ({ d with frames := outer }.add f.anchor f.close)

end Draft

/-- The document that some events describe. -/
def ofEvents (events : List Event) : Option Document := do
  let d ← events.foldlM Draft.step {}
  return ⟨d.root, d.anchored, events.length⟩

/-- The document of a text, unless the text is malformed. -/
def parse (text : String) : Option Document := do
  let tokens ← scan text.toList
  let events ← Event.ofTokens tokens
  ofEvents events

end Document

end MqAssembler.Yaml
