import MqAssembler.Bracket
import MqAssembler.MachineError

/-! # Scopes

A scope is an ordered sequence of children within a pair of brackets; a child is an item or a
scope again.

## Implementation notes

A nested scope is stored in its node by its two parts, so that the tree is one inductive type and
functions on it are structural. -/

namespace MqAssembler

universe u

/-- A child of a scope. -/
inductive Node (α : Type u) where
  /-- A leaf. -/
  | item (value : α)
  /-- A nested scope. -/
  | scope (bracket : Bracket) (body : List (Node α))

/-- A sequence of children within brackets. -/
structure Scope (α : Type u) where
  bracket : Bracket := .none
  body : List (Node α) := []

namespace Node

variable {α : Type u}

mutual

/-- Structural equality of two nodes can be decided. -/
def decEq [DecidableEq α] : (a b : Node α) → Decidable (a = b)
  | .item x, .item y =>
      if h : x = y then isTrue (by rw [h]) else isFalse (by simpa using h)
  | .item _, .scope _ _ => isFalse (by simp)
  | .scope _ _, .item _ => isFalse (by simp)
  | .scope b xs, .scope c ys =>
      if h : b = c then
        match decEqAll xs ys with
        | isTrue hs => isTrue (by rw [h, hs])
        | isFalse hs => isFalse (by simp [hs])
      else isFalse (by simp [h])

/-- Structural equality of two sequences of nodes can be decided. -/
def decEqAll [DecidableEq α] : (as bs : List (Node α)) → Decidable (as = bs)
  | [], [] => isTrue rfl
  | [], _ :: _ => isFalse (by simp)
  | _ :: _, [] => isFalse (by simp)
  | a :: as, b :: bs =>
      match decEq a b with
      | isTrue h =>
          match decEqAll as bs with
          | isTrue hs => isTrue (by rw [h, hs])
          | isFalse hs => isFalse (by simp [hs])
      | isFalse h => isFalse (by simp [h])

end

instance [DecidableEq α] : DecidableEq (Node α) := decEq

mutual

/-- A node in plain text, given the text of items. -/
def render (item : α → String) : Node α → String
  | .item a => item a
  | .scope b body => b.wrap (" ".intercalate (renderAll item body))

/-- The texts of a sequence of nodes. -/
def renderAll (item : α → String) : List (Node α) → List String
  | [] => []
  | n :: rest => render item n :: renderAll item rest

end

mutual

/-- The items of a node in source order. -/
def flatten : Node α → List α
  | .item a => [a]
  | .scope _ body => flattenAll body

/-- The items of a sequence of nodes in source order. -/
def flattenAll : List (Node α) → List α
  | [] => []
  | n :: rest => flatten n ++ flattenAll rest

end

end Node

namespace Scope

variable {α : Type u}

instance [DecidableEq α] : DecidableEq (Scope α) := fun s t =>
  if hb : s.bracket = t.bracket then
    if hs : s.body = t.body then
      isTrue (by cases s; cases t; simp_all)
    else isFalse (fun h => hs (by rw [h]))
  else isFalse (fun h => hb (by rw [h]))

/-- The scope without children. -/
def empty (bracket : Bracket) : Scope α := ⟨bracket, []⟩

instance : Inhabited (Scope α) := ⟨empty .none⟩

/-- A scope as a child of another one. -/
def toNode (s : Scope α) : Node α := .scope s.bracket s.body

/-- Items side by side, without brackets. -/
def ofItems (items : List α) : Scope α := ⟨.none, items.map .item⟩

/-- The number of children. -/
def length (s : Scope α) : Nat := s.body.length

/-- Whether there are no children. -/
def isEmpty (s : Scope α) : Bool := s.body.isEmpty

/-- Adds a child at the end. -/
def push (s : Scope α) (node : Node α) : Scope α :=
  { s with body := s.body ++ [node] }

/-- The child at an index. -/
def get (s : Scope α) (index : Nat) : Except MachineError (Node α) :=
  match s.body[index]? with
  | some node => .ok node
  | none => .error (.indexOutOfRange index s.length)

/-- Replaces the child at an index and returns the child that stood there. -/
def set (s : Scope α) (index : Nat) (node : Node α) :
    Except MachineError (Node α × Scope α) :=
  match s.get index with
  | .ok previous => .ok (previous, { s with body := s.body.set index node })
  | .error e => .error e

/-- The items of the tree in source order. -/
def flatten (s : Scope α) : List α := Node.flattenAll s.body

/-- A scope in plain text: its children between the brackets, one blank apart. -/
def render (item : α → String) (s : Scope α) : String :=
  s.toNode.render item

end Scope

end MqAssembler
