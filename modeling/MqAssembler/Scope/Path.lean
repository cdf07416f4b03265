import MqAssembler.Scope.Basic

/-! # Places within a scope tree

A path lists child indices from the root; each but the last step enters a nested scope. -/

namespace MqAssembler

universe u v

/-- Why a path leads nowhere. -/
inductive PathError where
  /-- An index is refused by the scope reached so far. -/
  | refused (e : MachineError)
  /-- A step goes through an item. -/
  | throughItem
deriving DecidableEq, Repr

namespace Scope

variable {α : Type u} {β : Type v}

/-- A result of a single scope as a result on a path. -/
def onPath {γ : Type v} : Except MachineError γ → Except PathError γ
  | .ok x => .ok x
  | .error e => .error (.refused e)

/-- The scope at the end of a path. -/
def locate (s : Scope α) : List Nat → Except PathError (Scope α)
  | [] => .ok s
  | i :: path =>
      match s.get i with
      | .error e => .error (.refused e)
      | .ok (.item _) => .error .throughItem
      | .ok (.scope b body) => locate ⟨b, body⟩ path

/-- Changes the scope at the end of a path. If the change fails, the tree is left as it was. -/
def changeAt (change : Scope α → Except MachineError (β × Scope α)) (s : Scope α) :
    List Nat → Except PathError (β × Scope α)
  | [] => onPath (change s)
  | i :: path =>
      match s.get i with
      | .error e => .error (.refused e)
      | .ok (.item _) => .error .throughItem
      | .ok (.scope b body) =>
          match changeAt change ⟨b, body⟩ path with
          | .error e => .error e
          | .ok (result, inner) => .ok (result, { s with body := s.body.set i inner.toNode })

/-- The node at an index of the scope at the end of a path. -/
def getAt (s : Scope α) (path : List Nat) (index : Nat) : Except PathError (Node α) :=
  match s.locate path with
  | .error e => .error e
  | .ok inner => onPath (inner.get index)

/-- Replaces the node at an index of the scope at the end of a path and returns the node that
stood there. -/
def setAt (s : Scope α) (path : List Nat) (index : Nat) (node : Node α) :
    Except PathError (Node α × Scope α) :=
  s.changeAt (fun inner => inner.set index node) path

end Scope

end MqAssembler
