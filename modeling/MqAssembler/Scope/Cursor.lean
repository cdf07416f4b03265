import MqAssembler.Scope.Basic

/-! # Walking the leaves of a scope

A cursor holds, for each scope that has been entered, the children still to be visited, innermost
scope first. Asking for the next item enters and leaves scopes until an item is met. -/

namespace MqAssembler

universe u

/-- A position within a scope tree: the children still to be visited, innermost scope first. -/
structure Cursor (α : Type u) where
  stack : List (List (Node α))

namespace Cursor

variable {α : Type u}

/-- The next item of the stacked sequences, and what is left after it. -/
def nextOf (stack : List (List (Node α))) : Option (α × List (List (Node α))) :=
  match stack with
  | [] => none
  | [] :: outer => nextOf outer
  | (.item a :: rest) :: outer => some (a, rest :: outer)
  | (.scope _ body :: rest) :: outer => nextOf (body :: rest :: outer)
termination_by sizeOf stack
decreasing_by all_goals simp_wf <;> omega

/-- The next item and the cursor after it. -/
def next (c : Cursor α) : Option (α × Cursor α) :=
  (nextOf c.stack).map fun p => (p.1, ⟨p.2⟩)

theorem sizeOf_lt_of_nextOf {stack : List (List (Node α))} {a : α} {rest : List (List (Node α))}
    (h : nextOf stack = some (a, rest)) : sizeOf rest < sizeOf stack := by
  fun_induction nextOf stack with
  | case1 => simp at h
  | case2 outer ih =>
      have := ih h
      simp
      omega
  | case3 b tail outer =>
      simp only [Option.some.injEq, Prod.mk.injEq] at h
      obtain ⟨_, rfl⟩ := h
      simp
  | case4 bracket body tail outer ih =>
      have := ih h
      simp at this ⊢
      omega

/-- All remaining items, put behind `done`, which is held backwards. -/
def collect (done : List α) (c : Cursor α) : List α :=
  match _h : c.next with
  | none => done.reverse
  | some (a, rest) => collect (a :: done) rest
termination_by sizeOf c.stack
decreasing_by
  simp only [next, Option.map_eq_some_iff, Prod.mk.injEq] at _h
  obtain ⟨p, hp, _, hr⟩ := _h
  subst hr
  exact sizeOf_lt_of_nextOf hp

/-- All remaining items. -/
def toList (c : Cursor α) : List α := collect [] c

end Cursor

/-- A cursor before the first item. -/
def Scope.cursor {α : Type u} (s : Scope α) : Cursor α := ⟨[s.body]⟩

/-- The items of the tree, met by a cursor. -/
def Scope.leaves {α : Type u} (s : Scope α) : List α := s.cursor.toList

end MqAssembler
