import MqAssembler.Scope.Cursor
import Mathlib.Algebra.Ring.Nat

/-!
# The order of leaves

A cursor on a scope answers the items of the tree in source order, one for each call, and nothing
from then on. Every call ends, however many scopes have to be entered or left before the next item
is met. The items collected without brackets make up a scope with the same leaves.

## Implementation notes

`Cursor.Call` spells out the loop behind a call and counts its passes, so that what a call does is
said once and each fact about it is an induction over its passes. A cursor stands for the items that
it still has to answer. This makes sense of every stack, also of those that no scope starts with,
and a call is then the same as taking the first item off a list.

Each pass lowers the weight of the stack by one. That holds of a pass that enters a scope as well:
the stack grows by a sequence, but the node that is given up weighs more than its children with the
sequence that holds them.
-/

namespace MqAssembler

universe u

variable {α : Type u}

namespace Node

mutual

/-- The passes that a node takes: one for an item, and for a scope those of its children and two
more to enter and to leave it. -/
def weight : Node α → Nat
  | .item _ => 1
  | .scope _ body => weightAll body + 2

/-- The passes that a sequence of nodes takes. -/
def weightAll : List (Node α) → Nat
  | [] => 0
  | n :: rest => weight n + weightAll rest

end

theorem flattenAll_map_item (items : List α) : flattenAll (items.map .item) = items := by
  induction items with
  | nil => rfl
  | cons a rest ih =>
      rw [List.map_cons, flattenAll, flatten, ih, List.singleton_append]

theorem flattenAll_append (front back : List (Node α)) :
    flattenAll (front ++ back) = flattenAll front ++ flattenAll back := by
  induction front with
  | nil => rfl
  | cons n rest ih =>
      rw [List.cons_append, flattenAll, flattenAll, ih, List.append_assoc]

end Node

namespace Cursor

/-! ## One call -/

/-- The items still to be answered, in the order of the answers. -/
def remaining (c : Cursor α) : List α :=
  c.stack.flatMap Node.flattenAll

/-- The passes left until a cursor is used up. -/
def weight (c : Cursor α) : Nat :=
  (c.stack.map fun nodes => Node.weightAll nodes + 1).sum

/-- The answer to a call, and the cursor that the following call meets. Once there is no answer,
every sequence has been left. -/
def call (c : Cursor α) : Option α × Cursor α :=
  match c.next with
  | some (a, rest) => (some a, rest)
  | none => (none, ⟨[]⟩)

/-- A call as a loop: `Call passes c answer after` says that a call on `c` ends after so many passes
with an answer and leaves `after`. Only the first two kinds of pass end the loop. -/
inductive Call : Nat → Cursor α → Option α → Cursor α → Prop
  | exhausted : Call 1 ⟨[]⟩ none ⟨[]⟩
  | item {a : α} {rest : List (Node α)} {outer : List (List (Node α))} :
      Call 1 ⟨(.item a :: rest) :: outer⟩ (some a) ⟨rest :: outer⟩
  | leave {passes : Nat} {outer : List (List (Node α))} {answer : Option α} {after : Cursor α}
      (h : Call passes ⟨outer⟩ answer after) : Call (passes + 1) ⟨[] :: outer⟩ answer after
  | enter {passes : Nat} {bracket : Bracket} {body rest : List (Node α)}
      {outer : List (List (Node α))} {answer : Option α} {after : Cursor α}
      (h : Call passes ⟨body :: rest :: outer⟩ answer after) :
      Call (passes + 1) ⟨(.scope bracket body :: rest) :: outer⟩ answer after

variable {c after : Cursor α} {answer : Option α} {passes : Nat}

/-- The loop ends with no other answer and no other cursor than those of the call. -/
theorem Call.call_eq (h : Call passes c answer after) : c.call = (answer, after) := by
  induction h with
  | exhausted => simp only [call, next, nextOf, Option.map_none]
  | item => simp only [call, next, nextOf, Option.map_some]
  | leave _ ih =>
      rw [← ih]
      simp only [call, next, nextOf]
  | enter _ ih =>
      rw [← ih]
      simp only [call, next]
      rw [nextOf]

/-- The loop ends, after one pass more than the weight of its cursor at the latest. -/
theorem exists_call (c : Cursor α) :
    ∃ passes ≤ c.weight + 1, ∃ answer after, Call passes c answer after := by
  obtain ⟨stack⟩ := c
  fun_induction nextOf stack with
  | case1 => exact ⟨1, Nat.le_refl 1, none, ⟨[]⟩, Call.exhausted⟩
  | case2 outer ih =>
      obtain ⟨passes, hpasses, answer, after, h⟩ := ih
      refine ⟨passes + 1, ?_, answer, after, Call.leave h⟩
      simp only [weight, Node.weightAll, List.map_cons, List.sum_cons] at hpasses ⊢
      omega
  | case3 a rest outer => exact ⟨1, by omega, some a, ⟨rest :: outer⟩, Call.item⟩
  | case4 bracket body rest outer ih =>
      obtain ⟨passes, hpasses, answer, after, h⟩ := ih
      refine ⟨passes + 1, ?_, answer, after, Call.enter h⟩
      simp only [weight, Node.weight, Node.weightAll, List.map_cons, List.sum_cons]
        at hpasses ⊢
      omega

/-- What a call answers and leaves is what its loop ends with. -/
theorem call_eq_iff :
    c.call = (answer, after) ↔ ∃ passes ≤ c.weight + 1, Call passes c answer after := by
  constructor
  · intro h
    obtain ⟨passes, hpasses, answer', after', hcall⟩ := exists_call c
    obtain ⟨rfl, rfl⟩ := Prod.mk.inj (hcall.call_eq.symm.trans h)
    exact ⟨passes, hpasses, hcall⟩
  · rintro ⟨passes, -, hcall⟩
    exact hcall.call_eq

/-- A call answers the first remaining item and leaves the others. -/
theorem Call.remaining_eq (h : Call passes c answer after) :
    answer = c.remaining.head? ∧ after.remaining = c.remaining.tail := by
  induction h with
  | exhausted => exact ⟨rfl, rfl⟩
  | item => exact ⟨rfl, rfl⟩
  | leave _ ih => exact ih
  | @enter passes bracket body rest outer answer after _ ih =>
      -- entering a scope does not change what is still to be answered
      have hsame : remaining ⟨(.scope bracket body :: rest) :: outer⟩ =
          remaining ⟨body :: rest :: outer⟩ := by
        simp only [remaining, List.flatMap_cons, Node.flattenAll, Node.flatten, List.append_assoc]
      rw [hsame]
      exact ih

theorem call_spec (c : Cursor α) :
    c.call.1 = c.remaining.head? ∧ c.call.2.remaining = c.remaining.tail := by
  obtain ⟨passes, -, hcall⟩ := call_eq_iff.1 (rfl : c.call = (c.call.1, c.call.2))
  exact hcall.remaining_eq

/-! ## Calls one after another -/

/-- The answers to some calls in a row. -/
def calls : Nat → Cursor α → List (Option α)
  | 0, _ => []
  | k + 1, c => c.call.1 :: calls k c.call.2

/-- Each call of a run answers the remaining item at its place, if there is one. -/
theorem calls_eq (k : Nat) (c : Cursor α) :
    calls k c = (List.range k).map fun n => c.remaining[n]? := by
  induction k generalizing c with
  | zero => rfl
  | succ k ih =>
      obtain ⟨hanswer, hrest⟩ := c.call_spec
      rw [calls, ih, hanswer, hrest, List.range_succ_eq_map, List.map_cons, List.map_map,
        List.head?_eq_getElem?]
      apply congrArg
      apply List.map_congr_left
      intro n _
      rw [List.getElem?_tail]
      rfl

theorem remaining_eq_nil_of_next (h : c.next = none) : c.remaining = [] := by
  have hanswer := c.call_spec.1
  rw [call, h] at hanswer
  exact List.head?_eq_none_iff.1 hanswer.symm

theorem remaining_eq_cons_of_next {a : α} {rest : Cursor α} (h : c.next = some (a, rest)) :
    c.remaining = a :: rest.remaining := by
  obtain ⟨hanswer, hrest⟩ := c.call_spec
  rw [call, h] at hanswer hrest
  obtain ⟨items, hitems⟩ := List.head?_eq_some_iff.1 hanswer.symm
  rw [hitems, List.tail_cons] at hrest
  rw [hitems, ← hrest]

theorem collect_eq (done : List α) (c : Cursor α) :
    collect done c = done.reverse ++ c.remaining := by
  fun_induction collect done c with
  | case1 done c h => rw [remaining_eq_nil_of_next h, List.append_nil]
  | case2 done c a rest h ih =>
      rw [ih, remaining_eq_cons_of_next h, List.reverse_cons, List.append_assoc,
        List.singleton_append]

end Cursor

/-! ## Scopes -/

namespace Scope

theorem remaining_cursor (s : Scope α) : s.cursor.remaining = s.flatten := by
  simp only [Cursor.remaining, cursor, List.flatMap_singleton, flatten]

theorem leaves_eq_flatten (s : Scope α) : s.leaves = s.flatten := by
  calc
    s.leaves = [].reverse ++ s.cursor.remaining := Cursor.collect_eq [] s.cursor
    _ = s.flatten := by rw [remaining_cursor, List.reverse_nil, List.nil_append]

theorem flatten_ofItems (items : List α) : (ofItems items).flatten = items :=
  Node.flattenAll_map_item items

/-- Every call on a cursor is a loop that ends, and the calls on a scope answer its items in source
order and nothing after them. The items collected into a scope stand side by side without brackets
and are its leaves again. -/
theorem leaves_are_items_in_source_order (s : Scope α) :
    (∀ (c : Cursor α) answer after,
      c.call = (answer, after) ↔
        ∃ passes ≤ c.weight + 1, Cursor.Call passes c answer after) ∧
    (∀ k, Cursor.calls k s.cursor = (List.range k).map fun n => s.flatten[n]?) ∧
    s.leaves = s.flatten ∧
    ofItems s.leaves = ⟨.none, s.flatten.map .item⟩ ∧
    (ofItems s.leaves).leaves = s.leaves := by
  refine ⟨fun c answer after => Cursor.call_eq_iff, ?_, s.leaves_eq_flatten, ?_, ?_⟩
  · intro k
    rw [Cursor.calls_eq, remaining_cursor]
  · rw [ofItems, leaves_eq_flatten]
  · rw [leaves_eq_flatten (ofItems s.leaves), flatten_ofItems]

end Scope

end MqAssembler
