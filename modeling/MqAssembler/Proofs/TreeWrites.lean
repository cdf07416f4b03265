import MqAssembler.Scope.Path
import MqAssembler.Proofs.LeafOrder

/-!
# Writes within a tree

A write at an index of a scope deep in a tree answers the child that stood there and changes the
tree at that place and nowhere else; writing that child back undoes it. A write that is refused
leaves the whole tree as it was.

## Implementation notes

`writeAt` treats the tree as a thing that is changed in place: it walks down to a scope, makes a
call there, and on the way back puts into each parent what the call has left, whether or not it
succeeded. That a refused write changes nothing is therefore a fact about the call, carried up by
induction. What a successful write does is said once, by the relation `Written` between the two
trees, and each law is an induction over it. The relation is symmetric in the two nodes, so a fact
about the old node at the place is also one about the new node.
-/

namespace MqAssembler

universe u

namespace Scope

variable {α : Type u}

/-! ## Calls on a scope within a tree -/

/-- Replaces a child of the scope at hand and answers the child that stood there. -/
def put (index : Nat) (node : Node α) : StateM (Scope α) (Except MachineError (Node α)) := do
  match (← MonadState.get).set index node with
  | .ok (previous, next) =>
      MonadState.set next
      return .ok previous
  | .error e => return .error e

/-- Makes a call on the scope at the end of a path. Each scope on the path takes what the call has
left in place of its child. -/
def within {β : Type u} (call : StateM (Scope α) (Except MachineError β)) :
    List Nat → StateM (Scope α) (Except PathError β)
  | [] => do return onPath (← call)
  | i :: path => do
      let s ← MonadState.get
      match s.get i with
      | .error e => return .error (.refused e)
      | .ok (.item _) => return .error .throughItem
      | .ok (.scope b body) =>
          let (answer, inner) := (within call path).run ⟨b, body⟩
          MonadState.set { s with body := s.body.set i inner.toNode }
          return answer

/-- Replaces the node at an index of the scope at the end of a path, in place. -/
def writeAt (path : List Nat) (index : Nat) (node : Node α) :
    StateM (Scope α) (Except PathError (Node α)) :=
  within (put index node) path

/-- The scope with another child at an index. -/
def setChild (s : Scope α) (i : Nat) (n : Node α) : Scope α :=
  { s with body := s.body.set i n }

variable {s t inner next : Scope α} {i j : Nat} {n m : Node α}

@[simp] theorem bracket_setChild : (s.setChild i n).bracket = s.bracket := rfl

@[simp] theorem length_setChild : (s.setChild i n).length = s.length :=
  List.length_set

theorem getElem?_setChild_self (h : s.body[i]? = some m) :
    (s.setChild i n).body[i]? = some n := by
  obtain ⟨hi, -⟩ := List.getElem?_eq_some_iff.1 h
  exact List.getElem?_set_self hi

theorem getElem?_setChild_ne (h : i ≠ j) : (s.setChild i n).body[j]? = s.body[j]? :=
  List.getElem?_set_ne h

theorem setChild_self (h : s.body[i]? = some n) : s.setChild i n = s := by
  obtain ⟨hi, rfl⟩ := List.getElem?_eq_some_iff.1 h
  rw [setChild, List.set_getElem_self]

/-- Putting the old child back undoes the change. -/
theorem setChild_setChild (h : s.body[i]? = some m) : (s.setChild i n).setChild i m = s := by
  calc
    (s.setChild i n).setChild i m = s.setChild i m := by
      simp only [setChild, List.set_set]
    _ = s := setChild_self h

theorem get_eq_ok_iff : s.get i = .ok n ↔ s.body[i]? = some n := by
  rw [get]
  cases s.body[i]? <;> simp

theorem get_of_length_le (h : s.length ≤ i) : s.get i = .error (.indexOutOfRange i s.length) := by
  rw [get, List.getElem?_eq_none h]

theorem get_setChild_ne (h : i ≠ j) : (s.setChild i n).get j = s.get j := by
  rw [get, get, getElem?_setChild_ne h, length_setChild]

theorem setAt_cons_of_scope (h : s.body[i]? = some t.toNode) (path : List Nat) (index : Nat)
    (node : Node α) :
    s.setAt (i :: path) index node =
      match t.setAt path index node with
      | .error e => .error e
      | .ok (previous, inner) => .ok (previous, s.setChild i inner.toNode) := by
  obtain ⟨b, body⟩ := t
  simp only [setAt, changeAt, get_eq_ok_iff.2 h, toNode]
  cases changeAt (fun inner => inner.set index node) ⟨b, body⟩ path with
  | error e => rfl
  | ok result => rfl

theorem run_put (s : Scope α) (index : Nat) (node : Node α) :
    (put index node).run s =
      match s.set index node with
      | .ok (previous, next) => (.ok previous, next)
      | .error e => (.error e, s) := by
  simp only [put, StateT.run_bind, StateT.run_get, pure_bind]
  cases s.set index node with
  | ok result => rfl
  | error e => rfl

theorem run_within_cons {β : Type u} (call : StateM (Scope α) (Except MachineError β))
    (s : Scope α) (i : Nat) (path : List Nat) :
    (within call (i :: path)).run s =
      match s.get i with
      | .error e => (.error (.refused e), s)
      | .ok (.item _) => (.error .throughItem, s)
      | .ok (.scope b body) =>
          let (answer, inner) := (within call path).run ⟨b, body⟩
          (answer, s.setChild i inner.toNode) := by
  simp only [within, StateT.run_bind, StateT.run_get, pure_bind]
  cases s.get i with
  | error e => rfl
  | ok n => cases n <;> rfl

/-- A write in place answers what a write that returns a new tree answers, and leaves that tree
behind. If it is refused, it leaves the tree as it was. -/
theorem run_writeAt (s : Scope α) (path : List Nat) (index : Nat) (node : Node α) :
    (writeAt path index node).run s =
      match s.setAt path index node with
      | .ok (previous, next) => (.ok previous, next)
      | .error e => (.error e, s) := by
  induction path generalizing s with
  | nil =>
      simp only [writeAt, within, StateT.run_bind, run_put, setAt, changeAt]
      cases s.set index node with
      | ok result => rfl
      | error e => rfl
  | cons i path ih =>
      rw [writeAt, run_within_cons]
      cases hget : s.get i with
      | error e => simp only [setAt, changeAt, hget]
      | ok n =>
          cases n with
          | item a => simp only [setAt, changeAt, hget]
          | scope b body =>
              have hchild : s.body[i]? = some (toNode ⟨b, body⟩) :=
                get_eq_ok_iff.1 hget
              rw [setAt_cons_of_scope hchild]
              have hinner := ih ⟨b, body⟩
              rw [writeAt] at hinner
              simp only [hinner]
              cases setAt ⟨b, body⟩ path index node with
              | ok result => rfl
              | error e =>
                  -- the scope below is put back as it was
                  exact congrArg (Prod.mk _) (setChild_self hchild)

/-! ## What a write does -/

/-- A path leads from a scope to another one: every index is in range, and every step enters a
nested scope. -/
inductive LeadsTo : Scope α → List Nat → Scope α → Prop
  | here {s : Scope α} : LeadsTo s [] s
  | step {s t inner : Scope α} {i : Nat} {path : List Nat}
      (hchild : s.body[i]? = some t.toNode) (hrest : LeadsTo t path inner) :
      LeadsTo s (i :: path) inner

/-- What a write at a place makes of a tree. The written scope gets another child, and so does each
scope on the way to it. -/
inductive Written (index : Nat) (node previous : Node α) : List Nat → Scope α → Scope α → Prop
  | here {s next : Scope α} (hchild : s.body[index]? = some previous)
      (hnext : next = s.setChild index node) : Written index node previous [] s next
  | deeper {s t inner next : Scope α} {i : Nat} {path : List Nat}
      (hchild : s.body[i]? = some t.toNode) (hinner : Written index node previous path t inner)
      (hnext : next = s.setChild i inner.toNode) : Written index node previous (i :: path) s next

variable {path : List Nat} {index : Nat} {node previous : Node α}

theorem LeadsTo.exists_written (h : s.LeadsTo path inner)
    (hchild : inner.body[index]? = some previous) (node : Node α) :
    ∃ next, Written index node previous path s next := by
  induction h with
  | here => exact ⟨_, .here hchild rfl⟩
  | step hstep _ ih =>
      obtain ⟨inner', hinner⟩ := ih hchild
      exact ⟨_, .deeper hstep hinner rfl⟩

theorem Written.setAt_eq (h : Written index node previous path s next) :
    s.setAt path index node = .ok (previous, next) := by
  induction h with
  | here hchild hnext =>
      subst hnext
      simp only [setAt, changeAt, set, get_eq_ok_iff.2 hchild, onPath]
      rfl
  | deeper hchild _ hnext ih =>
      subst hnext
      rw [setAt_cons_of_scope hchild, ih]

/-- Writing the old node back takes the new tree to the old one. -/
theorem Written.symm (h : Written index node previous path s next) :
    Written index previous node path next s := by
  induction h with
  | here hchild hnext =>
      subst hnext
      exact .here (getElem?_setChild_self hchild) (setChild_setChild hchild).symm
  | deeper hchild _ hnext ih =>
      subst hnext
      exact .deeper (getElem?_setChild_self hchild) ih (setChild_setChild hchild).symm

/-! ## Other places -/

theorem getAt_cons_of_scope (h : s.body[i]? = some t.toNode) (path : List Nat) (index : Nat) :
    s.getAt (i :: path) index = t.getAt path index := by
  simp only [getAt, locate, get_eq_ok_iff.2 h, toNode]

/-- What stands at a place is decided by the child in which the way to it starts. -/
theorem getAt_congr {q : List Nat} {k : Nat} (h : s.get (q.headD k) = t.get (q.headD k)) :
    s.getAt q k = t.getAt q k := by
  cases q with
  | nil => exact congrArg onPath h
  | cons j q =>
      rw [List.headD_cons] at h
      simp only [getAt, locate, h]

theorem Written.getAt_eq (h : Written index node previous path s next) :
    s.getAt path index = .ok previous := by
  induction h with
  | here hchild _ => simp only [getAt, locate, get_eq_ok_iff.2 hchild, onPath]
  | deeper hchild _ _ ih => rw [getAt_cons_of_scope hchild, ih]

/-- A place that is neither on the way to the written one nor at or below it is left alone. -/
theorem Written.getAt_of_apart (h : Written index node previous path s next) {q : List Nat}
    {k : Nat} (hbelow : ¬ path ++ [index] <+: q ++ [k]) (habove : ¬ q ++ [k] <+: path) :
    next.getAt q k = s.getAt q k := by
  induction h generalizing q with
  | here hchild hnext =>
      subst hnext
      apply getAt_congr
      apply get_setChild_ne
      rintro rfl
      apply hbelow
      cases q with
      | nil => exact List.prefix_refl _
      | cons j q => exact List.cons_prefix_cons.2 ⟨rfl, List.nil_prefix⟩
  | @deeper s t inner next i path hchild _ hnext ih =>
      subst hnext
      cases q with
      | nil =>
          apply getAt_congr
          apply get_setChild_ne
          rintro rfl
          exact habove (List.cons_prefix_cons.2 ⟨rfl, List.nil_prefix⟩)
      | cons j q =>
          by_cases hij : i = j
          · subst hij
            rw [getAt_cons_of_scope (getElem?_setChild_self hchild), getAt_cons_of_scope hchild]
            apply ih
            · intro hq
              exact hbelow (List.cons_prefix_cons.2 ⟨rfl, hq⟩)
            · intro hq
              exact habove (List.cons_prefix_cons.2 ⟨rfl, hq⟩)
          · apply getAt_congr
            exact get_setChild_ne hij

theorem toNode_injective {s t : Scope α} (h : s.toNode = t.toNode) : s = t := by
  obtain ⟨bracket, body⟩ := s
  obtain ⟨bracket', body'⟩ := t
  obtain ⟨rfl, rfl⟩ := Node.scope.inj h
  rfl

theorem LeadsTo.setChild_of_ne (h : s.LeadsTo (j :: path) inner) (hne : i ≠ j) :
    (s.setChild i n).LeadsTo (j :: path) inner := by
  cases h with
  | step hchild hrest =>
      apply LeadsTo.step _ hrest
      rw [getElem?_setChild_ne hne, hchild]

/-- Every scope that is not at or below the written place keeps its bracket and its length. -/
theorem Written.exists_leadsTo (h : Written index node previous path s next) {q : List Nat}
    {other : Scope α} (hbelow : ¬ path ++ [index] <+: q) (hother : s.LeadsTo q other) :
    ∃ other', next.LeadsTo q other' ∧ other'.bracket = other.bracket ∧
      other'.length = other.length := by
  induction h generalizing q with
  | @here s next hchild hnext =>
      subst hnext
      cases hother with
      | here => exact ⟨_, .here, bracket_setChild, length_setChild⟩
      | @step _ t _ j q hstep hrest =>
          have hne : index ≠ j := by
            rintro rfl
            exact hbelow (List.cons_prefix_cons.2 ⟨rfl, List.nil_prefix⟩)
          exact ⟨other, (LeadsTo.step hstep hrest).setChild_of_ne hne, rfl, rfl⟩
  | @deeper s t inner next i path hchild _ hnext ih =>
      subst hnext
      cases hother with
      | here => exact ⟨_, .here, bracket_setChild, length_setChild⟩
      | @step _ t' _ j q hstep hrest =>
          by_cases hij : i = j
          · subst hij
            have ht : t = t' := toNode_injective (Option.some.inj (hchild.symm.trans hstep))
            subst ht
            have hbelow' : ¬ path ++ [index] <+: q := by
              intro hq
              exact hbelow (List.cons_prefix_cons.2 ⟨rfl, hq⟩)
            obtain ⟨other', hother', hshape⟩ := ih hbelow' hrest
            exact ⟨other', .step (getElem?_setChild_self hchild) hother', hshape⟩
          · exact ⟨other, (LeadsTo.step hstep hrest).setChild_of_ne hij, rfl, rfl⟩

/-! ## Leaves -/

/-- The leaves in front of the node at a place. -/
def leavesBefore (s : Scope α) (index : Nat) : List Nat → List α
  | [] => Node.flattenAll (s.body.take index)
  | i :: path =>
      Node.flattenAll (s.body.take i) ++
        match s.body[i]? with
        | some (.scope b body) => leavesBefore ⟨b, body⟩ index path
        | _ => []

/-- The leaves behind the node at a place. -/
def leavesAfter (s : Scope α) (index : Nat) : List Nat → List α
  | [] => Node.flattenAll (s.body.drop (index + 1))
  | i :: path =>
      (match s.body[i]? with
        | some (.scope b body) => leavesAfter ⟨b, body⟩ index path
        | _ => []) ++ Node.flattenAll (s.body.drop (i + 1))

theorem flatten_eq_of_child (h : s.body[i]? = some n) :
    s.flatten = Node.flattenAll (s.body.take i) ++ n.flatten ++
      Node.flattenAll (s.body.drop (i + 1)) := by
  obtain ⟨hi, rfl⟩ := List.getElem?_eq_some_iff.1 h
  calc
    s.flatten = Node.flattenAll (s.body.take i ++ s.body[i] :: s.body.drop (i + 1)) := by
      rw [← List.drop_eq_getElem_cons hi, List.take_append_drop, flatten]
    _ = Node.flattenAll (s.body.take i) ++ s.body[i].flatten ++
        Node.flattenAll (s.body.drop (i + 1)) := by
      rw [Node.flattenAll_append, Node.flattenAll, List.append_assoc]

theorem leavesBefore_cons (h : s.body[i]? = some t.toNode) (index : Nat) (path : List Nat) :
    s.leavesBefore index (i :: path) =
      Node.flattenAll (s.body.take i) ++ t.leavesBefore index path := by
  rw [leavesBefore, h]
  rfl

theorem leavesAfter_cons (h : s.body[i]? = some t.toNode) (index : Nat) (path : List Nat) :
    s.leavesAfter index (i :: path) =
      t.leavesAfter index path ++ Node.flattenAll (s.body.drop (i + 1)) := by
  rw [leavesAfter, h]
  rfl

/-- The leaves of a tree are those in front of a place, those of the node there, and those behind
it. -/
theorem Written.flatten_eq (h : Written index node previous path s next) :
    s.flatten = s.leavesBefore index path ++ previous.flatten ++ s.leavesAfter index path := by
  induction h with
  | here hchild _ => exact flatten_eq_of_child hchild
  | @deeper s t inner next i path hchild _ _ ih =>
      calc
        s.flatten = Node.flattenAll (s.body.take i) ++ t.flatten ++
            Node.flattenAll (s.body.drop (i + 1)) := flatten_eq_of_child hchild
        _ = s.leavesBefore index (i :: path) ++ previous.flatten ++
            s.leavesAfter index (i :: path) := by
          rw [ih, leavesBefore_cons hchild, leavesAfter_cons hchild]
          simp only [List.append_assoc]

/-- A write leaves the leaves on both sides of its place alone. -/
theorem Written.leaves_around_eq (h : Written index node previous path s next) :
    next.leavesBefore index path = s.leavesBefore index path ∧
      next.leavesAfter index path = s.leavesAfter index path := by
  have htake (s : Scope α) (i : Nat) (n : Node α) :
      (s.setChild i n).body.take i = s.body.take i :=
    List.take_set_of_le (Nat.le_refl i)
  have hdrop (s : Scope α) (i : Nat) (n : Node α) :
      (s.setChild i n).body.drop (i + 1) = s.body.drop (i + 1) :=
    List.drop_set_of_lt (Nat.lt_succ_self i)
  induction h with
  | here hchild hnext =>
      subst hnext
      simp only [leavesBefore, leavesAfter, htake, hdrop, and_self]
  | @deeper s t inner next i path hchild _ hnext ih =>
      subst hnext
      have hnew : (s.setChild i inner.toNode).body[i]? = some inner.toNode :=
        getElem?_setChild_self hchild
      rw [leavesBefore_cons hchild, leavesAfter_cons hchild, leavesBefore_cons hnew,
        leavesAfter_cons hnew, htake, hdrop, ih.1, ih.2]
      exact ⟨rfl, rfl⟩

/-! ## Refused writes -/

/-- An index out of range is reported with the length of the first scope that lacks it. -/
theorem LeadsTo.setAt_of_length_le {front rest : List Nat} (h : s.LeadsTo front inner)
    (hpath : path ++ [index] = front ++ i :: rest) (hi : inner.length ≤ i) (node : Node α) :
    s.setAt path index node = .error (.refused (.indexOutOfRange i inner.length)) := by
  induction h generalizing path with
  | here =>
      cases path with
      | nil =>
          obtain ⟨rfl, -⟩ := List.cons.inj hpath
          simp only [setAt, changeAt, set, get_of_length_le hi, onPath]
      | cons j path =>
          obtain ⟨rfl, -⟩ := List.cons.inj hpath
          simp only [setAt, changeAt, get_of_length_le hi]
  | step hchild _ ih =>
      cases path with
      | nil => simp at hpath
      | cons j path =>
          obtain ⟨rfl, hrest⟩ := List.cons.inj hpath
          rw [setAt_cons_of_scope hchild, ih hrest hi]

/-- A step that meets an item ends the way. -/
theorem LeadsTo.setAt_of_item {front : List Nat} {a : α} (h : s.LeadsTo front inner)
    (hitem : inner.body[i]? = some (.item a)) (rest : List Nat) (index : Nat) (node : Node α) :
    s.setAt (front ++ i :: rest) index node = .error .throughItem := by
  induction h with
  | here => simp only [List.nil_append, setAt, changeAt, get_eq_ok_iff.2 hitem]
  | step hchild _ ih =>
      rw [List.cons_append, setAt_cons_of_scope hchild, ih hitem]

/-- A write at a place that exists answers the node that stood there and puts the new one in its
place. Nothing else changes: a place that is not on the way to the written one, nor at it or below
it, holds what it held, every scope that is not at or below it keeps its bracket and its length, and
the leaves on both sides stay. Writing the old node back restores the tree. If an index is out of
range, the fault names it with the length of the first scope that lacks it, and if a step meets an
item, that is the fault; the tree is left as it was in both cases. -/
theorem tree_writes_are_local_reversible_atomic (s : Scope α) (path : List Nat) (index : Nat)
    (node : Node α) :
    (∀ inner previous, s.LeadsTo path inner → inner.body[index]? = some previous →
      ∃ next, s.setAt path index node = .ok (previous, next) ∧
        (writeAt path index node).run s = (.ok previous, next) ∧
        next.getAt path index = .ok node ∧
        (∀ q k, ¬ path ++ [index] <+: q ++ [k] → ¬ q ++ [k] <+: path →
          next.getAt q k = s.getAt q k) ∧
        (∀ q other, ¬ path ++ [index] <+: q → s.LeadsTo q other →
          ∃ other', next.LeadsTo q other' ∧ other'.bracket = other.bracket ∧
            other'.length = other.length) ∧
        s.leaves = s.leavesBefore index path ++ previous.flatten ++ s.leavesAfter index path ∧
        next.leaves = s.leavesBefore index path ++ node.flatten ++ s.leavesAfter index path ∧
        next.setAt path index previous = .ok (node, s)) ∧
    (∀ front i rest inner, path ++ [index] = front ++ i :: rest → s.LeadsTo front inner →
      inner.length ≤ i →
      s.setAt path index node = .error (.refused (.indexOutOfRange i inner.length)) ∧
      (writeAt path index node).run s =
        (.error (.refused (.indexOutOfRange i inner.length)), s)) ∧
    (∀ front i rest inner a, path = front ++ i :: rest → s.LeadsTo front inner →
      inner.body[i]? = some (.item a) →
      s.setAt path index node = .error .throughItem ∧
      (writeAt path index node).run s = (.error .throughItem, s)) := by
  refine ⟨?_, ?_, ?_⟩
  · intro inner previous hinner hchild
    obtain ⟨next, hwritten⟩ := hinner.exists_written hchild node
    refine ⟨next, hwritten.setAt_eq, ?_, hwritten.symm.getAt_eq,
      fun q k => hwritten.getAt_of_apart, fun q other => hwritten.exists_leadsTo, ?_, ?_,
      hwritten.symm.setAt_eq⟩
    · rw [run_writeAt, hwritten.setAt_eq]
    · rw [leaves_eq_flatten, hwritten.flatten_eq]
    · obtain ⟨hbefore, hafter⟩ := hwritten.leaves_around_eq
      rw [leaves_eq_flatten, hwritten.symm.flatten_eq, hbefore, hafter]
  · intro front i rest inner hpath hinner hi
    have hrefused := hinner.setAt_of_length_le hpath hi node
    exact ⟨hrefused, by rw [run_writeAt, hrefused]⟩
  · rintro front i rest inner a rfl hinner hitem
    have hrefused := hinner.setAt_of_item hitem rest index node
    exact ⟨hrefused, by rw [run_writeAt, hrefused]⟩

/-- An empty scope within a nested one is replaced by two leaves. A step of a path that is out of
range and one that meets an item are refused. -/
theorem tree_writes_are_local_reversible_atomic_empty_scope :
    ∃ s next : Scope Nat,
      s = ⟨.round, [.item 1, .scope .square [.item 2, .scope .none []], .item 3]⟩ ∧
      s.setAt [1] 1 (.scope .curly [.item 7, .item 8]) = .ok (.scope .none [], next) ∧
      next.getAt [1] 1 = .ok (.scope .curly [.item 7, .item 8]) ∧
      next.leaves = [1, 2] ++ [7, 8] ++ [3] ∧
      next.setAt [1] 1 (.scope .none []) = .ok (.scope .curly [.item 7, .item 8], s) ∧
      (writeAt [1, 4] 0 (.item 9)).run s = (.error (.refused (.indexOutOfRange 4 2)), s) ∧
      (writeAt [0] 0 (.item 9)).run s = (.error .throughItem, s) := by
  have hinner : LeadsTo ⟨.round, [.item 1, .scope .square [.item 2, .scope .none []], .item 3]⟩
      [1] ⟨.square, [.item 2, .scope .none []]⟩ := .step rfl .here
  obtain ⟨next, hset, -, hget, -, -, -, hleaves, hback⟩ :=
    (tree_writes_are_local_reversible_atomic _ [1] 1 (.scope .curly [.item 7, .item 8])).1
      _ _ hinner rfl
  obtain ⟨-, hrange⟩ := (tree_writes_are_local_reversible_atomic _ [1, 4] 0 (.item 9)).2.1
    [1] 4 [0] _ rfl hinner (Nat.le_add_left 2 2)
  obtain ⟨-, hitem⟩ := (tree_writes_are_local_reversible_atomic
    (Scope.mk .round [.item 1, .scope .square [.item 2, .scope .none []], .item 3]) [0] 0
    (.item 9)).2.2 [] 0 [] _ 1 rfl .here rfl
  exact ⟨_, next, rfl, hset, hget, hleaves, hback, hrange, hitem⟩

end Scope

end MqAssembler
