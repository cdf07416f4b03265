import MqAssembler.Scope.Patch
import Mathlib.Data.List.Nodup
import Mathlib.Data.List.Perm.Basic

/-!
# Runs of patches

Labels are resolved one after another, and each patch reads what the earlier ones have written. As
long as no resolved value is a placeholder of another patch, the run amounts to one simultaneous
substitution, and its order does not matter.

## Implementation notes

A patch is a function on the items that are direct children, so a run of patches is a run of such
functions on each item by itself. What is left is the course of a single value through the list of
patches.
-/

namespace MqAssembler

universe u

variable {α : Type u}

/-! ## Direct children that are items -/

/-- Changes an item and leaves a nested scope alone. -/
def Node.mapItem (f : α → α) : Node α → Node α
  | .item a => .item (f a)
  | .scope b body => .scope b body

/-- Changes the items among the direct children. -/
def Scope.mapItems (f : α → α) (s : Scope α) : Scope α :=
  { s with body := s.body.map (Node.mapItem f) }

theorem Node.mapItem_mapItem (f g : α → α) (n : Node α) :
    (n.mapItem f).mapItem g = n.mapItem fun a => g (f a) := by
  cases n <;> rfl

theorem Scope.mapItems_mapItems (f g : α → α) (s : Scope α) :
    (s.mapItems f).mapItems g = s.mapItems fun a => g (f a) := by
  simp only [mapItems, List.map_map, Function.comp_def, Node.mapItem_mapItem]

theorem Scope.mapItems_id (s : Scope α) : s.mapItems (fun a => a) = s := by
  have hsame : (Node.mapItem fun a : α => a) = id := by
    funext n
    cases n <;> rfl
  simp only [mapItems, hsame, List.map_id]

theorem Scope.replace_eq_mapItems (s : Scope Instruction) (old new : UInt16) :
    s.replace old new = s.mapItems (Instruction.patch old new) := by
  simp only [replace, mapItems]
  congr 2
  funext n
  cases n <;> rfl

/-! ## One value through a list of patches -/

namespace Patch

/-- What a run of patches makes of a value. -/
def settle (patches : List (UInt16 × UInt16)) (value : UInt16) : UInt16 :=
  patches.foldl (fun v p => if v = p.1 then p.2 else v) value

/-- No two patches have the same placeholder, and no patch writes the placeholder of another. -/
structure Independent (patches : List (UInt16 × UInt16)) : Prop where
  olds_distinct : (patches.map Prod.fst).Nodup
  news_fresh : ∀ p ∈ patches, ∀ q ∈ patches, p ≠ q → p.2 ≠ q.1

variable {patches order : List (UInt16 × UInt16)}

theorem Independent.of_cons {p : UInt16 × UInt16} (h : Independent (p :: patches)) :
    Independent patches where
  olds_distinct := (List.nodup_cons.1 h.olds_distinct).2
  news_fresh q hq r hr := h.news_fresh q (List.mem_cons_of_mem p hq) r (List.mem_cons_of_mem p hr)

theorem Independent.of_perm (h : Independent patches) (hperm : order.Perm patches) :
    Independent order where
  olds_distinct := (hperm.map Prod.fst).nodup_iff.2 h.olds_distinct
  news_fresh p hp q hq := h.news_fresh p (hperm.mem_iff.1 hp) q (hperm.mem_iff.1 hq)

/-- A value that is no placeholder stays. -/
theorem settle_of_not_old {value : UInt16} (h : ∀ p ∈ patches, value ≠ p.1) :
    settle patches value = value := by
  induction patches with
  | nil => rfl
  | cons p rest ih =>
      obtain ⟨hp, hrest⟩ := List.forall_mem_cons.1 h
      rw [settle, List.foldl_cons, if_neg hp]
      exact ih hrest

/-- A placeholder becomes the new value of its patch: no earlier patch touches it, and no later one
touches what it has become. -/
theorem Independent.settle_of_mem (h : Independent patches) {p : UInt16 × UInt16}
    (hp : p ∈ patches) : settle patches p.1 = p.2 := by
  induction patches with
  | nil => cases hp
  | cons q rest ih =>
      have hdistinct : ∀ r ∈ rest, r.1 ≠ q.1 := by
        intro r hr heq
        apply (List.nodup_cons.1 h.olds_distinct).1
        exact List.mem_map.2 ⟨r, hr, heq⟩
      rw [settle, List.foldl_cons]
      rcases List.mem_cons.1 hp with rfl | hp
      · rw [if_pos rfl]
        apply settle_of_not_old
        intro r hr
        apply h.news_fresh p List.mem_cons_self r (List.mem_cons_of_mem p hr)
        rintro rfl
        exact hdistinct p hr rfl
      · rw [if_neg (hdistinct p hp)]
        exact ih h.of_cons hp

/-- The order of independent patches does not matter to a value. -/
theorem Independent.settle_perm (h : Independent patches) (hperm : order.Perm patches)
    (value : UInt16) : settle order value = settle patches value := by
  by_cases hold : ∃ p ∈ patches, p.1 = value
  · obtain ⟨p, hp, rfl⟩ := hold
    rw [h.settle_of_mem hp, (h.of_perm hperm).settle_of_mem (hperm.mem_iff.2 hp)]
  · have hpatches : ∀ p ∈ patches, value ≠ p.1 := by
      intro p hp heq
      exact hold ⟨p, hp, heq.symm⟩
    have horder : ∀ p ∈ order, value ≠ p.1 := by
      intro p hp
      exact hpatches p (hperm.mem_iff.1 hp)
    rw [settle_of_not_old hpatches, settle_of_not_old horder]

end Patch

/-! ## The whole run -/

open Patch

/-- Patches one after another, each given by the old and the new value. -/
def Scope.replaceAll (s : Scope Instruction) (patches : List (UInt16 × UInt16)) :
    Scope Instruction :=
  patches.foldl (fun s p => s.replace p.1 p.2) s

theorem Instruction.patch_eq (old new : UInt16) (i : Instruction) :
    i.patch old new = { i with value := if i.value = old then new else i.value } := by
  rw [patch]
  split <;> rfl

/-- A run of patches settles the value of each direct item and changes nothing else. -/
theorem Scope.replaceAll_eq_mapItems (s : Scope Instruction) (patches : List (UInt16 × UInt16)) :
    s.replaceAll patches = s.mapItems fun i => { i with value := settle patches i.value } := by
  induction patches generalizing s with
  | nil => exact s.mapItems_id.symm
  | cons p rest ih =>
      calc
        s.replaceAll (p :: rest) = (s.replace p.1 p.2).replaceAll rest := rfl
        _ = (s.mapItems (Instruction.patch p.1 p.2)).mapItems
              fun i => { i with value := settle rest i.value } := by
            rw [ih, replace_eq_mapItems]
        _ = s.mapItems fun i => { i with value := settle (p :: rest) i.value } := by
            simp only [mapItems_mapItems, Instruction.patch_eq, settle, List.foldl_cons]

/-- A run of independent patches gives each direct item whose value is a placeholder the new value
of that placeholder. Everything else stays: the bracket, the number and the order of the children,
nested scopes, the other direct items, and of each item the mnemonic, the mode and the line. In
another order the patches have the same result. -/
theorem independent_patches_substitute_at_once (s : Scope Instruction)
    (patches : List (UInt16 × UInt16)) (h : Independent patches) :
    (s.replaceAll patches).bracket = s.bracket ∧
    (s.replaceAll patches).length = s.length ∧
    (∀ (k : Nat) b body, s.body[k]? = some (.scope b body) →
      (s.replaceAll patches).body[k]? = some (.scope b body)) ∧
    (∀ (k : Nat) i, s.body[k]? = some (.item i) →
      ∃ value, (s.replaceAll patches).body[k]? = some (.item { i with value := value }) ∧
        (∀ p ∈ patches, i.value = p.1 → value = p.2) ∧
        ((∀ p ∈ patches, i.value ≠ p.1) → value = i.value)) ∧
    ∀ order : List (UInt16 × UInt16), order.Perm patches →
      s.replaceAll order = s.replaceAll patches := by
  have hchild (k : Nat) : (s.replaceAll patches).body[k]? =
      s.body[k]?.map (Node.mapItem fun i => { i with value := settle patches i.value }) := by
    rw [s.replaceAll_eq_mapItems]
    exact List.getElem?_map
  refine ⟨?_, ?_, ?_, ?_, ?_⟩
  · rw [s.replaceAll_eq_mapItems]
    rfl
  · rw [s.replaceAll_eq_mapItems]
    exact List.length_map _
  · intro k b body hk
    rw [hchild, hk]
    rfl
  · intro k i hk
    refine ⟨settle patches i.value, by rw [hchild, hk]; rfl, ?_, settle_of_not_old⟩
    intro p hp hvalue
    rw [hvalue]
    exact h.settle_of_mem hp
  · intro order hperm
    simp only [Scope.replaceAll_eq_mapItems, h.settle_perm hperm]

/-- Two placeholders with one address, a patch that keeps its value, and a nested scope that holds
a placeholder. -/
theorem independent_patches_substitute_at_once_shared_address :
    Independent [(7, 42), (8, 42), (9, 9)] ∧
    ∃ s value,
      s = Scope.mk .curly [.scope .none [.item ⟨"jmp", 7, .pointer, 1⟩],
        .item ⟨"jmp", 8, .pointer, 2⟩] ∧
      (s.replaceAll [(7, 42), (8, 42), (9, 9)]).body[0]? =
        some (.scope .none [.item ⟨"jmp", 7, .pointer, 1⟩]) ∧
      (s.replaceAll [(7, 42), (8, 42), (9, 9)]).body[1]? =
        some (.item ⟨"jmp", value, .pointer, 2⟩) ∧ value = 42 := by
  have h : Independent [(7, 42), (8, 42), (9, 9)] := ⟨by decide, by simp⟩
  refine ⟨h, ?_⟩
  obtain ⟨-, -, hscopes, hitems, -⟩ := independent_patches_substitute_at_once
    ⟨.curly, [.scope .none [.item ⟨"jmp", 7, .pointer, 1⟩], .item ⟨"jmp", 8, .pointer, 2⟩]⟩
    [(7, 42), (8, 42), (9, 9)] h
  obtain ⟨value, hitem, hvalue, -⟩ := hitems 1 ⟨"jmp", 8, .pointer, 2⟩ rfl
  exact ⟨_, value, rfl, hscopes 0 _ _ rfl, hitem, hvalue (8, 42) (by decide) rfl⟩

end MqAssembler
