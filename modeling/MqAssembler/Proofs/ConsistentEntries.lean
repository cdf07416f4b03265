import MqAssembler.Proofs.InstructionSetRuns
import Mathlib.Data.List.Nodup

/-!
# Consistent lists of entries

Entries are checked one by one against the set that those before them have built. The list as a
whole is accepted exactly if it is consistent: every number fits its field, and neither a number
nor a mnemonic in any letter case stands twice.

## Implementation notes

What one accepted entry does to the chances of another is `accepts_after_insert_iff`. The induction
over the list carries the set built so far as a parameter.
-/

namespace MqAssembler.InstructionSet

open CheckChain

variable {set next : InstructionSet} {mnemonic other : String} {number n : UInt16}

/-- A set takes an entry. -/
def Accepts (set : InstructionSet) (mnemonic : String) (number : UInt16) : Prop :=
  ∃ next, set.insert mnemonic number = .ok next

theorem accepts_iff :
    set.Accepts mnemonic number ↔
      ∃ h : number.toNat < 128, set.numberOf? (Text.lowercase mnemonic) = none ∧
        set.slots[number.toNat] = none := by
  constructor
  · rintro ⟨next, h⟩
    obtain ⟨hlt, hname, hslot, -⟩ := insert_eq_ok_iff.1 h
    exact ⟨hlt, hname, hslot⟩
  · rintro ⟨hlt, hname, hslot⟩
    exact ⟨_, insert_eq_ok_iff.2 ⟨hlt, hname, hslot, rfl⟩⟩

theorem accepts_empty_iff : Accepts .empty mnemonic number ↔ number.toNat < 128 := by
  rw [accepts_iff]
  constructor
  · rintro ⟨hlt, -⟩
    exact hlt
  · intro hlt
    refine ⟨hlt, numberOf?_eq_none_iff.2 ?_, ?_⟩
    · intro k hk
      simp [empty]
    · simp [empty]

theorem numberOf?_set_eq_none_iff {name other : String} {k : Nat} (hk : k < 128)
    (hfree : set.slots[k] = none) :
    numberOf? ⟨set.slots.set k (some name)⟩ other = none ↔
      set.numberOf? other = none ∧ other ≠ name := by
  rw [numberOf?_eq_none_iff, numberOf?_eq_none_iff]
  constructor
  · intro h
    constructor
    · intro j hj hslot
      have hne : k ≠ j := by
        rintro rfl
        rw [hfree] at hslot
        cases hslot
      exact h j hj ((Vector.getElem_set_ne hk hj hne).trans hslot)
    · rintro rfl
      exact h k hk (Vector.getElem_set_self hk)
  · rintro ⟨h, hne⟩ j hj hslot
    rcases slot_set_cases hk hslot with ⟨-, rfl⟩ | hslot
    · exact hne rfl
    · exact h j hj hslot

theorem slot_set_eq_none_iff {name : String} {j k : Nat} (hk : k < 128) {hj : j < 128} :
    (set.slots.set k (some name))[j] = none ↔ set.slots[j] = none ∧ j ≠ k := by
  rw [Vector.getElem_set]
  split
  · rename_i heq
    simp [heq]
  · rename_i hne
    simp [Ne.symm hne]

/-- After an accepted entry a set takes exactly those it took before, except for the same mnemonic
in any letter case and for the same number. -/
theorem accepts_after_insert_iff (h : set.insert mnemonic number = .ok next) :
    next.Accepts other n ↔
      set.Accepts other n ∧ Text.lowercase other ≠ Text.lowercase mnemonic ∧ n ≠ number := by
  obtain ⟨hlt, -, hfree, rfl⟩ := insert_eq_ok_iff.1 h
  rw [accepts_iff, accepts_iff]
  simp only [numberOf?_set_eq_none_iff hlt hfree, slot_set_eq_none_iff hlt, ne_eq,
    UInt16.toNat_inj]
  constructor
  · rintro ⟨hn, ⟨hname, hother⟩, hslot, hnumber⟩
    exact ⟨⟨hn, hname, hslot⟩, hother, hnumber⟩
  · rintro ⟨⟨hn, hname, hslot⟩, hother, hnumber⟩
    exact ⟨hn, ⟨hname, hother⟩, hslot, hnumber⟩

/-! ## Whole lists -/

/-- Every number fits its field, and no number and no mnemonic stands twice. -/
structure Consistent (pairs : List (String × UInt16)) : Prop where
  numbers_fit : ∀ p ∈ pairs, p.2.toNat ≤ 127
  mnemonics_distinct : (pairs.map fun p => Text.lowercase p.1).Nodup
  numbers_distinct : (pairs.map Prod.snd).Nodup

/-- A list of entries is accepted by a set exactly if each of them is, and no two of them clash. -/
theorem exists_foldlM_insert_iff {pairs : List (String × UInt16)} :
    (∃ final, pairs.foldlM (fun set p => set.insert p.1 p.2) set = .ok final) ↔
      (pairs.map fun p => Text.lowercase p.1).Nodup ∧ (pairs.map Prod.snd).Nodup ∧
        ∀ p ∈ pairs, set.Accepts p.1 p.2 := by
  induction pairs generalizing set with
  | nil => exact ⟨fun _ => by simp, fun _ => ⟨set, rfl⟩⟩
  | cons p rest ih =>
      rw [List.map_cons, List.map_cons, List.nodup_cons, List.nodup_cons, List.forall_mem_cons]
      constructor
      · rintro ⟨final, h⟩
        rw [List.foldlM_cons] at h
        obtain ⟨next, hinsert, hrest⟩ := bind_eq_ok_iff.1 h
        obtain ⟨hnames, hnumbers, haccepts⟩ := ih.1 ⟨final, hrest⟩
        have hclear (q : String × UInt16) (hq : q ∈ rest) :=
          (accepts_after_insert_iff hinsert).1 (haccepts q hq)
        refine ⟨⟨?_, hnames⟩, ⟨?_, hnumbers⟩, ⟨next, hinsert⟩, fun q hq => (hclear q hq).1⟩
        · intro hmem
          obtain ⟨q, hq, heq⟩ := List.mem_map.1 hmem
          exact (hclear q hq).2.1 heq
        · intro hmem
          obtain ⟨q, hq, heq⟩ := List.mem_map.1 hmem
          exact (hclear q hq).2.2 heq
      · rintro ⟨⟨hname, hnames⟩, ⟨hnumber, hnumbers⟩, ⟨next, hinsert⟩, haccepts⟩
        have hrest : ∀ q ∈ rest, next.Accepts q.1 q.2 := by
          intro q hq
          refine (accepts_after_insert_iff hinsert).2 ⟨haccepts q hq, ?_, ?_⟩
          · intro heq
            exact hname (List.mem_map.2 ⟨q, hq, heq⟩)
          · intro heq
            exact hnumber (List.mem_map.2 ⟨q, hq, heq⟩)
        obtain ⟨final, hfinal⟩ := ih.2 ⟨hnames, hnumbers, hrest⟩
        refine ⟨final, ?_⟩
        rw [List.foldlM_cons]
        exact bind_eq_ok_iff.2 ⟨next, hinsert, hfinal⟩

/-- Exactly the consistent lists of entries have a set. -/
theorem exists_ofPairs_iff {pairs : List (String × UInt16)} :
    (∃ set, ofPairs pairs = .ok set) ↔ Consistent pairs := by
  have hfits : (∀ p ∈ pairs, Accepts .empty p.1 p.2) ↔ ∀ p ∈ pairs, p.2.toNat ≤ 127 := by
    simp only [accepts_empty_iff, Nat.lt_succ_iff]
  rw [ofPairs, exists_foldlM_insert_iff, hfits]
  constructor
  · rintro ⟨hnames, hnumbers, hfit⟩
    exact ⟨hfit, hnames, hnumbers⟩
  · rintro ⟨hfit, hnames, hnumbers⟩
    exact ⟨hnames, hnumbers, hfit⟩

/-- No key of a consistent list stands twice. -/
theorem Consistent.keys_distinct {pairs : List (String × UInt16)} (h : Consistent pairs) :
    (pairs.map Prod.fst).Nodup := by
  apply List.Nodup.of_map Text.lowercase
  rw [List.map_map]
  exact h.mnemonics_distinct

end MqAssembler.InstructionSet
