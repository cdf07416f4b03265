import MqAssembler.Proofs.ConsistentEntries
import Mathlib.Data.List.Perm.Basic

/-!
# What a list of entries answers

A consistent list of entries has one instruction set, whatever the order of the list: the set holds
the lowered mnemonic of each entry under its number and nothing else. A list that is not consistent
is refused at its first entry at fault.

## Implementation notes

What a set holds is told by its answers to numbers, and these determine the set. One accepted entry
adds one answer, so a list of entries adds those of its members; the order drops out because
membership does not see it. Whether an entry is at fault is said of the entries before it and not of
the set that they have built.
-/

namespace MqAssembler.InstructionSet

open CheckChain

variable {set next other : InstructionSet} {pairs : List (String × UInt16)} {n : UInt8}
  {name : String}

/-! ## What the set of a list holds -/

/-- An accepted entry adds its own answer and changes no other. -/
theorem mnemonic?_insert_iff {mnemonic : String} {number : UInt16}
    (h : set.insert mnemonic number = .ok next) :
    next.mnemonic? n = some name ↔
      set.mnemonic? n = some name ∨
        (number.toNat = n.toNat ∧ Text.lowercase mnemonic = name) := by
  constructor
  · intro hname
    obtain ⟨hlt, -, -, rfl⟩ := insert_eq_ok_iff.1 h
    obtain ⟨hn, hslot⟩ := mnemonic?_eq_some_iff.1 hname
    rcases slot_set_cases hlt hslot with ⟨hnumber, hmnemonic⟩ | hold
    · exact Or.inr ⟨hnumber.symm, hmnemonic.symm⟩
    · exact Or.inl (mnemonic?_eq_some_iff.2 ⟨hn, hold⟩)
  · rintro (hold | ⟨hnumber, rfl⟩)
    · exact mnemonic?_of_insert h hold
    · obtain ⟨hlt, -, -, rfl⟩ := insert_eq_ok_iff.1 h
      refine mnemonic?_eq_some_iff.2 ⟨hnumber ▸ hlt, ?_⟩
      simp only [← hnumber, Vector.getElem_set_self]

theorem mnemonic?_foldlM_insert_iff {start final : InstructionSet}
    (h : pairs.foldlM (fun set p => set.insert p.1 p.2) start = .ok final) :
    final.mnemonic? n = some name ↔
      start.mnemonic? n = some name ∨
        ∃ p ∈ pairs, p.2.toNat = n.toNat ∧ Text.lowercase p.1 = name := by
  induction pairs generalizing start with
  | nil =>
      rw [← Except.ok.inj h]
      simp
  | cons p rest ih =>
      rw [List.foldlM_cons] at h
      obtain ⟨next, hinsert, hrest⟩ := bind_eq_ok_iff.1 h
      rw [ih hrest, mnemonic?_insert_iff hinsert, List.exists_mem_cons_iff, or_assoc]

theorem mnemonic?_empty (n : UInt8) : mnemonic? .empty n = none := by
  simp [mnemonic?, empty]

/-- The set of a list answers a number with the lowered mnemonic of the entry that has it. -/
theorem mnemonic?_ofPairs_iff (h : ofPairs pairs = .ok set) :
    set.mnemonic? n = some name ↔
      ∃ p ∈ pairs, p.2.toNat = n.toNat ∧ Text.lowercase p.1 = name := by
  rw [mnemonic?_foldlM_insert_iff h, mnemonic?_empty]
  simp

/-- The set of a list answers a mnemonic with the number of the entry that has it in some letter
case. -/
theorem opcode?_ofPairs_iff {mnemonic : String} (h : ofPairs pairs = .ok set) :
    set.opcode? mnemonic = some n ↔
      ∃ p ∈ pairs, p.2.toNat = n.toNat ∧ Text.lowercase p.1 = Text.lowercase mnemonic := by
  rw [(lawful_ofPairs h).opcode?_eq_some_iff, mnemonic?_ofPairs_iff h]

/-! ## The order of a list -/

/-- A set is determined by its answers to numbers. -/
theorem eq_of_mnemonic?_eq (h : ∀ n, set.mnemonic? n = other.mnemonic? n) : set = other := by
  obtain ⟨slots⟩ := set
  obtain ⟨slots'⟩ := other
  congr 1
  ext k hk : 1
  have hnumber : (UInt8.ofNat k).toNat = k := by
    rw [UInt8.toNat_ofNat']
    exact Nat.mod_eq_of_lt (by omega)
  have hk_answer := h (UInt8.ofNat k)
  simpa only [mnemonic?, hnumber, dif_pos hk] using hk_answer

theorem Consistent.of_perm {order : List (String × UInt16)} (h : Consistent pairs)
    (hperm : order.Perm pairs) : Consistent order where
  numbers_fit p hp := h.numbers_fit p (hperm.mem_iff.1 hp)
  mnemonics_distinct := (hperm.map _).nodup_iff.2 h.mnemonics_distinct
  numbers_distinct := (hperm.map _).nodup_iff.2 h.numbers_distinct

/-- A list in another order has the same set. -/
theorem ofPairs_of_perm {order : List (String × UInt16)} (h : ofPairs pairs = .ok set)
    (hperm : order.Perm pairs) : ofPairs order = .ok set := by
  have hconsistent := exists_ofPairs_iff.1 ⟨set, h⟩
  obtain ⟨set', h'⟩ := exists_ofPairs_iff.2 (hconsistent.of_perm hperm)
  rw [h']
  congr 1
  apply eq_of_mnemonic?_eq
  intro n
  ext name
  rw [mnemonic?_ofPairs_iff h, mnemonic?_ofPairs_iff h']
  simp only [hperm.mem_iff]

/-! ## The first fault of a list -/

/-- An entry has the mnemonic of an earlier one in some letter case, or the number of one. -/
def Repeats (earlier : List (String × UInt16)) (p : String × UInt16) : Prop :=
  (∃ q ∈ earlier, Text.lowercase q.1 = Text.lowercase p.1) ∨ ∃ q ∈ earlier, q.2 = p.2

/-- Why an entry cannot stand behind some others. That its number is too wide counts before a
repetition. -/
inductive EntryFault (earlier : List (String × UInt16)) (p : String × UInt16) :
    MachineError → Prop
  | opcodeOverflow (hwide : 127 < p.2.toNat) :
      EntryFault earlier p (.opcodeOverflow (Text.lowercase p.1) p.2)
  | duplicateOpcode (hfits : p.2.toNat ≤ 127) (hrepeats : Repeats earlier p) :
      EntryFault earlier p (.duplicateOpcode (Text.lowercase p.1) p.2.toUInt8)

/-- A list is consistent up to an entry exactly if the entries before it are, its number fits, and
it repeats none of them. -/
theorem consistent_append_singleton_iff {p : String × UInt16} :
    Consistent (pairs ++ [p]) ↔ Consistent pairs ∧ p.2.toNat ≤ 127 ∧ ¬ Repeats pairs p := by
  have hdistinct {β : Type} (f : String × UInt16 → β) :
      ((pairs ++ [p]).map f).Nodup ↔ (pairs.map f).Nodup ∧ ¬ ∃ q ∈ pairs, f q = f p := by
    rw [List.map_append, List.map_singleton, ← List.concat_eq_append, List.nodup_concat,
      List.mem_map, and_comm]
  constructor
  · intro h
    obtain ⟨hmnemonics, hmnemonic⟩ := (hdistinct _).1 h.mnemonics_distinct
    obtain ⟨hnumbers, hnumber⟩ := (hdistinct _).1 h.numbers_distinct
    refine ⟨⟨?_, hmnemonics, hnumbers⟩, h.numbers_fit p (by simp), ?_⟩
    · intro q hq
      exact h.numbers_fit q (List.mem_append_left _ hq)
    · rintro (hrepeats | hrepeats)
      · exact hmnemonic hrepeats
      · exact hnumber hrepeats
  · rintro ⟨h, hfits, hfresh⟩
    refine ⟨?_, (hdistinct _).2 ⟨h.mnemonics_distinct, fun hq => hfresh (Or.inl hq)⟩,
      (hdistinct _).2 ⟨h.numbers_distinct, fun hq => hfresh (Or.inr hq)⟩⟩
    intro q hq
    rcases List.mem_append.1 hq with hq | hq
    · exact h.numbers_fit q hq
    · rw [List.mem_singleton.1 hq]
      exact hfits

/-- The set of a list takes one more entry exactly if its number fits and it repeats none. -/
theorem accepts_ofPairs_iff (h : ofPairs pairs = .ok set) {p : String × UInt16} :
    set.Accepts p.1 p.2 ↔ p.2.toNat ≤ 127 ∧ ¬ Repeats pairs p := by
  have hextended : ofPairs (pairs ++ [p]) = set.insert p.1 p.2 := by
    rw [ofPairs, List.foldlM_append]
    change (ofPairs pairs >>= _) = _
    rw [h]
    exact bind_pure (set.insert p.1 p.2)
  have hconsistent := exists_ofPairs_iff.1 ⟨set, h⟩
  rw [Accepts, ← hextended, exists_ofPairs_iff, consistent_append_singleton_iff]
  exact and_iff_right hconsistent

/-- Which fault a refused entry has depends on whether its number fits. -/
theorem insert_eq_error_iff {mnemonic : String} {number : UInt16} {e : MachineError} :
    set.insert mnemonic number = .error e ↔
      ¬ set.Accepts mnemonic number ∧
        e = if number.toNat ≤ 127 then .duplicateOpcode (Text.lowercase mnemonic) number.toUInt8
          else .opcodeOverflow (Text.lowercase mnemonic) number := by
  have hfault {e : MachineError} (h : set.insert mnemonic number = .error e) :
      e = if number.toNat ≤ 127 then .duplicateOpcode (Text.lowercase mnemonic) number.toUInt8
        else .opcodeOverflow (Text.lowercase mnemonic) number := by
    rw [insert] at h
    split at h
    · rename_i hfits
      rw [if_pos (Nat.le_of_lt_succ hfits)]
      split at h
      · exact (Except.error.inj h).symm
      · cases h
    · rename_i hwide
      rw [if_neg fun hfits => hwide (Nat.lt_succ_of_le hfits)]
      exact (Except.error.inj h).symm
  constructor
  · intro h
    refine ⟨?_, hfault h⟩
    rintro ⟨next, hnext⟩
    rw [h] at hnext
    cases hnext
  · rintro ⟨hrefused, rfl⟩
    cases h : set.insert mnemonic number with
    | ok next => exact absurd ⟨next, h⟩ hrefused
    | error e => rw [hfault h]

/-- The set of a list refuses one more entry exactly if that entry is at fault behind the list. -/
theorem insert_eq_error_iff_entryFault (h : ofPairs pairs = .ok set) {p : String × UInt16}
    {e : MachineError} : set.insert p.1 p.2 = .error e ↔ EntryFault pairs p e := by
  rw [insert_eq_error_iff, accepts_ofPairs_iff h]
  constructor
  · rintro ⟨hrefused, rfl⟩
    by_cases hfits : p.2.toNat ≤ 127
    · rw [if_pos hfits]
      apply EntryFault.duplicateOpcode hfits
      by_contra hfresh
      exact hrefused ⟨hfits, hfresh⟩
    · rw [if_neg hfits]
      exact EntryFault.opcodeOverflow (Nat.not_le.1 hfits)
  · intro hfault
    cases hfault with
    | opcodeOverflow hwide =>
        rw [if_neg (Nat.not_le.2 hwide)]
        exact ⟨fun haccepted => Nat.not_le.2 hwide haccepted.1, rfl⟩
    | duplicateOpcode hfits hrepeats =>
        rw [if_pos hfits]
        exact ⟨fun haccepted => haccepted.2 hrepeats, rfl⟩

/-- The fault of the first entry at fault: no entry before it has one. -/
def FirstFault (pairs : List (String × UInt16)) (e : MachineError) : Prop :=
  ∃ before p after, pairs = before ++ p :: after ∧ EntryFault before p e ∧
    ∀ earlier q later, before = earlier ++ q :: later → ∀ fault, ¬ EntryFault earlier q fault

/-- No entry of an accepted list is at fault. -/
theorem not_entryFault_of_ofPairs {earlier later : List (String × UInt16)}
    {q : String × UInt16} (h : ofPairs (earlier ++ q :: later) = .ok set) (fault : MachineError) :
    ¬ EntryFault earlier q fault := by
  rw [ofPairs, List.foldlM_append] at h
  obtain ⟨reached, hearlier, hrest⟩ := bind_eq_ok_iff.1 h
  rw [List.foldlM_cons] at hrest
  obtain ⟨next, hinsert, -⟩ := bind_eq_ok_iff.1 hrest
  rw [← insert_eq_error_iff_entryFault hearlier, hinsert]
  intro hfault
  cases hfault

/-- A list is refused exactly with the fault of its first entry at fault. -/
theorem ofPairs_eq_error_iff {e : MachineError} :
    ofPairs pairs = .error e ↔ FirstFault pairs e := by
  have hfirst {pairs : List (String × UInt16)} {e : MachineError} (h : ofPairs pairs = .error e) :
      FirstFault pairs e := by
    obtain ⟨before, p, after, reached, hsplit, hbefore, hfault⟩ := foldlM_eq_error_iff.1 h
    refine ⟨before, p, after, hsplit, (insert_eq_error_iff_entryFault hbefore).1 hfault, ?_⟩
    rintro earlier q later rfl
    exact not_entryFault_of_ofPairs hbefore
  constructor
  · exact hfirst
  · rintro ⟨before, p, after, rfl, hfault, hclear⟩
    cases hbefore : ofPairs before with
    | error e' =>
        -- a front part that is refused would have a fault of its own
        obtain ⟨earlier, q, later, hsplit, hearlier, -⟩ := hfirst hbefore
        exact absurd hearlier (hclear earlier q later hsplit e')
    | ok reached =>
        have hinsert := (insert_eq_error_iff_entryFault hbefore).2 hfault
        exact foldlM_eq_error_iff.2 ⟨before, p, after, reached, rfl, hbefore, hinsert⟩

/-- A list of entries has a set exactly if it is consistent. The set holds the lowered mnemonics
under their numbers and nothing else, and every order of the list has the same one. A list without
a set is refused with the fault of its first entry at fault. -/
theorem consistent_lists_have_one_set_in_any_order (pairs : List (String × UInt16)) :
    ((∃ set, ofPairs pairs = .ok set) ↔ Consistent pairs) ∧
    (∀ set, ofPairs pairs = .ok set →
      (∀ order : List (String × UInt16), order.Perm pairs → ofPairs order = .ok set) ∧
      (∀ mnemonic n, set.opcode? mnemonic = some n ↔
        ∃ p ∈ pairs, p.2.toNat = n.toNat ∧ Text.lowercase p.1 = Text.lowercase mnemonic) ∧
      (∀ n name, set.mnemonic? n = some name ↔
        ∃ p ∈ pairs, p.2.toNat = n.toNat ∧ Text.lowercase p.1 = name)) ∧
    ∀ e, ofPairs pairs = .error e ↔ FirstFault pairs e := by
  refine ⟨exists_ofPairs_iff, ?_, fun e => ofPairs_eq_error_iff⟩
  intro set h
  refine ⟨?_, ?_, ?_⟩
  · intro order hperm
    exact ofPairs_of_perm h hperm
  · intro mnemonic n
    exact opcode?_ofPairs_iff h
  · intro n name
    exact mnemonic?_ofPairs_iff h

/-- Two entries in either order, and an entry that repeats the mnemonic of one and the number of
another. -/
theorem consistent_lists_have_one_set_in_any_order_double_clash :
    (∃ set, ofPairs [("LRA", 3), ("ΑΣ", 127)] = .ok set ∧
      ofPairs [("ΑΣ", 127), ("LRA", 3)] = .ok set ∧ set.opcode? "lra" = some 3 ∧
      set.mnemonic? 127 = some "ας") ∧
    FirstFault [("LRA", 3), ("nop", 5), ("lra", 5), ("big", 128)] (.duplicateOpcode "lra" 5) := by
  constructor
  · obtain ⟨horder, hopcode, hmnemonic⟩ :=
      (consistent_lists_have_one_set_in_any_order [("LRA", 3), ("ΑΣ", 127)]).2.1 _ rfl
    refine ⟨_, rfl, horder _ (List.Perm.swap _ _ _), ?_, ?_⟩
    · exact (hopcode "lra" 3).2 ⟨("LRA", 3), by simp, rfl, by decide +kernel⟩
    · exact (hmnemonic 127 "ας").2 ⟨("ΑΣ", 127), by simp, rfl, by decide +kernel⟩
  · exact ((consistent_lists_have_one_set_in_any_order
      [("LRA", 3), ("nop", 5), ("lra", 5), ("big", 128)]).2.2 _).1 rfl

end MqAssembler.InstructionSet
