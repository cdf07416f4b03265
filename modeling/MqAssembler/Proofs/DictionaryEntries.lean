import MqAssembler.Dictionary
import Mathlib.Data.List.Basic

/-!
# Entries of dictionaries

What an insertion does to the values of a dictionary, and what the dictionary of a list of pairs
holds: every key of the list, and all its pairs in order if no key is repeated.
-/

namespace MqAssembler.Dictionary

variable {α : Type}

theorem lookup_cons_eq_if (key : String) (entry : String × α) (rest : List (String × α)) :
    (entry :: rest).lookup key = if key = entry.1 then some entry.2 else rest.lookup key := by
  by_cases h : key = entry.1
  · rw [if_pos h, h]
    exact List.lookup_cons_self
  · have hne : (key == entry.1) = false := beq_false_of_ne h
    rw [if_neg h, List.lookup_cons, hne]

theorem get?_of_mem {d : Dictionary α} {key : String} {value : α}
    (hmem : (key, value) ∈ d.toList) : d.get? key = some value := by
  have hnodup := d.nodup_keys
  rw [get?]
  generalize d.toList = entries at hmem hnodup
  induction entries with
  | nil => cases hmem
  | cons entry rest ih =>
      rw [List.map_cons, List.nodup_cons] at hnodup
      rcases List.mem_cons.1 hmem with heq | hmem
      · rw [← heq, List.lookup_cons_self]
      · have hkey : key ≠ entry.1 := by
          rintro rfl
          exact hnodup.1 (List.mem_map.2 ⟨_, hmem, rfl⟩)
        rw [lookup_cons_eq_if, if_neg hkey]
        exact ih hmem hnodup.2

/-- A key has a value exactly if the entry of the two stands in the dictionary. -/
theorem get?_eq_some_iff {d : Dictionary α} {key : String} {value : α} :
    d.get? key = some value ↔ (key, value) ∈ d.toList := by
  constructor
  · rw [get?]
    generalize d.toList = entries
    intro h
    induction entries with
    | nil => cases h
    | cons entry rest ih =>
        rw [lookup_cons_eq_if] at h
        split at h
        · rename_i hkey
          rw [hkey, ← Option.some.inj h]
          exact List.mem_cons_self
        · exact List.mem_cons_of_mem _ (ih h)
  · exact get?_of_mem

theorem lookup_insertInto (key other : String) (value : α) (entries : List (String × α)) :
    (insertInto key value entries).lookup other =
      if other = key then some value else entries.lookup other := by
  induction entries with
  | nil => exact lookup_cons_eq_if other (key, value) []
  | cons entry rest ih =>
      rw [insertInto, lookup_cons_eq_if]
      by_cases hentry : entry.1 = key
      · rw [if_pos hentry, lookup_cons_eq_if, hentry]
        split <;> rfl
      · rw [if_neg hentry, lookup_cons_eq_if, ih]
        by_cases hother : other = entry.1
        · rw [if_pos hother, if_neg (hother ▸ hentry), if_pos hother]
        · rw [if_neg hother, if_neg hother]

/-- An insertion gives its key the new value and leaves all other keys alone. -/
theorem get?_insert (d : Dictionary α) (key other : String) (value : α) :
    (d.insert key value).get? other = if other = key then some value else d.get? other :=
  lookup_insertInto key other value d.toList

theorem mem_keys_insert {d : Dictionary α} {key other : String} {value : α} :
    other ∈ (d.insert key value).toList.map Prod.fst ↔
      other = key ∨ other ∈ d.toList.map Prod.fst := by
  rw [toList_insert, keys_insertInto]
  split
  · rename_i hkey
    constructor
    · exact Or.inr
    · rintro (rfl | hother)
      · exact hkey
      · exact hother
  · rw [List.mem_append, List.mem_singleton, or_comm]

/-! ## Dictionaries of lists -/

theorem insertInto_of_not_mem {key : String} {entries : List (String × α)}
    (h : key ∉ entries.map Prod.fst) (value : α) :
    insertInto key value entries = entries ++ [(key, value)] := by
  induction entries with
  | nil => rfl
  | cons entry rest ih =>
      rw [List.map_cons, List.mem_cons, not_or] at h
      rw [insertInto, if_neg (Ne.symm h.1), ih h.2, List.cons_append]

theorem toList_foldl_insert {d : Dictionary α} {pairs : List (String × α)}
    (h : (d.toList.map Prod.fst ++ pairs.map Prod.fst).Nodup) :
    (pairs.foldl (fun d p => d.insert p.1 p.2) d).toList = d.toList ++ pairs := by
  induction pairs generalizing d with
  | nil => simp
  | cons p rest ih =>
      have hkey : p.1 ∉ d.toList.map Prod.fst := by
        intro hmem
        exact (List.nodup_append.1 h).2.2 _ hmem _ (by simp) rfl
      have hinsert : (d.insert p.1 p.2).toList = d.toList ++ [p] :=
        insertInto_of_not_mem hkey p.2
      rw [List.foldl_cons, ih, hinsert, List.append_assoc, List.singleton_append]
      rw [hinsert, List.map_append, List.append_assoc]
      exact h

/-- The dictionary of pairs with distinct keys holds exactly these pairs, in their order. -/
theorem toList_ofPairs {pairs : List (String × α)} (h : (pairs.map Prod.fst).Nodup) :
    (ofPairs pairs).toList = pairs :=
  toList_foldl_insert (d := empty) h

theorem mem_keys_foldl_insert {d : Dictionary α} {pairs : List (String × α)} {key : String} :
    key ∈ (pairs.foldl (fun d p => d.insert p.1 p.2) d).toList.map Prod.fst ↔
      key ∈ pairs.map Prod.fst ∨ key ∈ d.toList.map Prod.fst := by
  induction pairs generalizing d with
  | nil => simp
  | cons p rest ih =>
      rw [List.foldl_cons, ih, mem_keys_insert, List.map_cons, List.mem_cons, or_left_comm,
        or_assoc]

/-- The dictionary of some pairs holds each of their keys, and no other. -/
theorem mem_keys_ofPairs {pairs : List (String × α)} {key : String} :
    key ∈ (ofPairs pairs).toList.map Prod.fst ↔ key ∈ pairs.map Prod.fst := by
  rw [ofPairs, mem_keys_foldl_insert, toList_empty, List.map_nil]
  simp

end MqAssembler.Dictionary
