/-! # Dictionaries in order of first insertion

Each key has one value. A key that is inserted again keeps its place and takes the new value. -/

namespace MqAssembler

universe u

/-- Entries after an insertion. -/
def Dictionary.insertInto {α : Type u} (key : String) (value : α) :
    List (String × α) → List (String × α)
  | [] => [(key, value)]
  | (k, v) :: rest =>
      if k = key then (key, value) :: rest else (k, v) :: insertInto key value rest

theorem Dictionary.keys_insertInto {α : Type u} (key : String) (value : α)
    (entries : List (String × α)) :
    (insertInto key value entries).map Prod.fst =
      if key ∈ entries.map Prod.fst then entries.map Prod.fst
      else entries.map Prod.fst ++ [key] := by
  induction entries with
  | nil => rfl
  | cons entry rest ih =>
      by_cases h : entry.1 = key
      · simp [insertInto, h]
      · have hne : ¬ key = entry.1 := fun hk => h hk.symm
        by_cases hm : key ∈ rest.map Prod.fst
        · simp only [insertInto, h, if_false, List.map_cons, ih, hm, if_true, List.mem_cons,
            or_true]
        · simp only [insertInto, h, if_false, List.map_cons, ih, hm, List.mem_cons, hne, or_self,
            List.cons_append]

/-- Values by text keys, in the order in which the keys were first inserted. -/
structure Dictionary (α : Type u) where
  /-- The entries in order. -/
  toList : List (String × α)
  /-- No key stands twice. -/
  nodup_keys : (toList.map Prod.fst).Nodup

namespace Dictionary

variable {α : Type u}

/-- The dictionary without entries. -/
def empty : Dictionary α := ⟨[], List.nodup_nil⟩

instance : Inhabited (Dictionary α) := ⟨empty⟩

/-- Gives a key a value. -/
def insert (d : Dictionary α) (key : String) (value : α) : Dictionary α where
  toList := insertInto key value d.toList
  nodup_keys := by
    rw [keys_insertInto]
    split
    · exact d.nodup_keys
    · rename_i hkey
      refine List.nodup_append.2 ⟨d.nodup_keys, by simp, ?_⟩
      intro a ha b hb hab
      have hb' : b = key := by simpa using hb
      exact hkey (hb' ▸ hab ▸ ha)

/-- The value of a key. -/
def get? (d : Dictionary α) (key : String) : Option α :=
  d.toList.lookup key

/-- The dictionary of a list of pairs, inserted one after another. -/
def ofPairs (pairs : List (String × α)) : Dictionary α :=
  pairs.foldl (fun d p => d.insert p.1 p.2) empty

@[simp] theorem toList_empty : (empty : Dictionary α).toList = [] := rfl

@[simp] theorem toList_insert (d : Dictionary α) (key : String) (value : α) :
    (d.insert key value).toList = insertInto key value d.toList := rfl

end Dictionary

end MqAssembler
