import MqAssembler.FileStore
import MqAssembler.Proofs.DictionaryEntries

/-!
# File stores are lawful

A file store keeps the laws of file systems. A path that can be opened leads to a device, which
changes nothing, or to one file, which is emptied and then takes all bytes; every other file is left
alone, and afterwards the path leads to that file.

## Implementation notes

A path is walked step by step, and a step goes into a directory if some file lies below it. Creating
a file adds one name and takes none away, so directories stay directories; and the name that it adds
lies in directories that the walk has already entered, so the walk takes the same way again. Filling
a file adds no name at all.
-/

namespace MqAssembler.FileStore

variable {store : FileStore} {path name : String}

/-- A path leads to the file with this name, which may still have to be created. -/
def LeadsTo (store : FileStore) (path name : String) : Prop :=
  store.locate path = .file name ∨ store.locate path = .vacant name

/-- What is opened is the file that the path leads to, which is emptied, or a device. -/
theorem create_cases {handle : Handle} {opened : FileStore}
    (h : store.create path = some (handle, opened)) :
    (∃ name, store.LeadsTo path name ∧ handle = .file name ∧ opened = store.put name []) ∨
    (store.file? path = none ∧ handle.target? = none ∧ opened = store) := by
  simp only [create] at h
  simp only [file?]
  cases hplace : store.locate path with
  | file name =>
      obtain ⟨rfl, rfl⟩ : Handle.file name = handle ∧ store.put name [] = opened := by
        simpa [hplace] using h
      exact Or.inl ⟨name, Or.inl hplace, rfl, rfl⟩
  | vacant name =>
      obtain ⟨rfl, rfl⟩ : Handle.file name = handle ∧ store.put name [] = opened := by
        simpa [hplace] using h
      exact Or.inl ⟨name, Or.inr hplace, rfl, rfl⟩
  | sink =>
      obtain ⟨rfl, rfl⟩ : Handle.sink = handle ∧ store = opened := by simpa [hplace] using h
      exact Or.inr ⟨rfl, rfl, rfl⟩
  | full =>
      obtain ⟨rfl, rfl⟩ : Handle.full = handle ∧ store = opened := by simpa [hplace] using h
      exact Or.inr ⟨rfl, rfl, rfl⟩
  | directory => simp [hplace] at h
  | nowhere => simp [hplace] at h

/-- What is filled is the file behind the handle, if there is one. -/
theorem fill_cases (store : FileStore) (handle : Handle) (bytes : List UInt8) :
    (∃ name, handle = .file name ∧ store.fill handle bytes =
      (true, store.put name ((store.files.get? name).getD [] ++ bytes))) ∨
    (handle.target? = none ∧ (store.fill handle bytes).2 = store) := by
  cases handle with
  | file name => exact Or.inl ⟨name, rfl, rfl⟩
  | sink => exact Or.inr ⟨rfl, rfl⟩
  | full => exact Or.inr ⟨rfl, rfl⟩

theorem get?_put (store : FileStore) (name : String) (bytes : List UInt8) (other : String) :
    (store.put name bytes).files.get? other =
      if other = name then some bytes else store.files.get? other :=
  store.files.get?_insert name other bytes

theorem file?_eq_some_iff : store.file? path = some name ↔ store.locate path = .file name := by
  simp only [file?]
  cases store.locate path <;> simp

/-! ## The way of a path -/

theorem isDirectory_eq_true_iff {steps : List String} :
    store.isDirectory steps = true ↔
      ∃ key ∈ store.files.toList.map Prod.fst, (nameOf steps ++ "/").toList <+: key.toList := by
  simp [isDirectory]

theorem isDirectory_put {steps : List String} (h : store.isDirectory steps = true)
    (name : String) (bytes : List UInt8) :
    (store.put name bytes).isDirectory steps = true := by
  obtain ⟨key, hkey, hprefix⟩ := isDirectory_eq_true_iff.1 h
  exact isDirectory_eq_true_iff.2 ⟨key, Dictionary.mem_keys_insert.2 (Or.inr hkey), hprefix⟩

/-- A file is not turned into a directory when it is written. -/
theorem isDirectory_put_self {steps : List String} (h : store.isDirectory steps = false)
    (bytes : List UInt8) : (store.put (nameOf steps) bytes).isDirectory steps = false := by
  rw [← Bool.not_eq_true] at h ⊢
  intro hput
  obtain ⟨key, hkey, hprefix⟩ := isDirectory_eq_true_iff.1 hput
  rcases Dictionary.mem_keys_insert.1 hkey with rfl | hkey
  · have hlength := hprefix.length_le
    rw [String.toList_append, List.length_append] at hlength
    exact absurd hlength (Nat.not_le.2 (Nat.lt_add_of_pos_right (by decide)))
  · exact h (isDirectory_eq_true_iff.2 ⟨key, hkey, hprefix⟩)

/-- The last step of a walk leads to the file of that name once it has been written. -/
theorem walk_put_last {here rest : List String} {step : String} (hidle : ¬ isIdle step = true)
    (hup : ¬ (step == "..") = true) (hfile : ¬ store.isDirectory (step :: here) = true)
    (hrest : rest.isEmpty = true) (bytes : List UInt8) :
    (store.put (nameOf (step :: here)) bytes).walk here (step :: rest) =
      .file (nameOf (step :: here)) := by
  have hdirectory := isDirectory_put_self (Bool.not_eq_true _ ▸ hfile) bytes
  have hget : ((store.put (nameOf (step :: here)) bytes).files.get?
      (nameOf (step :: here))).isSome = true := by
    rw [put, Dictionary.get?_insert, if_pos rfl, Option.isSome_some]
  rw [walk.eq_def]
  simp only [if_neg hidle, if_neg hup, hdirectory, Bool.false_eq_true, if_false, if_pos hrest,
    if_pos hget]

/-- A walk that ends at a file takes the same way when that file has been written. -/
theorem walk_put {here steps : List String} (bytes : List UInt8)
    (h : store.walk here steps = .file name ∨ store.walk here steps = .vacant name) :
    (store.put name bytes).walk here steps = .file name := by
  fun_induction store.walk here steps with
  | case1 here => simp at h
  | case2 here step rest hidle ih =>
      rw [walk.eq_def]
      simp only [if_pos hidle]
      exact ih h
  | case3 step rest hidle hup hall => simp at h
  | case4 step rest hidle hup hall => simp at h
  | case5 step rest hidle hup last up ih =>
      rw [walk.eq_def]
      simp only [if_neg hidle, if_pos hup]
      exact ih h
  | case6 here step rest hidle hup next hdirectory ih =>
      have hdirectory := isDirectory_put hdirectory name bytes
      rw [walk.eq_def]
      simp only [if_neg hidle, if_neg hup]
      rw [if_pos hdirectory]
      exact ih h
  | case7 here step rest hidle hup next hdirectory hrest hget =>
      have hname : nameOf next = name := by simpa using h
      rw [← hname]
      exact walk_put_last hidle hup hdirectory hrest bytes
  | case8 here step rest hidle hup next hdirectory hrest hget hlong =>
      have hname : nameOf next = name := by simpa using h
      rw [← hname]
      exact walk_put_last hidle hup hdirectory hrest bytes
  | case9 here step rest hidle hup next hdirectory hrest hget hlong => simp at h
  | case10 here step rest hidle hup next hdirectory hrest => simp at h

/-- A path leads to the file that was written through it. -/
theorem LeadsTo.locate_put (h : store.LeadsTo path name) (bytes : List UInt8) :
    (store.put name bytes).locate path = .file name := by
  simp only [LeadsTo, locate] at h ⊢
  split at h
  · simp at h
  · split at h
    · simp at h
    · split at h
      · simp at h
      · rename_i hnull hfull hinside
        rw [if_neg hnull, if_neg hfull, if_neg hinside]
        exact walk_put bytes h

/-- Stores with the same names lead paths the same way. -/
theorem walk_congr {other : FileStore}
    (hdirectory : ∀ steps, store.isDirectory steps = other.isDirectory steps)
    (hfile : ∀ name, (store.files.get? name).isSome = (other.files.get? name).isSome)
    (here steps : List String) : store.walk here steps = other.walk here steps := by
  induction steps generalizing here with
  | nil => rfl
  | cons step rest ih => cases here <;> simp only [walk, hdirectory, hfile, ih]

/-- A new content of a file leads no path elsewhere. -/
theorem locate_put_of_get? {held : List UInt8} (h : store.files.get? name = some held)
    (bytes : List UInt8) (path : String) :
    (store.put name bytes).locate path = store.locate path := by
  have hkey : name ∈ store.files.toList.map Prod.fst :=
    List.mem_map_of_mem (Dictionary.get?_eq_some_iff.1 h)
  have hdirectory (steps : List String) :
      (store.put name bytes).isDirectory steps = store.isDirectory steps := by
    rw [Bool.eq_iff_iff, isDirectory_eq_true_iff, isDirectory_eq_true_iff]
    simp only [put, Dictionary.mem_keys_insert]
    constructor
    · rintro ⟨key, rfl | hmem, hprefix⟩
      · exact ⟨_, hkey, hprefix⟩
      · exact ⟨key, hmem, hprefix⟩
    · rintro ⟨key, hmem, hprefix⟩
      exact ⟨key, Or.inr hmem, hprefix⟩
  have hfile (other : String) :
      ((store.put name bytes).files.get? other).isSome = (store.files.get? other).isSome := by
    rw [get?_put]
    split
    · rename_i hother
      rw [hother, h, Option.isSome_some, Option.isSome_some]
    · rfl
  simp only [locate, walk_congr hdirectory hfile]

/-- A file at the end of a walk exists. -/
theorem isSome_get?_of_walk {here steps : List String} (h : store.walk here steps = .file name) :
    (store.files.get? name).isSome = true := by
  fun_induction store.walk here steps with
  | case2 here step rest hidle ih => exact ih h
  | case5 step rest hidle hup last up ih => exact ih h
  | case6 here step rest hidle hup next hdirectory ih => exact ih h
  | case7 here step rest hidle hup next hdirectory hrest hget =>
      obtain rfl : nameOf next = name := by simpa using h
      exact hget
  | case1 | case3 | case4 | case8 | case9 | case10 => simp at h

theorem isSome_get?_of_file? (h : store.file? path = some name) :
    (store.files.get? name).isSome = true := by
  rw [file?_eq_some_iff, locate] at h
  split at h
  · cases h
  · split at h
    · cases h
    · split at h
      · cases h
      · exact isSome_get?_of_walk h

/-! ## The laws -/

section Laws

variable {handle : Handle} {opened : FileStore} {bytes : List UInt8}

theorem get?_of_read (hfile : store.file? path = some name) (hread : store.read path = .ok bytes) :
    store.files.get? name = some bytes := by
  obtain ⟨held, hheld⟩ := Option.isSome_iff_exists.1 (isSome_get?_of_file? hfile)
  simp only [read, file?_eq_some_iff.1 hfile, hheld, Option.getD_some] at hread
  rw [hheld, Except.ok.inj hread]

theorem target?_of_file? (hcreate : store.create path = some (handle, opened))
    (hfile : store.file? path = some name) : handle.target? = some name := by
  obtain ⟨leads, hleads, rfl, -⟩ | ⟨hdevice, -, -⟩ := create_cases hcreate
  · rw [LeadsTo, file?_eq_some_iff.1 hfile] at hleads
    obtain rfl : name = leads := by simpa using hleads
    rfl
  · exact nomatch hdevice.symm.trans hfile

theorem file?_create (hcreate : store.create path = some (handle, opened)) :
    opened.file? path = handle.target? := by
  obtain ⟨name, hname, rfl, rfl⟩ | ⟨hfile, hdevice, rfl⟩ := create_cases hcreate
  · exact file?_eq_some_iff.2 (hname.locate_put [])
  · exact hfile.trans hdevice.symm

theorem get?_create (hcreate : store.create path = some (handle, opened))
    (htarget : handle.target? = some name) : opened.files.get? name = some [] := by
  obtain ⟨leads, -, rfl, rfl⟩ | ⟨-, hdevice, -⟩ := create_cases hcreate
  · obtain rfl : leads = name := Option.some.inj htarget
    rw [get?_put, if_pos rfl]
  · exact nomatch hdevice.symm.trans htarget

theorem get?_create_of_ne (hcreate : store.create path = some (handle, opened))
    (htarget : handle.target? ≠ some name) :
    opened.files.get? name = store.files.get? name := by
  obtain ⟨leads, -, rfl, rfl⟩ | ⟨-, -, rfl⟩ := create_cases hcreate
  · have hne : name ≠ leads := fun h => htarget (congrArg some h.symm)
    rw [get?_put, if_neg hne]
  · rfl

theorem file?_fill
    (hopen : ∀ name, handle.target? = some name → ∃ held, store.files.get? name = some held)
    (bytes : List UInt8) (path : String) :
    (store.fill handle bytes).2.file? path = store.file? path := by
  obtain ⟨name, rfl, hfill⟩ | ⟨-, hfill⟩ := fill_cases store handle bytes
  · obtain ⟨held, hheld⟩ := hopen name rfl
    simp only [hfill, file?, locate_put_of_get? hheld]
  · rw [hfill]

theorem get?_fill {held : List UInt8} (htarget : handle.target? = some name)
    (hheld : store.files.get? name = some held) (bytes : List UInt8) :
    (store.fill handle bytes).2.files.get? name = some (held ++ bytes) := by
  obtain ⟨target, rfl, hfill⟩ | ⟨hdevice, -⟩ := fill_cases store handle bytes
  · obtain rfl : target = name := Option.some.inj htarget
    rw [hfill, get?_put, if_pos rfl, hheld, Option.getD_some]
  · exact nomatch hdevice.symm.trans htarget

theorem get?_fill_of_ne (htarget : handle.target? ≠ some name) (bytes : List UInt8) :
    (store.fill handle bytes).2.files.get? name = store.files.get? name := by
  obtain ⟨target, rfl, hfill⟩ | ⟨-, hfill⟩ := fill_cases store handle bytes
  · have hne : name ≠ target := fun h => htarget (congrArg some h.symm)
    rw [hfill, get?_put, if_neg hne]
  · rw [hfill]

end Laws

instance : LawfulFileSystem FileStore where
  content?_of_read := get?_of_read
  target?_of_file? := target?_of_file?
  file?_create := file?_create
  content?_create := get?_create
  content?_create_of_ne := get?_create_of_ne
  file?_fill := file?_fill
  content?_fill _ hfile hheld := get?_fill hfile hheld _
  content?_fill_of_ne := get?_fill_of_ne

end MqAssembler.FileStore
