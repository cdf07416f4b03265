import MqAssembler.InstructionSet
import MqAssembler.Proofs.CheckChain
import MqAssembler.Proofs.LowercaseStability

/-!
# Instruction sets in use

Every instruction set that insertions can build is lawful: its mnemonics are lowered texts, and
none stands under two numbers. In a lawful set the two lookups undo each other. A run of calls, of
which some are refused, keeps this and counts what was accepted.

## Implementation notes

An insertion is described once, with its guards, by `insert_eq_ok_iff`. Lookup by mnemonic lowers
its argument again, so the way back from a number needs that a stored mnemonic is its own
lower-case form.
-/

namespace MqAssembler

namespace InstructionSet

open CheckChain

variable {set next : InstructionSet}

/-- The instruction sets that insertions build, starting from nothing or from a list of entries. -/
inductive Reachable : InstructionSet → Prop
  | empty : Reachable .empty
  | ofPairs {pairs : List (String × UInt16)} {set : InstructionSet}
      (h : ofPairs pairs = .ok set) : Reachable set
  | insert {set next : InstructionSet} {mnemonic : String} {number : UInt16}
      (hset : Reachable set) (h : set.insert mnemonic number = .ok next) : Reachable next

/-- What the slots of a set satisfy however it was built. -/
structure Lawful (set : InstructionSet) : Prop where
  lowered : ∀ {n : Nat} (hn : n < 128) {name : String},
    set.slots[n] = some name → Text.lowercase name = name
  unique : ∀ {m n : Nat} (hm : m < 128) (hn : n < 128) {name : String},
    set.slots[m] = some name → set.slots[n] = some name → m = n

/-- An insertion succeeds exactly if the number fits its field and neither the number nor the
lowered mnemonic is taken. It then fills one slot. -/
theorem insert_eq_ok_iff {mnemonic : String} {number : UInt16} :
    set.insert mnemonic number = .ok next ↔
      ∃ h : number.toNat < 128, set.numberOf? (Text.lowercase mnemonic) = none ∧
        set.slots[number.toNat] = none ∧
        next = ⟨set.slots.set number.toNat (some (Text.lowercase mnemonic))⟩ := by
  rw [insert]
  split
  · rename_i h
    split
    · rename_i htaken
      simp only [reduceCtorEq, false_iff]
      rintro ⟨_, hname, hnumber, -⟩
      simp [hname, hnumber] at htaken
    · rename_i hfree
      rw [Bool.or_eq_true, not_or, Option.not_isSome_iff_eq_none,
        Option.not_isSome_iff_eq_none] at hfree
      constructor
      · intro hok
        exact ⟨h, hfree.1, hfree.2, (Except.ok.inj hok).symm⟩
      · rintro ⟨-, -, -, rfl⟩
        rfl
  · rename_i h
    simp only [reduceCtorEq, false_iff]
    rintro ⟨h', -⟩
    exact h h'

theorem numberOf?_eq_none_iff {name : String} :
    set.numberOf? name = none ↔ ∀ (n : Nat) (hn : n < 128), set.slots[n] ≠ some name := by
  simp [numberOf?, Fin.forall_iff]

theorem slot_of_numberOf? {name : String} {n : Nat} {hn : n < 128}
    (h : set.numberOf? name = some ⟨n, hn⟩) : set.slots[n] = some name := by
  simpa using List.find?_some h

/-- In a lawful set the search by mnemonic finds the slot that holds it. -/
theorem Lawful.numberOf?_eq_some_iff (h : set.Lawful) {name : String} {n : Nat} {hn : n < 128} :
    set.numberOf? name = some ⟨n, hn⟩ ↔ set.slots[n] = some name := by
  constructor
  · exact slot_of_numberOf?
  · intro hslot
    cases hfind : set.numberOf? name with
    | none => exact absurd hslot (numberOf?_eq_none_iff.1 hfind n hn)
    | some i =>
        have hi : i.val = n := h.unique i.isLt hn (slot_of_numberOf? hfind) hslot
        exact congrArg some (Fin.ext hi)

/-! ## Runs of insertions -/

theorem lawful_empty : Lawful .empty := by
  constructor <;> simp [empty]

/-- A slot after an insertion holds the new mnemonic, or it is another slot and unchanged. -/
theorem slot_set_cases {mnemonic name : String} {k n : Nat} (hk : k < 128) {hn : n < 128}
    (h : (set.slots.set k (some mnemonic))[n] = some name) :
    (n = k ∧ name = mnemonic) ∨ set.slots[n] = some name := by
  rw [Vector.getElem_set] at h
  split at h
  · rename_i heq
    exact Or.inl ⟨heq.symm, (Option.some.inj h).symm⟩
  · exact Or.inr h

/-- One insertion preserves lawfulness. -/
theorem Lawful.insert (hset : set.Lawful) {mnemonic : String} {number : UInt16}
    (h : set.insert mnemonic number = .ok next) : next.Lawful := by
  obtain ⟨hlt, hname, -, rfl⟩ := insert_eq_ok_iff.1 h
  have hfresh := numberOf?_eq_none_iff.1 hname
  constructor
  · intro n hn name hslot
    rcases slot_set_cases hlt hslot with ⟨-, rfl⟩ | hslot
    · exact Text.lowercase_lowercase mnemonic
    · exact hset.lowered hn hslot
  · intro m n hm hn name hm_slot hn_slot
    -- the new mnemonic was in no slot, so it cannot stand in an old one as well
    rcases slot_set_cases hlt hm_slot with ⟨hm_eq, rfl⟩ | hm_old
    · rcases slot_set_cases hlt hn_slot with ⟨hn_eq, -⟩ | hn_old
      · exact hm_eq.trans hn_eq.symm
      · exact absurd hn_old (hfresh n hn)
    · rcases slot_set_cases hlt hn_slot with ⟨-, rfl⟩ | hn_old
      · exact absurd hm_old (hfresh m hm)
      · exact hset.unique hm hn hm_old hn_old

theorem lawful_ofPairs {pairs : List (String × UInt16)} (h : ofPairs pairs = .ok set) :
    set.Lawful :=
  foldlM_preserves (fun hset hinsert => hset.insert hinsert) lawful_empty h

/-- Every set in use is lawful. -/
theorem Reachable.lawful (h : set.Reachable) : set.Lawful := by
  induction h with
  | empty => exact lawful_empty
  | ofPairs h => exact lawful_ofPairs h
  | insert _ h ih => exact ih.insert h

/-! ## Lookups -/

theorem mnemonic?_eq_some_iff {number : UInt8} {name : String} :
    set.mnemonic? number = some name ↔
      ∃ h : number.toNat < 128, set.slots[number.toNat] = some name := by
  rw [mnemonic?]
  split
  · rename_i h
    exact ⟨fun hname => ⟨h, hname⟩, fun ⟨_, hname⟩ => hname⟩
  · rename_i h
    simp [h]

/-- The mnemonic of a number leads back to that number. -/
theorem Lawful.opcode?_of_mnemonic? (hset : set.Lawful) {number : UInt8} {name : String}
    (h : set.mnemonic? number = some name) : set.opcode? name = some number := by
  obtain ⟨hlt, hslot⟩ := mnemonic?_eq_some_iff.1 h
  rw [opcode?, hset.lowered hlt hslot, hset.numberOf?_eq_some_iff.2 hslot, Option.map_some,
    UInt8.ofNat_toNat]

/-- A mnemonic has a number exactly if its lowered form stands under that number. -/
theorem Lawful.opcode?_eq_some_iff (hset : set.Lawful) {mnemonic : String} {number : UInt8} :
    set.opcode? mnemonic = some number ↔
      set.mnemonic? number = some (Text.lowercase mnemonic) := by
  constructor
  · intro h
    obtain ⟨⟨n, hn⟩, hfind, rfl⟩ := Option.map_eq_some_iff.1 h
    have hnumber : (UInt8.ofNat n).toNat = n := by
      rw [UInt8.toNat_ofNat']
      exact Nat.mod_eq_of_lt (by omega)
    rw [mnemonic?_eq_some_iff]
    simp only [hnumber]
    exact ⟨hn, slot_of_numberOf? hfind⟩
  · intro h
    have hback := hset.opcode?_of_mnemonic? h
    rwa [opcode?, Text.lowercase_lowercase] at hback

/-! ## Calls one after another -/

theorem size_le (set : InstructionSet) : set.size ≤ 128 := by
  calc
    set.size ≤ set.slots.toList.length := List.countP_le_length
    _ = 128 := set.slots.length_toList

theorem size_empty : size .empty = 0 := by
  decide

/-- An accepted entry fills one more slot. -/
theorem size_insert {mnemonic : String} {number : UInt16}
    (h : set.insert mnemonic number = .ok next) : next.size = set.size + 1 := by
  obtain ⟨hlt, -, hfree, rfl⟩ := insert_eq_ok_iff.1 h
  have hlength : number.toNat < set.slots.toList.length := by
    rw [Vector.length_toList]
    exact hlt
  have hnone : set.slots.toList[number.toNat] = none := by
    rw [Vector.getElem_toList]
    exact hfree
  simp only [size, Vector.toList_set]
  rw [List.countP_set hlength, hnone]
  rfl

/-- An accepted entry leaves every slot in use as it was. -/
theorem slot_of_insert {mnemonic : String} {number : UInt16}
    (h : set.insert mnemonic number = .ok next) {n : Nat} {hn : n < 128} {name : String}
    (hslot : set.slots[n] = some name) : next.slots[n] = some name := by
  obtain ⟨hlt, -, hfree, rfl⟩ := insert_eq_ok_iff.1 h
  have hne : number.toNat ≠ n := by
    rintro rfl
    rw [hfree] at hslot
    cases hslot
  simp only [Vector.getElem_set_ne _ _ hne, hslot]

theorem mnemonic?_of_insert {mnemonic : String} {number : UInt16}
    (h : set.insert mnemonic number = .ok next) {n : UInt8} {name : String}
    (hname : set.mnemonic? n = some name) : next.mnemonic? n = some name := by
  obtain ⟨hlt, hslot⟩ := mnemonic?_eq_some_iff.1 hname
  exact mnemonic?_eq_some_iff.2 ⟨hlt, slot_of_insert h hslot⟩

/-- A call is accepted and leaves the extended set, or it is refused and leaves the set alone. -/
theorem run_enter_cases (set : InstructionSet) (mnemonic : String) (number : UInt16) :
    (∃ next, set.insert mnemonic number = .ok next ∧
      (enter mnemonic number).run set = (.ok (), next)) ∨
    ∃ e, set.insert mnemonic number = .error e ∧
      (enter mnemonic number).run set = (.error e, set) := by
  cases h : set.insert mnemonic number with
  | ok next =>
      refine Or.inl ⟨next, rfl, ?_⟩
      simp only [enter, StateT.run_bind, StateT.run_get, pure_bind, h]
      rfl
  | error e =>
      refine Or.inr ⟨e, rfl, ?_⟩
      simp only [enter, StateT.run_bind, StateT.run_get, pure_bind, h]
      rfl

/-- A run of calls: the answer to each of them, and the set at the end. -/
def enterAll (calls : List (String × UInt16)) :
    StateM InstructionSet (List (Except MachineError Unit)) :=
  calls.mapM fun call => enter call.1 call.2

theorem run_enterAll_cons (set : InstructionSet) (call : String × UInt16)
    (rest : List (String × UInt16)) :
    (enterAll (call :: rest)).run set =
      let first := (enter call.1 call.2).run set
      let others := (enterAll rest).run first.2
      (first.1 :: others.1, others.2) := by
  rw [enterAll, List.mapM_cons]
  rfl

/-- A run starts in a set in use and ends in one. -/
theorem Reachable.enterAll (hset : set.Reachable) (calls : List (String × UInt16)) :
    ((enterAll calls).run set).2.Reachable := by
  induction calls generalizing set with
  | nil => exact hset
  | cons call rest ih =>
      rw [run_enterAll_cons]
      apply ih
      obtain ⟨next, hinsert, hrun⟩ | ⟨e, -, hrun⟩ := run_enter_cases set call.1 call.2
      · rw [hrun]
        exact hset.insert hinsert
      · rw [hrun]
        exact hset

/-- Each accepted call of a run adds one entry, and no other call does. -/
theorem size_enterAll (set : InstructionSet) (calls : List (String × UInt16)) :
    ((enterAll calls).run set).2.size =
      set.size + ((enterAll calls).run set).1.countP Except.isOk := by
  induction calls generalizing set with
  | nil => rfl
  | cons call rest ih =>
      rw [run_enterAll_cons]
      obtain ⟨next, hinsert, hrun⟩ | ⟨e, -, hrun⟩ := run_enter_cases set call.1 call.2
      · simp only [hrun, ih, size_insert hinsert]
        rw [List.countP_cons_of_pos rfl]
        omega
      · simp only [hrun, ih]
        rw [List.countP_cons_of_neg (by simp [Except.isOk, Except.toBool])]

/-- A list of entries that is accepted as a whole adds one entry for each of its pairs. -/
theorem size_of_foldlM_insert {pairs : List (String × UInt16)} {start final : InstructionSet}
    (h : pairs.foldlM (fun set p => set.insert p.1 p.2) start = .ok final) :
    final.size = start.size + pairs.length := by
  induction pairs generalizing start with
  | nil =>
      rw [← Except.ok.inj h]
      rfl
  | cons p rest ih =>
      rw [List.foldlM_cons] at h
      obtain ⟨next, hinsert, hrest⟩ := bind_eq_ok_iff.1 h
      rw [ih hrest, size_insert hinsert, List.length_cons]
      omega

/-- Where a run may start, with the number of entries accepted until then. -/
inductive Start : InstructionSet → Nat → Prop
  | empty : Start .empty 0
  | ofPairs {pairs : List (String × UInt16)} {set : InstructionSet}
      (h : ofPairs pairs = .ok set) : Start set pairs.length

theorem Start.reachable {accepted : Nat} (h : Start set accepted) : set.Reachable := by
  cases h with
  | empty => exact Reachable.empty
  | ofPairs h => exact Reachable.ofPairs h

theorem Start.size_eq {accepted : Nat} (h : Start set accepted) : set.size = accepted := by
  cases h with
  | empty => exact size_empty
  | ofPairs h => rw [size_of_foldlM_insert h, size_empty, Nat.zero_add]

/-- After any run of calls the two lookups undo each other up to letter case, every mnemonic is
stored in lower case under a number that a word can hold, and the size counts the accepted calls.
A refused call leaves the set as it was, and no call changes an answer that a lookup already
gives. -/
theorem insertion_runs_keep_set_bijective (start : InstructionSet) (accepted : Nat)
    (hstart : Start start accepted) (calls : List (String × UInt16))
    (answers : List (Except MachineError Unit)) (reached : InstructionSet)
    (hrun : (enterAll calls).run start = (answers, reached)) :
    (∀ mnemonic number, reached.opcode? mnemonic = some number ↔
      reached.mnemonic? number = some (Text.lowercase mnemonic)) ∧
    (∀ number name, reached.mnemonic? number = some name →
      Text.lowercase name = name ∧ reached.opcode? name = some number ∧ number.toNat ≤ 127) ∧
    reached.size = accepted + answers.countP Except.isOk ∧ reached.size ≤ 128 ∧
    ∀ mnemonic number answer next, (enter mnemonic number).run reached = (answer, next) →
      (∀ e, answer = .error e → next = reached) ∧
      (∀ name n, reached.opcode? name = some n → next.opcode? name = some n) ∧
      (∀ n name, reached.mnemonic? n = some name → next.mnemonic? n = some name) := by
  have hreached : reached.Reachable := by
    have hend := hstart.reachable.enterAll calls
    rwa [hrun] at hend
  have hlawful := hreached.lawful
  refine ⟨fun _ _ => hlawful.opcode?_eq_some_iff, ?_, ?_, reached.size_le, ?_⟩
  · intro number name hname
    obtain ⟨hlt, hslot⟩ := mnemonic?_eq_some_iff.1 hname
    exact ⟨hlawful.lowered hlt hslot, hlawful.opcode?_of_mnemonic? hname, Nat.le_of_lt_succ hlt⟩
  · have hsize := size_enterAll start calls
    rwa [hrun, hstart.size_eq] at hsize
  · intro mnemonic number answer next hcall
    obtain ⟨next', hinsert, hcall'⟩ | ⟨e, -, hcall'⟩ := run_enter_cases reached mnemonic number
    · obtain ⟨rfl, rfl⟩ := Prod.mk.inj (hcall.symm.trans hcall')
      have hnext := (hreached.insert hinsert).lawful
      refine ⟨fun e he => (nomatch he), ?_, fun n name => mnemonic?_of_insert hinsert⟩
      intro name n hn
      rw [hlawful.opcode?_eq_some_iff] at hn
      rw [hnext.opcode?_eq_some_iff]
      exact mnemonic?_of_insert hinsert hn
    · obtain ⟨rfl, rfl⟩ := Prod.mk.inj (hcall.symm.trans hcall')
      exact ⟨fun _ _ => rfl, fun _ _ h => h, fun _ _ h => h⟩

/-- The second call is refused, and the third mnemonic ends in a capital sigma. -/
theorem insertion_runs_keep_set_bijective_final_sigma :
    ∃ reached, (enterAll [("LRA", 3), ("lra", 5), ("ΑΣ", 127)]).run .empty =
        ([.ok (), .error (.duplicateOpcode "lra" 5), .ok ()], reached) ∧
      reached.size = 0 + 2 ∧ reached.opcode? "ας" = some 127 := by
  have hrun : (enterAll [("LRA", 3), ("lra", 5), ("ΑΣ", 127)]).run .empty =
      ([.ok (), .error (.duplicateOpcode "lra" 5), .ok ()],
        ⟨(empty.slots.set 3 (some "lra")).set 127 (some "ας")⟩) := rfl
  obtain ⟨-, hnames, hsize, -, -⟩ :=
    insertion_runs_keep_set_bijective _ 0 Start.empty _ _ _ hrun
  exact ⟨_, hrun, hsize, (hnames 127 "ας" rfl).2.1⟩

end InstructionSet

end MqAssembler
