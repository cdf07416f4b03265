import MqAssembler.Proofs.AssemblyOutcome
import MqAssembler.Proofs.DictionaryEntries
import MqAssembler.Proofs.EntryListOutcome

/-!
# Tables of the same entries

An instruction set, an ordered table and a one-way table that are built from the same lower-case
entries cannot be told apart by programs in lower case: they assemble to the same bytes or fail with
the same fault. The two tables that name numbers give every number the same name.

## Implementation notes

Assembly asks a table only for the numbers of the mnemonics in the program, so tables that agree on
these have the same outcome. What each table answers is brought to one form, membership in the list
of entries. A set looks a mnemonic up in lower case, an ordered table takes the first entry with a
number; the two differences vanish because the entries are in lower case and no number stands twice.
-/

namespace MqAssembler

/-! ## Tables that agree on a program -/

section Agreement

variable {table other : OpcodeTable}

theorem Instruction.toWord_congr {i : Instruction}
    (h : table.opcode? i.mnemonic = other.opcode? i.mnemonic) :
    i.toWord table = i.toWord other := by
  rw [toWord, toWord, h]

theorem Instruction.encodeAll_congr {code : List Instruction}
    (h : ∀ i ∈ code, table.opcode? i.mnemonic = other.opcode? i.mnemonic) :
    encodeAll table code = encodeAll other code := by
  induction code with
  | nil => rfl
  | cons i rest ih =>
      obtain ⟨hi, hrest⟩ := List.forall_mem_cons.1 h
      rw [encodeAll_cons, encodeAll_cons, toWord_congr hi, ih hrest]

/-- Tables that give the mnemonics of a program the same numbers assemble it alike. -/
theorem assembleReporting_congr {code : List Instruction}
    (h : ∀ i ∈ code, table.opcode? i.mnemonic = other.opcode? i.mnemonic) (verbose : Bool)
    (includes : List String) :
    assembleReporting verbose includes code table =
      assembleReporting verbose includes code other := by
  have hwrite : Buffer.writeExecutable includes code table =
      Buffer.writeExecutable includes code other := by
    rw [Buffer.writeExecutable_eq, Buffer.writeExecutable_eq, Instruction.encodeAll_congr h]
  rw [assembleReporting, assembleReporting, hwrite]

/-- Tables that give all numbers the same mnemonics read every word alike. -/
theorem Instruction.ofWord?_congr (h : ∀ n, table.mnemonic? n = other.mnemonic? n) (w : Word) :
    ofWord? w table = ofWord? w other := by
  rw [ofWord?, ofWord?, h]

end Agreement

/-! ## Answers of a dictionary -/

/-- If no number stands twice, an ordered table names a number by the entry that has it. -/
theorem OpcodeTable.mnemonic?_ordered_iff {entries : Dictionary UInt8}
    (hdistinct : (entries.toList.map Prod.snd).Nodup) {n : UInt8} {name : String} :
    (ordered entries).mnemonic? n = some name ↔ (name, n) ∈ entries.toList := by
  constructor
  · intro h
    obtain ⟨⟨name', n'⟩, hfind, rfl⟩ := Option.map_eq_some_iff.1 h
    have hn : n' = n := by simpa using List.find?_some hfind
    exact hn ▸ List.mem_of_find?_eq_some hfind
  · intro hmem
    simp only [ordered]
    cases hfind : entries.toList.find? (·.2 == n) with
    | none =>
        have habsent := List.find?_eq_none.1 hfind _ hmem
        simp at habsent
    | some found =>
        have hn : found.2 = n := by simpa using List.find?_some hfind
        have hfound := List.mem_of_find?_eq_some hfind
        -- the entry found first is the only one with that number
        rw [List.inj_on_of_nodup_map hdistinct hfound hmem hn, Option.map_some]

/-! ## Entries with numbers of one byte -/

namespace InstructionSet

/-- Entries with their numbers cut to one byte. -/
def narrowed (pairs : List (String × UInt16)) : List (String × UInt8) :=
  pairs.map fun p => (p.1, p.2.toUInt8)

namespace Consistent

variable {pairs : List (String × UInt16)}

/-- The numbers of a consistent list survive the cut. -/
theorem toNat_toUInt8 (h : Consistent pairs) {p : String × UInt16} (hp : p ∈ pairs) :
    p.2.toUInt8.toNat = p.2.toNat := by
  have hfits := h.numbers_fit p hp
  rw [UInt16.toNat_toUInt8]
  omega

/-- Lower-case entries are kept as a set would keep them. -/
theorem mem_narrowed_iff (h : Consistent pairs)
    (hlower : ∀ p ∈ pairs, Text.lowercase p.1 = p.1) {name : String} {n : UInt8} :
    (name, n) ∈ narrowed pairs ↔
      ∃ p ∈ pairs, p.2.toNat = n.toNat ∧ Text.lowercase p.1 = name := by
  simp only [narrowed, List.mem_map, Prod.mk.injEq]
  constructor
  · rintro ⟨p, hp, rfl, rfl⟩
    exact ⟨p, hp, (h.toNat_toUInt8 hp).symm, hlower p hp⟩
  · rintro ⟨p, hp, hn, rfl⟩
    refine ⟨p, hp, (hlower p hp).symm, ?_⟩
    rw [← UInt8.toNat_inj, h.toNat_toUInt8 hp, hn]

theorem toList_narrowed (h : Consistent pairs) :
    (Dictionary.ofPairs (narrowed pairs)).toList = narrowed pairs := by
  apply Dictionary.toList_ofPairs
  rw [narrowed, List.map_map]
  exact h.keys_distinct

theorem numbers_narrowed (h : Consistent pairs) : ((narrowed pairs).map Prod.snd).Nodup := by
  have hcut : (narrowed pairs).map Prod.snd = (pairs.map Prod.snd).map UInt16.toUInt8 := by
    rw [narrowed, List.map_map, List.map_map]
    rfl
  rw [hcut]
  apply List.Nodup.map_on _ h.numbers_distinct
  intro m hm n hn heq
  obtain ⟨p, hp, rfl⟩ := List.mem_map.1 hm
  obtain ⟨q, hq, rfl⟩ := List.mem_map.1 hn
  rw [← UInt16.toNat_inj, ← h.toNat_toUInt8 hp, ← h.toNat_toUInt8 hq, heq]

end Consistent

/-! ## The three tables of a list -/

section Tables

variable {pairs : List (String × UInt16)} {set : InstructionSet}

/-- A dictionary of lower-case entries gives a lower-case mnemonic the number that the set does. -/
theorem get?_narrowed_eq_opcode? (h : ofPairs pairs = .ok set)
    (hlower : ∀ p ∈ pairs, Text.lowercase p.1 = p.1) {mnemonic : String}
    (hmnemonic : Text.lowercase mnemonic = mnemonic) :
    (Dictionary.ofPairs (narrowed pairs)).get? mnemonic = set.opcode? mnemonic := by
  have hconsistent := exists_ofPairs_iff.1 ⟨set, h⟩
  ext n
  rw [Dictionary.get?_eq_some_iff, hconsistent.toList_narrowed,
    hconsistent.mem_narrowed_iff hlower, opcode?_ofPairs_iff h, hmnemonic]

/-- An ordered table of lower-case entries names every number as the set does. -/
theorem mnemonic?_narrowed_eq (h : ofPairs pairs = .ok set)
    (hlower : ∀ p ∈ pairs, Text.lowercase p.1 = p.1) (n : UInt8) :
    (OpcodeTable.ordered (.ofPairs (narrowed pairs))).mnemonic? n = set.mnemonic? n := by
  have hconsistent := exists_ofPairs_iff.1 ⟨set, h⟩
  have hdistinct : ((Dictionary.ofPairs (narrowed pairs)).toList.map Prod.snd).Nodup := by
    rw [hconsistent.toList_narrowed]
    exact hconsistent.numbers_narrowed
  ext name
  rw [OpcodeTable.mnemonic?_ordered_iff hdistinct, hconsistent.toList_narrowed,
    hconsistent.mem_narrowed_iff hlower, mnemonic?_ofPairs_iff h]

end Tables

/-- A list of lower-case entries that has a set keeps its numbers in one byte each. The set, the
ordered table and the one-way table of these entries assemble every lower-case program alike, and
the set and the ordered table name every number and read every word alike. -/
theorem tables_of_lowercase_entries_agree (pairs : List (String × UInt16)) (set : InstructionSet)
    (hset : ofPairs pairs = .ok set) (hlower : ∀ p ∈ pairs, Text.lowercase p.1 = p.1) :
    (∀ p ∈ pairs, p.2.toUInt8.toNat = p.2.toNat) ∧
    (∀ verbose includes code, (∀ i ∈ code, Text.lowercase i.mnemonic = i.mnemonic) →
      assembleReporting verbose includes code (.ordered (.ofPairs (narrowed pairs))) =
        assembleReporting verbose includes code set.toTable ∧
      assembleReporting verbose includes code (.oneWay (.ofPairs (narrowed pairs))) =
        assembleReporting verbose includes code set.toTable) ∧
    (∀ n, (OpcodeTable.ordered (.ofPairs (narrowed pairs))).mnemonic? n =
      set.toTable.mnemonic? n) ∧
    ∀ w, Instruction.ofWord? w (.ordered (.ofPairs (narrowed pairs))) =
      Instruction.ofWord? w set.toTable := by
  have hnames := mnemonic?_narrowed_eq hset hlower
  refine ⟨?_, ?_, hnames, Instruction.ofWord?_congr hnames⟩
  · intro p hp
    exact (exists_ofPairs_iff.1 ⟨set, hset⟩).toNat_toUInt8 hp
  · intro verbose includes code hcode
    have hnumbers : ∀ i ∈ code,
        (Dictionary.ofPairs (narrowed pairs)).get? i.mnemonic = set.opcode? i.mnemonic := by
      intro i hi
      exact get?_narrowed_eq_opcode? hset hlower (hcode i hi)
    exact ⟨assembleReporting_congr hnumbers verbose includes,
      assembleReporting_congr hnumbers verbose includes⟩

/-- Two entries of which one ends in a final sigma, a program that also has an unknown mnemonic, and
a word whose number has no entry. -/
theorem tables_of_lowercase_entries_agree_final_sigma :
    ∃ set, ofPairs [("lra", 3), ("ας", 127)] = .ok set ∧
      assembleReporting true ["io"] [⟨"ας", 2, .pointer, 1⟩, ⟨"hlt", 0, .immediate, 2⟩]
          (.oneWay (.ofPairs (narrowed [("lra", 3), ("ας", 127)]))) =
        assembleReporting true ["io"] [⟨"ας", 2, .pointer, 1⟩, ⟨"hlt", 0, .immediate, 2⟩]
          set.toTable ∧
      (OpcodeTable.ordered (.ofPairs (narrowed [("lra", 3), ("ας", 127)]))).mnemonic? 127 =
        set.toTable.mnemonic? 127 ∧
      Instruction.ofWord? ⟨0x8104⟩ (.ordered (.ofPairs (narrowed [("lra", 3), ("ας", 127)]))) =
        Instruction.ofWord? ⟨0x8104⟩ set.toTable := by
  have hlower : ∀ p ∈ [("lra", (3 : UInt16)), ("ας", 127)], Text.lowercase p.1 = p.1 := by
    decide +kernel
  have hcode : ∀ i ∈ [Instruction.mk "ας" 2 .pointer 1, ⟨"hlt", 0, .immediate, 2⟩],
      Text.lowercase i.mnemonic = i.mnemonic := by
    decide +kernel
  obtain ⟨-, hassembly, hnames, hwords⟩ :=
    tables_of_lowercase_entries_agree [("lra", 3), ("ας", 127)] _ rfl hlower
  exact ⟨_, rfl, (hassembly true ["io"] _ hcode).2, hnames 127, hwords ⟨0x8104⟩⟩

end InstructionSet

end MqAssembler
