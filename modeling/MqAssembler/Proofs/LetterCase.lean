import MqAssembler.InstructionSet
import MqAssembler.Proofs.AssemblyOutcome

/-!
# Letter case and line numbers

Two programs that differ only in their line numbers and in the case of ASCII letters in their
mnemonics are assembled to the same bytes, or both are refused for the same reason at the same
place.

## Implementation notes

The lower-case form of a text is the same for every letter case of its ASCII letters. This is not a
statement about single characters: a capital sigma looks at its neighbours, and it sees the same
neighbours because an ASCII letter has case in both of its forms and is ignored in neither. What
the case tables say of the two forms is checked for the 26 letters; nothing has to be known of
other characters, which are the same in both texts.
-/

namespace MqAssembler

namespace Text

/-! ## Lower case of texts -/

theorem toLower_capital : ∀ k < 26, (Char.ofNat (65 + k)).toLower = Char.ofNat (97 + k) := by
  decide

/-- ASCII lower case moves the capital letters and nothing else. -/
theorem toLower_cases (c : Char) :
    (∃ k < 26, c = Char.ofNat (65 + k) ∧ c.toLower = Char.ofNat (97 + k)) ∨ c.toLower = c := by
  by_cases hcapital : 65 ≤ c.toNat ∧ c.toNat ≤ 90
  · have hk : c.toNat - 65 < 26 := by omega
    have hc : c = Char.ofNat (65 + (c.toNat - 65)) := by
      rw [Nat.add_sub_cancel' hcapital.1, Char.ofNat_toNat]
    have hlower := toLower_capital (c.toNat - 65) hk
    rw [← hc] at hlower
    exact Or.inl ⟨c.toNat - 65, hk, hc, hlower⟩
  · apply Or.inr
    apply dif_neg
    rintro ⟨hfirst, hlast⟩
    exact hcapital ⟨UInt32.le_iff_toNat_le.1 hfirst, UInt32.le_iff_toNat_le.1 hlast⟩

/-- What does not tell the two cases of an ASCII letter apart does not tell a character from its
ASCII lower case. -/
theorem apply_toLower {β : Type} {f : Char → β}
    (hletters : ∀ k < 26, f (Char.ofNat (97 + k)) = f (Char.ofNat (65 + k))) (c : Char) :
    f c.toLower = f c := by
  obtain ⟨k, hk, hc, hlower⟩ | hlower := toLower_cases c
  · rw [hlower, hletters k hk, ← hc]
  · rw [hlower]

theorem lowerChar_toLower (c : Char) : lowerChar c.toLower = lowerChar c :=
  apply_toLower (by decide +kernel) c

theorem isSigma_toLower (c : Char) : (c.toLower == 'Σ') = (c == 'Σ') :=
  apply_toLower (f := (· == 'Σ')) (by decide +kernel) c

theorem cased_toLower (c : Char) :
    CaseClass.cased.contains c.toLower = CaseClass.cased.contains c :=
  apply_toLower (by decide +kernel) c

theorem caseIgnorable_toLower (c : Char) :
    CaseClass.caseIgnorable.contains c.toLower = CaseClass.caseIgnorable.contains c :=
  apply_toLower (by decide +kernel) c

/-- The neighbour that a capital sigma looks at has case whatever case it has. -/
theorem nextIsCased_map_toLower (cs : List Char) :
    nextIsCased (cs.map Char.toLower) = nextIsCased cs := by
  have hignored : CaseClass.caseIgnorable.contains ∘ Char.toLower =
      CaseClass.caseIgnorable.contains := by
    funext c
    exact caseIgnorable_toLower c
  rw [nextIsCased, nextIsCased, List.dropWhile_map, hignored]
  cases cs.dropWhile CaseClass.caseIgnorable.contains with
  | nil => rfl
  | cons c _ => exact cased_toLower c

theorem lowerSigma_map_toLower (before after : List Char) :
    lowerSigma (before.map Char.toLower) (after.map Char.toLower) = lowerSigma before after := by
  rw [lowerSigma, lowerSigma, nextIsCased_map_toLower, nextIsCased_map_toLower]

/-- Lowering the ASCII letters beforehand, in the text and in what precedes it, makes no
difference. -/
theorem lowerAfter_map_toLower (before cs : List Char) :
    lowerAfter (before.map Char.toLower) (cs.map Char.toLower) = lowerAfter before cs := by
  induction cs generalizing before with
  | nil => rfl
  | cons c rest ih =>
      have hsigma : c.toLower = 'Σ' ↔ c = 'Σ' := by
        rw [← beq_iff_eq, isSigma_toLower, beq_iff_eq]
      -- the characters passed are lowered as well, since a later sigma looks back at them
      have hrest := ih (c :: before)
      rw [List.map_cons] at hrest
      rw [List.map_cons, lowerAfter, lowerAfter, hrest, lowerSigma_map_toLower,
        lowerChar_toLower]
      simp only [hsigma]

/-- Equal texts up to the case of ASCII letters; all other characters are the same. -/
def SameLetters (s t : String) : Prop :=
  s.toList.map Char.toLower = t.toList.map Char.toLower

instance (s t : String) : Decidable (SameLetters s t) :=
  inferInstanceAs (Decidable (s.toList.map Char.toLower = t.toList.map Char.toLower))

theorem SameLetters.lowercase_eq {s t : String} (h : SameLetters s t) :
    lowercase s = lowercase t := by
  apply String.toList_injective
  calc
    (lowercase s).toList = lowerAfter [] (s.toList.map Char.toLower) := by
      rw [toList_lowercase, ← lowerAfter_map_toLower, List.map_nil]
    _ = lowerAfter [] (t.toList.map Char.toLower) := by rw [h]
    _ = (lowercase t).toList := by
      rw [toList_lowercase, ← lowerAfter_map_toLower [] t.toList, List.map_nil]

end Text

/-! ## One instruction -/

namespace MachineError

/-- The kinds of faults. -/
inductive Kind where
  | indexOutOfRange
  | unknownOpcode
  | operandOverflow
  | opcodeOverflow
  | duplicateOpcode
deriving DecidableEq, Repr

/-- The kind of a fault, without what it tells of its cause. -/
def kind : MachineError → Kind
  | indexOutOfRange _ _ => .indexOutOfRange
  | unknownOpcode _ _ => .unknownOpcode
  | operandOverflow _ _ => .operandOverflow
  | opcodeOverflow _ _ => .opcodeOverflow
  | duplicateOpcode _ _ => .duplicateOpcode

end MachineError

namespace Instruction

/-- The same instruction up to the case of ASCII letters in its mnemonic and up to its line. -/
structure SameUpToCase (i j : Instruction) : Prop where
  mnemonic : Text.SameLetters i.mnemonic j.mnemonic
  value_eq : i.value = j.value
  mode_eq : i.mode = j.mode

namespace SameUpToCase

variable {set : InstructionSet} {i j : Instruction}

theorem opcode?_eq (h : i.SameUpToCase j) :
    set.toTable.opcode? i.mnemonic = set.toTable.opcode? j.mnemonic := by
  simp only [InstructionSet.toTable, InstructionSet.opcode?, h.mnemonic.lowercase_eq]

theorem carriedBy (h : i.SameUpToCase j) {w : Word} (hi : i.CarriedBy set.toTable w) :
    j.CarriedBy set.toTable w := by
  constructor
  · rw [hi.mode_eq, h.mode_eq]
  · rw [hi.operand_eq, h.value_eq]
  · rw [← h.opcode?_eq, hi.opcode_eq]

theorem encodable (h : i.SameUpToCase j) (hi : i.Encodable set.toTable) :
    j.Encodable set.toTable := by
  obtain ⟨w, hw⟩ := exists_carriedBy_iff.2 hi
  exact exists_carriedBy_iff.1 ⟨w, h.carriedBy hw⟩

/-- An instruction that has no word in one spelling has none in the other, for a fault of the same
kind. -/
theorem exists_fault (h : i.SameUpToCase j) {e : MachineError} (hi : i.Fault set.toTable e) :
    ∃ e', j.Fault set.toTable e' ∧ e.kind = e'.kind := by
  cases hi with
  | unknownOpcode hnumber =>
      rw [h.opcode?_eq] at hnumber
      exact ⟨_, .unknownOpcode hnumber, rfl⟩
  | operandOverflow hnumber hvalue =>
      rw [h.opcode?_eq] at hnumber
      rw [h.value_eq] at hvalue
      exact ⟨_, .operandOverflow hnumber hvalue, rfl⟩
  | opcodeOverflow hnumber hvalue hwide =>
      rw [h.opcode?_eq] at hnumber
      rw [h.value_eq] at hvalue
      exact ⟨_, .opcodeOverflow hnumber hvalue hwide, rfl⟩

end SameUpToCase

/-! ## Programs -/

variable {set : InstructionSet} {first second : List Instruction}

theorem carriedBy_of_sameUpToCase (h : List.Forall₂ SameUpToCase first second) {words : List Word}
    (hwords : List.Forall₂ (CarriedBy set.toTable) first words) :
    List.Forall₂ (CarriedBy set.toTable) second words := by
  induction h generalizing words with
  | nil => exact hwords
  | cons hij _ ih =>
      obtain ⟨w, words', hi, hrest, rfl⟩ := List.forall₂_cons_left_iff.1 hwords
      exact List.Forall₂.cons (hij.carriedBy hi) (ih hrest)

theorem encodable_of_sameUpToCase (h : List.Forall₂ SameUpToCase first second)
    (hfirst : ∀ i ∈ first, i.Encodable set.toTable) :
    ∀ j ∈ second, j.Encodable set.toTable := by
  induction h with
  | nil => exact hfirst
  | cons hij _ ih =>
      obtain ⟨hi, hrest⟩ := List.forall_mem_cons.1 hfirst
      exact List.forall_mem_cons.2 ⟨hij.encodable hi, ih hrest⟩

/-- Where one program is taken apart, the other one can be taken apart at the same place. -/
theorem exists_split_of_sameUpToCase {before after : List Instruction} {i : Instruction}
    (h : List.Forall₂ SameUpToCase (before ++ i :: after) second) :
    ∃ before' j after', second = before' ++ j :: after' ∧
      List.Forall₂ SameUpToCase before before' ∧ i.SameUpToCase j := by
  induction before generalizing second with
  | nil =>
      obtain ⟨j, after', hij, -, rfl⟩ := List.forall₂_cons_left_iff.1 h
      exact ⟨[], j, after', rfl, List.Forall₂.nil, hij⟩
  | cons k before ih =>
      obtain ⟨k', rest, hk, hrest, rfl⟩ := List.forall₂_cons_left_iff.1 h
      obtain ⟨before', j, after', rfl, hbefore, hij⟩ := ih hrest
      exact ⟨k' :: before', j, after', rfl, List.Forall₂.cons hk hbefore, hij⟩

end Instruction

/-- Faults of one kind with one cause: the same include name at the same place, the same section at
the same size, or the first instructions without a word, which stand at the same place of their
programs. -/
inductive SameFault (table : OpcodeTable) (includes : List String)
    (first second : List Instruction) : AssemblyError → AssemblyError → Prop
  | nonAsciiInclude {before : List String} {name : String} {after : List String}
      (hsplit : includes = before ++ name :: after)
      (hbefore : ∀ other ∈ before, IsIncludeName other) (hname : ¬ IsIncludeName name) :
      SameFault table includes first second (.nonAsciiInclude name) (.nonAsciiInclude name)
  | sectionOverflow (segment : Segment) (size : Nat) :
      SameFault table includes first second (.sectionOverflow segment size)
        (.sectionOverflow segment size)
  | instruction {before after before' after' : List Instruction} {i j : Instruction}
      {e e' : MachineError} (hfirst : first = before ++ i :: after)
      (hsecond : second = before' ++ j :: after') (hplace : before.length = before'.length)
      (hbefore : ∀ k ∈ before, k.Encodable table) (hbefore' : ∀ k ∈ before', k.Encodable table)
      (hi : i.Fault table e) (hj : j.Fault table e') (hkind : e.kind = e'.kind) :
      SameFault table includes first second (.machine e) (.machine e')

section TwoPrograms

variable {set : InstructionSet} {includes : List String} {first second : List Instruction}

/-- The fault of one program leads to the fault of the other. -/
theorem AssemblyFault.exists_sameFault (hcode : List.Forall₂ Instruction.SameUpToCase first second)
    {e : AssemblyError} (h : AssemblyFault includes first set.toTable e) :
    ∃ e', AssemblyFault includes second set.toTable e' ∧
      SameFault set.toTable includes first second e e' := by
  cases h with
  | nonAsciiInclude hsplit hbefore hname =>
      exact ⟨_, .nonAsciiInclude hsplit hbefore hname, .nonAsciiInclude hsplit hbefore hname⟩
  | includesOverflow hnames hsize =>
      exact ⟨_, .includesOverflow hnames hsize, .sectionOverflow _ _⟩
  | instruction hnames hfit hsplit hbefore hi =>
      subst hsplit
      obtain ⟨before', j, after', hsecond, hsame, hij⟩ :=
        Instruction.exists_split_of_sameUpToCase hcode
      obtain ⟨e', hj, hkind⟩ := hij.exists_fault hi
      have hbefore' := Instruction.encodable_of_sameUpToCase hsame hbefore
      exact ⟨_, .instruction hnames hfit hsecond hbefore' hj,
        .instruction rfl hsecond hsame.length_eq hbefore hbefore' hi hj hkind⟩
  | assemblyOverflow hnames hfit hencodable hsize =>
      rw [hcode.length_eq] at hsize ⊢
      exact ⟨_, .assemblyOverflow hnames hfit
        (Instruction.encodable_of_sameUpToCase hcode hencodable) hsize, .sectionOverflow _ _⟩

end TwoPrograms

/-- Programs that differ in line numbers and in the case of ASCII letters of mnemonics are assembled
to the same bytes, or both are refused for the same fault. -/
theorem assembly_ignores_letter_case_and_lines (verbose : Bool) (set : InstructionSet)
    (includes : List String) (first second : List Instruction)
    (hcode : List.Forall₂ Instruction.SameUpToCase first second) :
    (∃ bytes, (assembleReporting verbose includes first set.toTable).result = .ok bytes ∧
      (assembleReporting verbose includes second set.toTable).result = .ok bytes) ∨
    ∃ e e', (assembleReporting verbose includes first set.toTable).result = .error e ∧
      (assembleReporting verbose includes second set.toTable).result = .error e' ∧
      SameFault set.toTable includes first second e e' := by
  rw [result_assembleReporting, result_assembleReporting]
  cases hfirst : assemble includes first set.toTable with
  | ok bytes =>
      obtain ⟨hnames, hfit, hlength, words, hwords, hbytes⟩ := assemble_eq_ok_iff.1 hfirst
      rw [hcode.length_eq] at hlength
      have hsecond := assemble_eq_ok_iff.2 ⟨hnames, hfit, hlength, words,
        Instruction.carriedBy_of_sameUpToCase hcode hwords, hbytes⟩
      exact Or.inl ⟨bytes, rfl, hsecond⟩
  | error e =>
      obtain ⟨e', hfault, hsame⟩ :=
        (assemble_eq_error_iff.1 hfirst).exists_sameFault hcode
      exact Or.inr ⟨e, e', rfl, assemble_eq_error_iff.2 hfault, hsame⟩

/-- A final sigma behind a letter in either case, alone and in front of an unknown mnemonic. -/
theorem assembly_ignores_letter_case_and_lines_final_sigma :
    ∃ set e, InstructionSet.ofPairs [("Aς", 3)] = .ok set ∧
      (assembleReporting false ["io"] [⟨"AΣ", 2, .pointer, 1⟩] set.toTable).result =
        .ok [0x31, 0x2E, 0x31, 0x20, 3, 0, 2, 0, 0, 0, 0x69, 0x6F, 10, 0x03, 0x81] ∧
      (assembleReporting false ["io"] [⟨"aΣ", 2, .pointer, 9⟩] set.toTable).result =
        .ok [0x31, 0x2E, 0x31, 0x20, 3, 0, 2, 0, 0, 0, 0x69, 0x6F, 10, 0x03, 0x81] ∧
      SameFault set.toTable ["io"] [⟨"AΣ", 2, .pointer, 1⟩, ⟨"NOP", 0, .immediate, 4⟩]
        [⟨"aΣ", 2, .pointer, 9⟩, ⟨"nop", 0, .immediate, 0⟩]
        (.machine (.unknownOpcode "NOP" 4)) e := by
  have hsigma : Instruction.SameUpToCase ⟨"AΣ", 2, .pointer, 1⟩ ⟨"aΣ", 2, .pointer, 9⟩ :=
    ⟨by decide, rfl, rfl⟩
  have hnop : Instruction.SameUpToCase ⟨"NOP", 0, .immediate, 4⟩ ⟨"nop", 0, .immediate, 0⟩ :=
    ⟨by decide, rfl, rfl⟩
  have hset : InstructionSet.ofPairs [("Aς", 3)] =
      .ok ⟨InstructionSet.empty.slots.set 3 (some "aς")⟩ := rfl
  obtain ⟨bytes, hfirst, hsecond⟩ | ⟨e, -, hfirst, -⟩ := assembly_ignores_letter_case_and_lines
    false ⟨InstructionSet.empty.slots.set 3 (some "aς")⟩ ["io"] _ _ (.cons hsigma .nil)
  · obtain ⟨bytes', hrefused, -⟩ | ⟨e, e', hrefused, -, hsame⟩ :=
      assembly_ignores_letter_case_and_lines false
        ⟨InstructionSet.empty.slots.set 3 (some "aς")⟩ ["io"] _ _
        (.cons hsigma (.cons hnop .nil))
    · cases hrefused
    · have hbytes := Except.ok.inj hfirst
      have he := Except.error.inj hrefused
      subst hbytes he
      exact ⟨_, e', hset, hfirst, hsecond, hsame⟩
  · cases hfirst

end MqAssembler
