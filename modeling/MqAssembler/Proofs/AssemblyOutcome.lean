import MqAssembler.Proofs.ExecutableWriter
import MqAssembler.Proofs.IncludeSection
import Mathlib.Data.List.Forall2

/-!
# What assembly answers

Assembly succeeds exactly on the programs that an executable can hold. On every other program it
answers with one fault, and the order of the checks decides which: include names, the size of
their section, instructions from first to last, the size of the assembly section.

## Implementation notes

The faults are relations that mention no function of the assembler. Each check is inverted on its
own, for success and for failure, and the outcome of the whole chain follows by cases on the first
check that fails.
-/

namespace MqAssembler

/-! ## One instruction -/

namespace Instruction

/-- The table knows the mnemonic, and number and value fit their fields. -/
def Encodable (table : OpcodeTable) (i : Instruction) : Prop :=
  ∃ number, table.opcode? i.mnemonic = some number ∧ number.toNat ≤ 127 ∧ i.value.toNat ≤ 255

/-- Why an instruction has no word. Of several reasons the first one counts. -/
inductive Fault (table : OpcodeTable) (i : Instruction) : MachineError → Prop
  | unknownOpcode (hnumber : table.opcode? i.mnemonic = none) :
      Fault table i (.unknownOpcode i.mnemonic i.line)
  | operandOverflow {number : UInt8} (hnumber : table.opcode? i.mnemonic = some number)
      (hvalue : 255 < i.value.toNat) :
      Fault table i (.operandOverflow i.value i.line)
  | opcodeOverflow {number : UInt8} (hnumber : table.opcode? i.mnemonic = some number)
      (hvalue : i.value.toNat ≤ 255) (hwide : 127 < number.toNat) :
      Fault table i (.opcodeOverflow i.mnemonic number.toUInt16)

theorem toWord_eq_error_iff {table : OpcodeTable} {i : Instruction} {e : MachineError} :
    i.toWord table = .error e ↔ Fault table i e := by
  constructor
  · intro h
    simp only [toWord] at h
    split at h
    · rename_i hnumber
      rw [← Except.error.inj h]
      exact Fault.unknownOpcode hnumber
    · rename_i number hnumber
      simp only [Word.pack] at h
      split at h
      · rename_i hvalue
        rw [← Except.error.inj h]
        exact Fault.operandOverflow hnumber hvalue
      · rename_i hvalue
        split at h
        · rename_i hwide
          rw [← Except.error.inj h]
          exact Fault.opcodeOverflow hnumber (Nat.not_lt.1 hvalue) hwide
        · cases h
  · intro h
    cases h with
    | unknownOpcode hnumber => simp only [toWord, hnumber]
    | operandOverflow hnumber hvalue =>
        have hvalue : Word.operandMax < i.value.toNat := hvalue
        simp only [toWord, hnumber, Word.pack, if_pos hvalue]
    | @opcodeOverflow number hnumber hvalue hwide =>
        have hvalue : ¬ Word.operandMax < i.value.toNat := Nat.not_lt.2 hvalue
        have hwide : Word.opcodeMax < number.toNat := hwide
        simp only [toWord, hnumber, Word.pack, if_neg hvalue, if_pos hwide]

/-- Exactly the encodable instructions are carried by a word. -/
theorem exists_carriedBy_iff {table : OpcodeTable} {i : Instruction} :
    (∃ w, i.CarriedBy table w) ↔ i.Encodable table := by
  constructor
  · rintro ⟨w, hw⟩
    refine ⟨w.opcode, hw.opcode_eq, w.opcode_le, ?_⟩
    rw [← hw.operand_eq]
    exact w.operand_le
  · rintro ⟨number, hnumber, hwide, hvalue⟩
    refine ⟨Word.ofFields i.mode i.value.toNat number.toNat, ?_, ?_, ?_⟩
    · exact Word.mode_ofFields hvalue hwide
    · exact Word.operand_ofFields hvalue hwide
    · rw [hnumber, Word.opcode_ofFields hvalue hwide]

theorem Fault.not_encodable {table : OpcodeTable} {i : Instruction} {e : MachineError}
    (h : Fault table i e) : ¬ i.Encodable table := by
  intro hencodable
  obtain ⟨w, hw⟩ := exists_carriedBy_iff.2 hencodable
  rw [← toWord_eq_error_iff, toWord_eq_ok_iff.2 hw] at h
  cases h

/-! ## A list of instructions -/

/-- Encoding a list yields the words that carry its instructions, one for each and in order. -/
theorem encodeAll_eq_ok_iff {table : OpcodeTable} {code : List Instruction} {words : List Word} :
    encodeAll table code = .ok words ↔ List.Forall₂ (CarriedBy table) code words := by
  induction code generalizing words with
  | nil =>
      rw [List.forall₂_nil_left_iff]
      exact ⟨fun h => (Except.ok.inj h).symm, fun h => h ▸ rfl⟩
  | cons i rest ih =>
      rw [encodeAll_cons, List.forall₂_cons_left_iff]
      cases hw : i.toWord table with
      | error e =>
          simp only [reduceCtorEq, false_iff]
          rintro ⟨w, words', hi, -, -⟩
          rw [toWord_eq_ok_iff.2 hi] at hw
          cases hw
      | ok w =>
          constructor
          · intro h
            cases hrest : encodeAll table rest with
            | error e => simp only [hrest, Except.map, reduceCtorEq] at h
            | ok words' =>
                simp only [hrest, Except.map, Except.ok.injEq] at h
                exact ⟨w, words', toWord_eq_ok_iff.1 hw, ih.1 hrest, h.symm⟩
          · rintro ⟨w', words', hi, hrest, rfl⟩
            rw [toWord_eq_ok_iff.2 hi] at hw
            simp only [ih.2 hrest, Except.map, Except.ok.inj hw]

theorem encodable_of_carriedBy {table : OpcodeTable} {code : List Instruction} {words : List Word}
    (h : List.Forall₂ (CarriedBy table) code words) : ∀ i ∈ code, i.Encodable table := by
  induction h with
  | nil => simp
  | @cons i w rest words hi _ ih =>
      rw [List.forall_mem_cons]
      exact ⟨exists_carriedBy_iff.1 ⟨w, hi⟩, ih⟩

/-- The first instruction without a word decides, whatever follows it. -/
theorem encodeAll_append_fault {table : OpcodeTable} {before after : List Instruction}
    {i : Instruction} {fault : MachineError} (hbefore : ∀ j ∈ before, j.Encodable table)
    (hi : Fault table i fault) :
    encodeAll table (before ++ i :: after) = .error (.machine fault) := by
  induction before with
  | nil =>
      rw [List.nil_append, encodeAll_cons]
      simp only [toWord_eq_error_iff.2 hi]
  | cons j before ih =>
      obtain ⟨hj, hbefore⟩ := List.forall_mem_cons.1 hbefore
      obtain ⟨w, hw⟩ := exists_carriedBy_iff.2 hj
      rw [List.cons_append, encodeAll_cons]
      simp only [toWord_eq_ok_iff.2 hw, ih hbefore, Except.map]

/-- A list that cannot be encoded has a first instruction without a word. -/
theorem exists_fault_of_encodeAll {table : OpcodeTable} {code : List Instruction}
    {e : AssemblyError} (h : encodeAll table code = .error e) :
    ∃ before i after fault, code = before ++ i :: after ∧ (∀ j ∈ before, j.Encodable table) ∧
      Fault table i fault ∧ e = .machine fault := by
  induction code with
  | nil => cases h
  | cons i rest ih =>
      rw [encodeAll_cons] at h
      cases hw : i.toWord table with
      | error fault =>
          simp only [hw, Except.error.injEq] at h
          exact ⟨[], i, rest, fault, rfl, by simp, toWord_eq_error_iff.1 hw, h.symm⟩
      | ok w =>
          cases hrest : encodeAll table rest with
          | ok words => simp only [hw, hrest, Except.map, reduceCtorEq] at h
          | error e' =>
              simp only [hw, hrest, Except.map, Except.error.injEq] at h
              obtain ⟨before, j, after, fault, hcode, hbefore, hj, hfault⟩ := ih (h ▸ hrest)
              refine ⟨i :: before, j, after, fault, by rw [hcode]; rfl, ?_, hj, hfault⟩
              have hi := exists_carriedBy_iff.1 ⟨w, toWord_eq_ok_iff.1 hw⟩
              exact List.forall_mem_cons.2 ⟨hi, hbefore⟩

/-- A list is encoded exactly when each of its instructions can be. -/
theorem exists_encodeAll_iff {table : OpcodeTable} {code : List Instruction} :
    (∃ words, encodeAll table code = .ok words) ↔ ∀ i ∈ code, i.Encodable table := by
  constructor
  · rintro ⟨words, hwords⟩
    exact encodable_of_carriedBy (encodeAll_eq_ok_iff.1 hwords)
  · intro hcode
    cases h : encodeAll table code with
    | ok words => exact ⟨words, rfl⟩
    | error e =>
        obtain ⟨before, i, after, fault, rfl, -, hi, -⟩ := exists_fault_of_encodeAll h
        exact absurd (hcode i (by simp)) hi.not_encodable

end Instruction

/-! ## Names and sizes -/

theorem IncludeName.checkAll_eq_ok_iff {includes : List String} :
    checkAll includes = .ok () ↔ ∀ name ∈ includes, IsIncludeName name := by
  simp only [checkAll]
  split
  · rename_i name hfind
    have hbad := List.find?_some hfind
    simp only [Bool.not_eq_true', decide_eq_false_iff_not] at hbad
    simp only [reduceCtorEq, false_iff]
    exact fun h => hbad (h name (List.mem_of_find?_eq_some hfind))
  · rename_i hfind
    simpa using hfind

theorem IncludeName.checkAll_eq_error_iff {includes : List String} {e : AssemblyError} :
    checkAll includes = .error e ↔
      ∃ before name after, includes = before ++ name :: after ∧
        (∀ other ∈ before, IsIncludeName other) ∧ ¬ IsIncludeName name ∧
        e = .nonAsciiInclude name := by
  have hfirst (name : String) :
      includes.find? (fun name => !decide (IsIncludeName name)) = some name ↔
        ¬ IsIncludeName name ∧ ∃ before after, includes = before ++ name :: after ∧
          ∀ other ∈ before, IsIncludeName other := by
    rw [List.find?_eq_some_iff_append]
    simp
  constructor
  · intro h
    simp only [checkAll] at h
    split at h
    · rename_i name hfind
      obtain ⟨hname, before, after, hsplit, hbefore⟩ := (hfirst name).1 hfind
      exact ⟨before, name, after, hsplit, hbefore, hname, (Except.error.inj h).symm⟩
    · cases h
  · rintro ⟨before, name, after, hsplit, hbefore, hname, rfl⟩
    have hfind := (hfirst name).2 ⟨hname, before, after, hsplit, hbefore⟩
    simp only [checkAll, hfind]

theorem Segment.checkSize_eq_error_iff {segment : Segment} {size : Nat} {e : AssemblyError} :
    segment.checkSize size = .error e ↔
      segment.sizeMax < size ∧ e = .sectionOverflow segment size := by
  simp only [checkSize]
  split
  · rename_i hover
    simp [hover, eq_comm]
  · rename_i hfits
    simp [hfits]

/-! ## The whole chain -/

section Chain

open CheckChain

variable {includes : List String} {code : List Instruction} {table : OpcodeTable}

/-- The programs that an executable can hold. -/
structure Assemblable (includes : List String) (code : List Instruction) (table : OpcodeTable) :
    Prop where
  names : ∀ name ∈ includes, IsIncludeName name
  names_fit : IncludeName.sectionSize includes ≤ 65535
  instructions : ∀ i ∈ code, i.Encodable table
  code_fits : 2 * code.length ≤ 4294967295

/-- The fault of a program that cannot be assembled: the first one in the order of the checks. -/
inductive AssemblyFault (includes : List String) (code : List Instruction)
    (table : OpcodeTable) : AssemblyError → Prop
  | nonAsciiInclude {before : List String} {name : String} {after : List String}
      (hsplit : includes = before ++ name :: after)
      (hbefore : ∀ other ∈ before, IsIncludeName other) (hname : ¬ IsIncludeName name) :
      AssemblyFault includes code table (.nonAsciiInclude name)
  | includesOverflow (hnames : ∀ name ∈ includes, IsIncludeName name)
      (hsize : 65535 < IncludeName.sectionSize includes) :
      AssemblyFault includes code table
        (.sectionOverflow .includes (IncludeName.sectionSize includes))
  | instruction (hnames : ∀ name ∈ includes, IsIncludeName name)
      (hfit : IncludeName.sectionSize includes ≤ 65535)
      {before : List Instruction} {i : Instruction} {after : List Instruction}
      {fault : MachineError} (hsplit : code = before ++ i :: after)
      (hbefore : ∀ j ∈ before, j.Encodable table) (hi : i.Fault table fault) :
      AssemblyFault includes code table (.machine fault)
  | assemblyOverflow (hnames : ∀ name ∈ includes, IsIncludeName name)
      (hfit : IncludeName.sectionSize includes ≤ 65535)
      (hcode : ∀ i ∈ code, i.Encodable table) (hsize : 4294967295 < 2 * code.length) :
      AssemblyFault includes code table (.sectionOverflow .assembly (2 * code.length))

/-- Behind the two checks of the names only the instructions decide. -/
theorem assemble_of_names (hnames : ∀ name ∈ includes, IsIncludeName name)
    (hfit : IncludeName.sectionSize includes ≤ 65535) :
    assemble includes code table = (do
      let words ← Instruction.encodeAll table code
      Segment.assembly.checkSize (2 * words.length)
      return Image.layout includes words) := by
  have hcheck := IncludeName.checkAll_eq_ok_iff.2 hnames
  have hsize : Segment.includes.checkSize (IncludeName.encodeAll includes).length = .ok () := by
    rw [IncludeName.length_encodeAll hnames]
    exact Segment.checkSize_eq_ok_iff.2 hfit
  rw [assemble_eq, hcheck, hsize]
  rfl

/-- An assembled executable is the layout of its names and of the words of its instructions. -/
theorem assemble_eq_ok_iff {bytes : List UInt8} :
    assemble includes code table = .ok bytes ↔
      (∀ name ∈ includes, IsIncludeName name) ∧ IncludeName.sectionSize includes ≤ 65535 ∧
      2 * code.length ≤ 4294967295 ∧
      ∃ words, List.Forall₂ (Instruction.CarriedBy table) code words ∧
        bytes = Image.layout includes words := by
  constructor
  · intro h
    rw [assemble_eq] at h
    obtain ⟨⟨⟩, hcheck, h⟩ := bind_eq_ok_iff.1 h
    obtain ⟨⟨⟩, hsize, h⟩ := bind_eq_ok_iff.1 h
    obtain ⟨words, hwords, h⟩ := bind_eq_ok_iff.1 h
    obtain ⟨⟨⟩, hcode, h⟩ := bind_eq_ok_iff.1 h
    have hnames := IncludeName.checkAll_eq_ok_iff.1 hcheck
    have hcarried := Instruction.encodeAll_eq_ok_iff.1 hwords
    rw [IncludeName.length_encodeAll hnames] at hsize
    rw [← hcarried.length_eq] at hcode
    exact ⟨hnames, Segment.checkSize_eq_ok_iff.1 hsize, Segment.checkSize_eq_ok_iff.1 hcode,
      words, hcarried, (Except.ok.inj h).symm⟩
  · rintro ⟨hnames, hfit, hcode, words, hcarried, rfl⟩
    rw [assemble_of_names hnames hfit]
    refine bind_eq_ok_iff.2 ⟨words, Instruction.encodeAll_eq_ok_iff.2 hcarried, ?_⟩
    refine bind_eq_ok_iff.2 ⟨(), Segment.checkSize_eq_ok_iff.2 ?_, rfl⟩
    rw [← hcarried.length_eq]
    exact hcode

/-- Assembly fails exactly with the first fault in the order of the checks. -/
theorem assemble_eq_error_iff {e : AssemblyError} :
    assemble includes code table = .error e ↔ AssemblyFault includes code table e := by
  constructor
  · intro h
    rw [assemble_eq] at h
    rcases bind_eq_error_iff.1 h with hcheck | ⟨⟨⟩, hcheck, h⟩
    · obtain ⟨before, name, after, hsplit, hbefore, hname, rfl⟩ :=
        IncludeName.checkAll_eq_error_iff.1 hcheck
      exact .nonAsciiInclude hsplit hbefore hname
    have hnames := IncludeName.checkAll_eq_ok_iff.1 hcheck
    rw [IncludeName.length_encodeAll hnames] at h
    rcases bind_eq_error_iff.1 h with hsize | ⟨⟨⟩, hsize, h⟩
    · obtain ⟨hover, rfl⟩ := Segment.checkSize_eq_error_iff.1 hsize
      exact .includesOverflow hnames hover
    have hfit := Segment.checkSize_eq_ok_iff.1 hsize
    rcases bind_eq_error_iff.1 h with hwords | ⟨words, hwords, h⟩
    · obtain ⟨before, i, after, fault, hsplit, hbefore, hi, rfl⟩ :=
        Instruction.exists_fault_of_encodeAll hwords
      exact .instruction hnames hfit hsplit hbefore hi
    have hcarried := Instruction.encodeAll_eq_ok_iff.1 hwords
    rw [← hcarried.length_eq] at h
    rcases bind_eq_error_iff.1 h with hsize | ⟨-, -, h⟩
    · obtain ⟨hover, rfl⟩ := Segment.checkSize_eq_error_iff.1 hsize
      exact .assemblyOverflow hnames hfit (Instruction.encodable_of_carriedBy hcarried) hover
    · cases h
  · intro h
    cases h with
    | nonAsciiInclude hsplit hbefore hname =>
        rw [assemble_eq]
        exact bind_eq_error_iff.2
          (.inl (IncludeName.checkAll_eq_error_iff.2 ⟨_, _, _, hsplit, hbefore, hname, rfl⟩))
    | includesOverflow hnames hsize =>
        rw [assemble_eq]
        refine bind_eq_error_iff.2 (.inr ⟨(), IncludeName.checkAll_eq_ok_iff.2 hnames, ?_⟩)
        rw [IncludeName.length_encodeAll hnames]
        exact bind_eq_error_iff.2 (.inl (Segment.checkSize_eq_error_iff.2 ⟨hsize, rfl⟩))
    | instruction hnames hfit hsplit hbefore hi =>
        rw [assemble_of_names hnames hfit, hsplit]
        exact bind_eq_error_iff.2 (.inl (Instruction.encodeAll_append_fault hbefore hi))
    | assemblyOverflow hnames hfit hcode hsize =>
        obtain ⟨words, hwords⟩ := Instruction.exists_encodeAll_iff.2 hcode
        have hlength := (Instruction.encodeAll_eq_ok_iff.1 hwords).length_eq
        rw [assemble_of_names hnames hfit]
        refine bind_eq_error_iff.2 (.inr ⟨words, hwords, ?_⟩)
        rw [← hlength]
        exact bind_eq_error_iff.2 (.inl (Segment.checkSize_eq_error_iff.2 ⟨hsize, rfl⟩))

/-- Assembly succeeds exactly on the programs that an executable can hold, and otherwise answers
with the first fault in the order of the checks. -/
theorem assembly_answers_first_fault (verbose : Bool) (includes : List String)
    (code : List Instruction) (table : OpcodeTable) :
    ((∃ bytes, (assembleReporting verbose includes code table).result = .ok bytes) ↔
      Assemblable includes code table) ∧
    ∀ e, (assembleReporting verbose includes code table).result = .error e ↔
      AssemblyFault includes code table e := by
  rw [result_assembleReporting]
  refine ⟨⟨?_, ?_⟩, fun e => assemble_eq_error_iff⟩
  · rintro ⟨bytes, h⟩
    obtain ⟨hnames, hfit, hcode, words, hcarried, -⟩ := assemble_eq_ok_iff.1 h
    exact ⟨hnames, hfit, Instruction.encodable_of_carriedBy hcarried, hcode⟩
  · intro h
    obtain ⟨words, hwords⟩ := Instruction.exists_encodeAll_iff.2 h.instructions
    exact ⟨Image.layout includes words, assemble_eq_ok_iff.2 ⟨h.names, h.names_fit, h.code_fits,
      words, Instruction.encodeAll_eq_ok_iff.1 hwords, rfl⟩⟩

end Chain

end MqAssembler
