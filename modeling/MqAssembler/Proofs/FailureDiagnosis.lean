import MqAssembler.Failure
import MqAssembler.InstructionSet
import MqAssembler.Proofs.AssemblyOutcome

/-!
# Where a failed assembly points

A program that cannot be assembled with an instruction set is reported with the source line of its
first instruction without a word. The report shows the text of that line. It shows no line if the
include names are at fault, if the program is too long, or if the instruction does not know its
line.

## Implementation notes

The line comes from the instruction and passes through its fault into the failure. Line zero stands
for an unknown one and is dropped on the way, so a line that arrives counts from one and has an
index in the source.
-/

namespace MqAssembler

/-! ## Faults under an instruction set -/

/-- Every number of an instruction set fits its field. -/
theorem InstructionSet.opcode?_le {set : InstructionSet} {mnemonic : String} {number : UInt8}
    (h : set.opcode? mnemonic = some number) : number.toNat ≤ 127 := by
  obtain ⟨i, -, rfl⟩ := Option.map_eq_some_iff.1 h
  have hi := i.isLt
  rw [UInt8.toNat_ofNat', Nat.mod_eq_of_lt (by omega)]
  exact Nat.le_of_lt_succ hi

namespace Instruction

variable {set : InstructionSet} {i : Instruction} {fault : MachineError}

/-- Under an instruction set there are two reasons not to have a word, and both tell the line. -/
theorem Fault.cases_of_set (h : i.Fault set.toTable fault) :
    fault = .unknownOpcode i.mnemonic i.line ∨ fault = .operandOverflow i.value i.line := by
  cases h with
  | unknownOpcode _ => exact Or.inl rfl
  | operandOverflow _ _ => exact Or.inr rfl
  | opcodeOverflow hnumber _ hwide =>
      exact absurd (InstructionSet.opcode?_le hnumber) (Nat.not_le.2 hwide)

theorem Fault.line?_eq_some_iff (h : i.Fault set.toTable fault) {line : Nat} :
    fault.line? = some line ↔ i.line = line ∧ 0 < line := by
  have hknown : fault.line? = if i.line = 0 then none else some i.line := by
    rcases h.cases_of_set with rfl | rfl <;> rfl
  rw [hknown]
  split
  · rename_i hzero
    simp only [reduceCtorEq, false_iff]
    rintro ⟨hline, hpos⟩
    omega
  · rename_i hnonzero
    rw [Option.some.injEq]
    constructor
    · intro hline
      exact ⟨hline, by omega⟩
    · exact And.left

theorem exists_fault_of_not_encodable {table : OpcodeTable} (h : ¬ i.Encodable table) :
    ∃ fault, i.Fault table fault := by
  cases hword : i.toWord table with
  | ok w => exact absurd (exists_carriedBy_iff.1 ⟨w, toWord_eq_ok_iff.1 hword⟩) h
  | error fault => exact ⟨fault, toWord_eq_error_iff.1 hword⟩

/-- The first instruction of a program that has no word. -/
def FirstRefused (table : OpcodeTable) (code : List Instruction) (i : Instruction) : Prop :=
  ∃ before after, code = before ++ i :: after ∧ (∀ j ∈ before, j.Encodable table) ∧
    ¬ i.Encodable table

end Instruction

/-! ## The line of a failure -/

section Line

variable {set : InstructionSet} {includes : List String} {code : List Instruction}
  {e : AssemblyError}

/-- A failure tells a line exactly if the include names are in order and the first instruction
without a word stands at that line. -/
theorem AssemblyFault.line?_eq_some_iff (h : AssemblyFault includes code set.toTable e)
    {line : Nat} :
    e.line? = some line ↔
      (∀ name ∈ includes, IsIncludeName name) ∧ IncludeName.sectionSize includes ≤ 65535 ∧
        ∃ i, Instruction.FirstRefused set.toTable code i ∧ i.line = line ∧ 0 < line := by
  constructor
  · intro hline
    cases h with
    | nonAsciiInclude => cases hline
    | includesOverflow => cases hline
    | @instruction hnames hfit before i after fault hsplit hbefore hi =>
        exact ⟨hnames, hfit, i, ⟨before, after, hsplit, hbefore, hi.not_encodable⟩,
          hi.line?_eq_some_iff.1 hline⟩
    | assemblyOverflow => cases hline
  · rintro ⟨hnames, hfit, i, ⟨before, after, hsplit, hbefore, hrefused⟩, hline⟩
    obtain ⟨fault, hi⟩ := Instruction.exists_fault_of_not_encodable hrefused
    -- assembly has one answer, so the fault of this instruction is the one at hand
    have hanswer : assemble includes code set.toTable = .error (.machine fault) :=
      assemble_eq_error_iff.2 (.instruction hnames hfit hsplit hbefore hi)
    rw [assemble_eq_error_iff.2 h] at hanswer
    rw [Except.error.inj hanswer]
    exact hi.line?_eq_some_iff.2 hline

/-- A line that is told counts from one. -/
theorem AssemblyFault.line?_pos (h : AssemblyFault includes code set.toTable e) {line : Nat}
    (hline : e.line? = some line) : 0 < line := by
  obtain ⟨-, -, i, -, -, hpos⟩ := h.line?_eq_some_iff.1 hline
  exact hpos

end Line

/-! ## The wording of a failure -/

/-- The faults that a program can have under an instruction set, with their wordings. -/
inductive AssemblyError.Worded : AssemblyError → String → Prop
  | unknownOpcode (mnemonic : String) (line : Nat) :
      Worded (.machine (.unknownOpcode mnemonic line)) ("Unknown operation: `" ++ mnemonic ++ "`")
  | operandOverflow (value : UInt16) (line : Nat) :
      Worded (.machine (.operandOverflow value line))
        ("Operand " ++ toString value.toNat ++ " does not fit in 8 bits (max 255)")
  | nonAsciiInclude (name : String) :
      Worded (.nonAsciiInclude name)
        ("Include `" ++ name ++ "` is not a single line of ASCII text")
  | includesOverflow (size : Nat) :
      Worded (.sectionOverflow .includes size)
        ("Include section is " ++ toString size ++ " bytes, exceeding its size field")
  | assemblyOverflow (size : Nat) :
      Worded (.sectionOverflow .assembly size)
        ("Assembly section is " ++ toString size ++ " bytes, exceeding its size field")

theorem AssemblyFault.worded_message {set : InstructionSet} {includes : List String}
    {code : List Instruction} {e : AssemblyError} (h : AssemblyFault includes code set.toTable e) :
    e.Worded e.message := by
  cases h with
  | nonAsciiInclude => exact .nonAsciiInclude _
  | includesOverflow => exact .includesOverflow _
  | instruction _ _ _ _ hi =>
      rcases hi.cases_of_set with rfl | rfl
      · exact .unknownOpcode _ _
      · exact .operandOverflow _ _
  | assemblyOverflow => exact .assemblyOverflow _

/-! ## The line in the source -/

/-- What a source shows at a line, counted from one: the text of the line, or nothing if the source
ends before it. -/
inductive SourceText.Excerpt (source : SourceText) : Nat → String → Prop
  | ofLine {before after : List String} {raw : String}
      (hsplit : source.lines = before ++ raw :: after) : Excerpt source (before.length + 1) raw
  | pastEnd {line : Nat} (hend : source.lines.length < line) : Excerpt source line ""

/-- A line that counts from one is located at its excerpt. -/
theorem SourceText.excerpt_locate (source : SourceText) {line : Nat} (hline : 0 < line) :
    source.Excerpt line (source.locate line).raw := by
  by_cases hend : source.lines.length < line
  · have hnone : source.lines[line - 1]? = none := List.getElem?_eq_none (by omega)
    simp only [locate, hnone, Option.getD_none]
    exact .pastEnd hend
  · have hindex : line - 1 < source.lines.length := by omega
    have hsplit : source.lines =
        source.lines.take (line - 1) ++ source.lines[line - 1] :: source.lines.drop line := by
      have hdrop := List.drop_eq_getElem_cons hindex
      rw [Nat.sub_add_cancel hline] at hdrop
      rw [← hdrop, List.take_append_drop]
    have hplace : (source.lines.take (line - 1)).length + 1 = line := by
      rw [List.length_take, Nat.min_eq_left (Nat.le_of_lt hindex), Nat.sub_add_cancel hline]
    have hexcerpt := Excerpt.ofLine hsplit
    rw [hplace] at hexcerpt
    simpa only [locate, List.getElem?_eq_getElem hindex, Option.getD_some] using hexcerpt

namespace Failure

open Text

variable {failure : Failure} {source : SourceText}

theorem lines_diagnose_of_line {line : Nat} (h : failure.line? = some line) :
    (failure.diagnose (some source)).lines =
      (Colour.red.paintBold "error" ++ ": " ++ failure.message) ::
        (source.locate line).lines := by
  simp only [diagnose, h, Message.lines]
  rfl

theorem lines_diagnose_of_no_line (h : failure.line? = none) :
    (failure.diagnose (some source)).lines =
      [Colour.red.paintBold "error" ++ ": " ++ failure.message] := by
  simp only [diagnose, h, Message.lines]
  rfl

end Failure

section Report

open Text

/-- A program that an instruction set cannot assemble has an unknown mnemonic or an operand that is
too wide, unless a name or a size is at fault, and the message words that fault. The failure tells a
line exactly if it is the line of the first instruction without a word, which is never line zero.
The message then shows the file, the line and its text, and nothing but the fault otherwise. -/
theorem failed_assembly_points_at_source_line (verbose : Bool) (set : InstructionSet)
    (includes : List String) (code : List Instruction) (source : SourceText) (e : AssemblyError)
    (h : (assembleReporting verbose includes code set.toTable).result = .error e) :
    (∀ fault, e = .machine fault →
      (∃ mnemonic line, fault = .unknownOpcode mnemonic line) ∨
        ∃ value line, fault = .operandOverflow value line) ∧
    e.Worded e.message ∧
    (∀ line, (Failure.assembly e).line? = some line ↔
      (∀ name ∈ includes, IsIncludeName name) ∧ IncludeName.sectionSize includes ≤ 65535 ∧
        ∃ i, Instruction.FirstRefused set.toTable code i ∧ i.line = line ∧ 0 < line) ∧
    (∀ line, (Failure.assembly e).line? = some line → 1 ≤ line ∧ ∃ raw,
      source.Excerpt line raw ∧
      ((Failure.assembly e).diagnose (some source)).lines =
        [Colour.red.paintBold "error" ++ ": " ++ e.message,
         "     " ++ Colour.blue.paint "-->" ++ " " ++
           underline (source.file ++ ":" ++ toString line),
         "      " ++ Colour.blue.paint "|",
         " " ++ Colour.blue.paint (padLeft 4 ' ' (toString line) ++ " |") ++ " " ++ raw,
         "      " ++ Colour.blue.paint "|"]) ∧
    ((Failure.assembly e).line? = none →
      ((Failure.assembly e).diagnose (some source)).lines =
        [Colour.red.paintBold "error" ++ ": " ++ e.message]) := by
  rw [result_assembleReporting, assemble_eq_error_iff] at h
  refine ⟨?_, h.worded_message, fun line => h.line?_eq_some_iff, ?_,
    Failure.lines_diagnose_of_no_line⟩
  · rintro fault rfl
    cases h with
    | instruction _ _ _ _ hi =>
        rcases hi.cases_of_set with rfl | rfl
        · exact Or.inl ⟨_, _, rfl⟩
        · exact Or.inr ⟨_, _, rfl⟩
  · intro line hline
    have hpos := h.line?_pos hline
    exact ⟨hpos, _, source.excerpt_locate hpos, Failure.lines_diagnose_of_line hline⟩

/-- A second instruction without a word whose line the source has, and one whose line lies behind
the end of the source. -/
theorem failed_assembly_points_at_source_line_past_end :
    ∃ set, InstructionSet.ofPairs [("lra", 3)] = .ok set ∧
      (assembleReporting true ["io"] [⟨"LRA", 2, .pointer, 1⟩, ⟨"hlt", 0, .immediate, 2⟩]
        set.toTable).result = .error (.machine (.unknownOpcode "hlt" 2)) ∧
      (∃ raw, SourceText.Excerpt ⟨"main.mq", ["lra $2", "hlt"]⟩ 2 raw ∧
        ((Failure.assembly (.machine (.unknownOpcode "hlt" 2))).diagnose
          (some ⟨"main.mq", ["lra $2", "hlt"]⟩)).lines[3]? =
          some (" " ++ Colour.blue.paint "   2 |" ++ " " ++ raw)) ∧
      (assembleReporting true ["io"] [⟨"lra", 256, .immediate, 9⟩] set.toTable).result =
        .error (.machine (.operandOverflow 256 9)) ∧
      ∃ raw, SourceText.Excerpt ⟨"main.mq", ["lra 256"]⟩ 9 raw ∧
        ((Failure.assembly (.machine (.operandOverflow 256 9))).diagnose
          (some ⟨"main.mq", ["lra 256"]⟩)).lines[3]? =
          some (" " ++ Colour.blue.paint "   9 |" ++ " " ++ raw) := by
  have hset : InstructionSet.ofPairs [("lra", 3)] =
      .ok ⟨InstructionSet.empty.slots.set 3 (some "lra")⟩ := by decide +kernel
  have hunknown : (assembleReporting true ["io"]
      [⟨"LRA", 2, .pointer, 1⟩, ⟨"hlt", 0, .immediate, 2⟩]
      (InstructionSet.toTable ⟨InstructionSet.empty.slots.set 3 (some "lra")⟩)).result =
        .error (.machine (.unknownOpcode "hlt" 2)) := by decide +kernel
  have hwide : (assembleReporting true ["io"] [⟨"lra", 256, .immediate, 9⟩]
      (InstructionSet.toTable ⟨InstructionSet.empty.slots.set 3 (some "lra")⟩)).result =
        .error (.machine (.operandOverflow 256 9)) := by decide +kernel
  refine ⟨_, hset, hunknown, ?_, hwide, ?_⟩
  · obtain ⟨-, -, -, hshown, -⟩ := failed_assembly_points_at_source_line true _ _ _
      ⟨"main.mq", ["lra $2", "hlt"]⟩ _ hunknown
    obtain ⟨-, raw, hraw, hlines⟩ := hshown 2 rfl
    exact ⟨raw, hraw, by rw [hlines]; rfl⟩
  · obtain ⟨-, -, -, hshown, -⟩ := failed_assembly_points_at_source_line true _ _ _
      ⟨"main.mq", ["lra 256"]⟩ _ hwide
    obtain ⟨-, raw, hraw, hlines⟩ := hshown 9 rfl
    exact ⟨raw, hraw, by rw [hlines]; rfl⟩

end Report

end MqAssembler
