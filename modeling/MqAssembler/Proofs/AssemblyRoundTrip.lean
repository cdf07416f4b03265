import MqAssembler.Proofs.AssemblyOutcome
import MqAssembler.Proofs.DictionaryEntries
import MqAssembler.Proofs.ExecutableFormat
import MqAssembler.Proofs.InstructionSetRuns

/-!
# Assembling, reading back and assembling again

Reading an assembled executable gives back what was assembled. The other way round, an executable
whose words all have instructions is assembled from these instructions to the same bytes, for
every table in which the mnemonic of a number leads back to that number.

## Implementation notes

Both directions go through `Image.Valid`: assembly produces the layout of a valid image, and the
reader accepts exactly the layouts of valid images. What remains is instruction by instruction.
-/

namespace MqAssembler

/-! ## From instructions to words and back -/

/-- Assembly lays out a valid image, with one word for each instruction that carries it. -/
theorem exists_valid_of_assemble {includes : List String} {code : List Instruction}
    {table : OpcodeTable} {bytes : List UInt8} (h : assemble includes code table = .ok bytes) :
    ∃ words, List.Forall₂ (Instruction.CarriedBy table) code words ∧
      (Image.ofContents includes words).Valid ∧ bytes = Image.layout includes words := by
  obtain ⟨hnames, hfit, hcode, words, hcarried, hbytes⟩ := assemble_eq_ok_iff.1 h
  rw [hcarried.length_eq] at hcode
  exact ⟨words, hcarried, (Image.Expressible.mk hnames hfit hcode).valid, hbytes⟩

/-- An assembled executable reads back as the header of its sizes, the given include names in
order, and one word for each instruction that carries its mode, value and opcode number. -/
theorem assembled_executable_reads_back (verbose : Bool) (includes : List String)
    (code : List Instruction) (table : OpcodeTable) (bytes : List UInt8)
    (h : (assembleReporting verbose includes code table).result = .ok bytes) :
    ∃ image, Image.read bytes = .ok image ∧
      image.header.version.toBytes = "1.1 ".toUTF8.data.toList ∧
      image.header.includeSize.toNat = IncludeName.sectionSize includes ∧
      image.header.assemblySize.toNat = 2 * code.length ∧
      image.header.totalSize = bytes.length ∧
      image.includes = includes ∧
      List.Forall₂ (Instruction.CarriedBy table) code image.words := by
  rw [result_assembleReporting] at h
  obtain ⟨hnames, hfit, hcode, words, hcarried, rfl⟩ := assemble_eq_ok_iff.1 h
  rw [hcarried.length_eq] at hcode ⊢
  have hvalid := (Image.Expressible.mk hnames hfit hcode).valid
  exact ⟨Image.ofContents includes words, hvalid.read_layout, Version.toBytes_eq_iff.2 rfl,
    hvalid.includeSize_eq, hvalid.assemblySize_eq, hvalid.length_layout.symm, rfl, hcarried⟩

/-- A repeated name, an empty one, and a mnemonic that shares its number with another. -/
theorem assembled_executable_reads_back_repeated_name :
    (assembleReporting true ["io", "", "io"] [⟨"ADD", 2, .pointer, 7⟩]
      (.ordered (.ofPairs [("PLUS", 3), ("ADD", 3)]))).result =
      .ok [0x31, 0x2E, 0x31, 0x20, 7, 0, 2, 0, 0, 0,
        0x69, 0x6F, 10, 10, 0x69, 0x6F, 10, 0x03, 0x81] ∧
    ∃ image, Image.read [0x31, 0x2E, 0x31, 0x20, 7, 0, 2, 0, 0, 0,
        0x69, 0x6F, 10, 10, 0x69, 0x6F, 10, 0x03, 0x81] = .ok image ∧
      image.includes = ["io", "", "io"] ∧
      List.Forall₂ (Instruction.CarriedBy (.ordered (.ofPairs [("PLUS", 3), ("ADD", 3)])))
        [⟨"ADD", 2, .pointer, 7⟩] image.words := by
  refine ⟨by decide +kernel, ?_⟩
  obtain ⟨image, hread, -, -, -, -, hincludes, hwords⟩ := assembled_executable_reads_back true
    ["io", "", "io"] [⟨"ADD", 2, .pointer, 7⟩] (.ordered (.ofPairs [("PLUS", 3), ("ADD", 3)]))
    [0x31, 0x2E, 0x31, 0x20, 7, 0, 2, 0, 0, 0, 0x69, 0x6F, 10, 10, 0x69, 0x6F, 10, 0x03, 0x81]
    (by decide +kernel)
  exact ⟨image, hread, hincludes, hwords⟩

/-! ## Tables that can be turned round -/

namespace OpcodeTable

/-- Tables that answer both lookups: instruction sets in use, and ordered tables of any entries. -/
inductive TwoWay : OpcodeTable → Prop
  | ofSet {set : InstructionSet} (h : set.Reachable) : TwoWay set.toTable
  | ofEntries (entries : Dictionary UInt8) : TwoWay (ordered entries)

/-- The mnemonic that a table gives to a number leads back to that number, also where several
mnemonics share it. -/
theorem TwoWay.opcode?_of_mnemonic? {table : OpcodeTable} (htable : table.TwoWay)
    {number : UInt8} {name : String} (h : table.mnemonic? number = some name) :
    table.opcode? name = some number := by
  cases htable with
  | ofSet hset => exact hset.lawful.opcode?_of_mnemonic? h
  | ofEntries entries =>
      obtain ⟨⟨name', number'⟩, hfind, rfl⟩ := Option.map_eq_some_iff.1 h
      have hnumber : number' = number := by simpa using List.find?_some hfind
      have hmem := List.mem_of_find?_eq_some hfind
      rw [← hnumber]
      exact Dictionary.get?_of_mem hmem

end OpcodeTable

/-! ## From words to instructions and back -/

namespace Instruction

variable {table : OpcodeTable}

/-- A word carries the instruction that it is read as. -/
theorem carriedBy_of_ofWord? (htable : table.TwoWay) {w : Word} {i : Instruction}
    (h : ofWord? w table = some i) : i.CarriedBy table w := by
  obtain ⟨name, hname, rfl⟩ := Option.map_eq_some_iff.1 h
  exact ⟨rfl, rfl, htable.opcode?_of_mnemonic? hname⟩

theorem carriedBy_of_mapM_ofWord? (htable : table.TwoWay) {words : List Word}
    {code : List Instruction} (h : words.mapM (fun w => ofWord? w table) = some code) :
    List.Forall₂ (CarriedBy table) code words := by
  induction words generalizing code with
  | nil =>
      have hnil : code = [] := (Option.some.inj h).symm
      rw [hnil]
      exact List.Forall₂.nil
  | cons w rest ih =>
      rw [List.mapM_cons] at h
      obtain ⟨i, hi, h⟩ := Option.bind_eq_some_iff.1 h
      obtain ⟨code', hrest, h⟩ := Option.bind_eq_some_iff.1 h
      rw [← Option.some.inj h]
      exact List.Forall₂.cons (carriedBy_of_ofWord? htable hi) (ih hrest)

end Instruction

/-- An executable whose words all have instructions is assembled from its names and these
instructions to the same bytes. -/
theorem reassembled_executable_is_identical (verbose : Bool) (bytes : List UInt8) (image : Image)
    (table : OpcodeTable) (code : List Instruction) (hread : Image.read bytes = .ok image)
    (htable : table.TwoWay)
    (hcode : image.words.mapM (fun w => Instruction.ofWord? w table) = some code) :
    (assembleReporting verbose image.includes code table).result = .ok bytes := by
  obtain ⟨hvalid, hbytes⟩ := Image.read_eq_ok_iff.1 hread
  have hcarried := Instruction.carriedBy_of_mapM_ofWord? htable hcode
  have hcontents := hvalid.expressible
  rw [result_assembleReporting, assemble_eq_ok_iff, hcarried.length_eq]
  exact ⟨hcontents.ascii, hcontents.names_fit, hcontents.words_fit, image.words, hcarried, hbytes⟩

/-- An instruction set with a mnemonic that ends in a capital sigma, which is stored in its final
form. -/
theorem reassembled_executable_is_identical_final_sigma :
    ∃ set, InstructionSet.ofPairs [("LRA", 3), ("ΑΣ", 5)] = .ok set ∧
      (assembleReporting false ["io"] [⟨"lra", 2, .pointer, 0⟩, ⟨"ας", 0, .immediate, 0⟩]
        set.toTable).result =
        .ok [0x31, 0x2E, 0x31, 0x20, 3, 0, 4, 0, 0, 0, 0x69, 0x6F, 10, 0x03, 0x81, 0x05, 0x00] := by
  refine ⟨_, rfl, ?_⟩
  exact reassembled_executable_is_identical false _
    ⟨⟨.current, 3, 4⟩, ["io"], [⟨0x8103⟩, ⟨0x0005⟩]⟩ _ _ rfl
    (.ofSet (@InstructionSet.Reachable.ofPairs [("LRA", 3), ("ΑΣ", 5)] _ rfl)) rfl

end MqAssembler
