import MqAssembler.Listing
import MqAssembler.Proofs.AssemblyRoundTrip
import MqAssembler.Proofs.HexNumerals
import MqAssembler.Proofs.PrintedSummary

/-!
# The listing of an assembled program

The listing of a freshly assembled executable shows the program it was assembled from: its include
names and then its instructions, each with its address and its two bytes of the file, and with the
mnemonic in lower case.

## Implementation notes

A row is described by what stands in the file at the instruction's place, not by the word that was
encoded. That the two agree needs the offsets of the layout; that every word has a name needs the
instruction set to be one to one.

A word without a name would be shown by its numbers, and its row would end with a digit. A mnemonic
may hold any text, but the row of an instruction ends with the sequence that switches the colour
off, so the two kinds of rows cannot be taken for each other.
-/

namespace MqAssembler

/-! ## Where the words of an executable stand -/

/-- The bytes of the word at an index stand at twice that index in the assembly section. -/
theorem Word.getElem?_flatMap_toBytes {words : List Word} {n : Nat} {w : Word}
    {low high : UInt8} (hw : words[n]? = some w) (hbytes : w.toBytes = [low, high]) :
    (words.flatMap toBytes)[2 * n]? = some low ∧
      (words.flatMap toBytes)[2 * n + 1]? = some high := by
  induction words generalizing n with
  | nil => simp at hw
  | cons first rest ih =>
      rw [List.flatMap_cons]
      cases n with
      | zero =>
          have hfirst : first = w := by simpa using hw
          rw [hfirst, hbytes]
          exact ⟨rfl, rfl⟩
      | succ n =>
          have hrest : rest[n]? = some w := by simpa using hw
          obtain ⟨hlow, hhigh⟩ := ih hrest
          have hfirst : first.toBytes.length ≤ 2 * (n + 1) := by
            rw [length_toBytes]
            omega
          rw [List.getElem?_append_right hfirst,
            List.getElem?_append_right (Nat.le_add_right_of_le hfirst), length_toBytes]
          have heven : 2 * (n + 1) - 2 = 2 * n := by omega
          have hodd : 2 * (n + 1) + 1 - 2 = 2 * n + 1 := by omega
          rw [heven, hodd]
          exact ⟨hlow, hhigh⟩

/-- Behind the header and the include section of an executable comes the assembly section. -/
theorem Image.Valid.getElem?_layout {image : Image} (h : image.Valid) (k : Nat) :
    (layout image.includes image.words)[Header.size + image.header.includeSize.toNat + k]? =
      (image.words.flatMap Word.toBytes)[k]? := by
  have hnames : (IncludeName.encodeAll image.includes).length =
      image.header.includeSize.toNat := by
    rw [IncludeName.length_encodeAll h.names, h.includeSize_eq]
  rw [h.layout_eq, ← List.append_assoc, List.getElem?_append_right]
  · rw [List.length_append, Header.length_toBytes, hnames, Nat.add_sub_cancel_left]
  · rw [List.length_append, Header.length_toBytes, hnames]
    omega

/-! ## What the words are shown as -/

/-- A word that carries an instruction is read as that instruction with a lowered mnemonic and
without a line. -/
theorem Instruction.CarriedBy.ofWord?_eq {set : InstructionSet} (hset : set.Lawful)
    {i : Instruction} {w : Word} (h : i.CarriedBy set.toTable w) :
    ofWord? w set.toTable = some ⟨Text.lowercase i.mnemonic, i.value, i.mode, 0⟩ := by
  have hname : set.mnemonic? w.opcode = some (Text.lowercase i.mnemonic) :=
    hset.opcode?_eq_some_iff.1 h.opcode_eq
  simp only [ofWord?, InstructionSet.toTable, hname, Option.map_some, h.mode_eq, h.operand_eq]

/-- Each word of a program is read as the instruction at its place. -/
theorem Instruction.ofWord?_of_forall₂ {set : InstructionSet} (hset : set.Lawful)
    {code : List Instruction} {words : List Word}
    (h : List.Forall₂ (CarriedBy set.toTable) code words) {n : Nat} {i : Instruction} {w : Word}
    (hi : code[n]? = some i) (hw : words[n]? = some w) :
    ofWord? w set.toTable = some ⟨Text.lowercase i.mnemonic, i.value, i.mode, 0⟩ := by
  obtain ⟨hn, rfl⟩ := List.getElem?_eq_some_iff.1 hi
  obtain ⟨hn', rfl⟩ := List.getElem?_eq_some_iff.1 hw
  exact (h.get hn hn').ofWord?_eq hset

namespace Listing

open Text

/-- How an instruction is written in colour: its mnemonic in red and padded to six characters, then
its value, which is cyan behind a dollar sign if it is an address and yellow if it is not. -/
inductive InColour : Instruction → String → Prop
  | pointer (mnemonic : String) (value : UInt16) (line : Nat) :
      InColour ⟨mnemonic, value, .pointer, line⟩
        (Colour.paintBoth .red (padRight 6 mnemonic) .cyan ("$" ++ toString value.toNat))
  | immediate (mnemonic : String) (value : UInt16) (line : Nat) :
      InColour ⟨mnemonic, value, .immediate, line⟩
        (Colour.paintBoth .red (padRight 6 mnemonic) .yellow (toString value.toNat))

theorem inColour_renderStyled (i : Instruction) : InColour i i.renderStyled := by
  obtain ⟨mnemonic, value, mode, line⟩ := i
  cases mode with
  | pointer => exact InColour.pointer mnemonic value line
  | immediate => exact InColour.immediate mnemonic value line

/-- A row shows an instruction at an address: the address in at least four hexadecimal digits, the
two bytes of the file from an offset on, and the instruction in colour. -/
def ShowsInstruction (bytes : List UInt8) (offset address : Nat) (i : Instruction)
    (row : String) : Prop :=
  ∃ low high place lowText highText text,
    bytes[offset]? = some low ∧ bytes[offset + 1]? = some high ∧
    IsHexNumeral 4 address place ∧ IsHexNumeral 2 low.toNat lowText ∧
    IsHexNumeral 2 high.toNat highText ∧ InColour i text ∧
    row = "[" ++ place ++ "] " ++ lowText ++ " " ++ highText ++ " | " ++ text

theorem intercalate_hex_toBytes {w : Word} {low high : UInt8} (hbytes : w.toBytes = [low, high]) :
    " ".intercalate (w.toBytes.map fun b => hex 2 b.toNat) =
      hex 2 low.toNat ++ " " ++ hex 2 high.toNat := by
  rw [hbytes]
  rfl

theorem showsInstruction_render {bytes : List UInt8} {offset address : Nat} {i : Instruction}
    {w : Word} {low high : UInt8} (hbytes : w.toBytes = [low, high])
    (hlow : bytes[offset]? = some low) (hhigh : bytes[offset + 1]? = some high) :
    ShowsInstruction bytes offset address i (Row.word address w (some i)).render := by
  refine ⟨low, high, hex 4 address, hex 2 low.toNat, hex 2 high.toNat, i.renderStyled, hlow, hhigh,
    isHexNumeral_hex (by decide) address, isHexNumeral_hex (by decide) low.toNat,
    isHexNumeral_hex (by decide) high.toNat, inColour_renderStyled i, ?_⟩
  simp only [Row.render, intercalate_hex_toBytes hbytes, String.append_assoc]

/-! ## Words without a name -/

/-- A text ends as its last part does. -/
theorem getLast?_toList_append {last : String} {c : Char} (h : last.toList.getLast? = some c)
    (front : String) : (front ++ last).toList.getLast? = some c := by
  rw [String.toList_append, List.getLast?_append, h]
  rfl

theorem exists_getLast?_toString (n : Nat) :
    ∃ d, (toString n).toList.getLast? = some d ∧ d.isDigit = true := by
  have hdigits : (toString n).toList = Nat.toDigits 10 n := String.toList_ofList
  have hne : Nat.toDigits 10 n ≠ [] := by
    rw [Nat.toDigits_eq_if (by decide)]
    split <;> simp
  rw [hdigits]
  exact ⟨_, List.getLast?_eq_some_getLast hne,
    Nat.isDigit_of_mem_toDigits (by decide) (by decide) (List.getLast_mem hne)⟩

theorem InColour.getLast? {i : Instruction} {text : String} (h : InColour i text) :
    text.toList.getLast? = some 'm' := by
  cases h <;> exact getLast?_toList_append rfl _

/-- The row of an instruction does not end as that of a word without a name, which shows its opcode
and its operand by their numbers. -/
theorem ShowsInstruction.ne_unnamed {bytes : List UInt8} {offset address : Nat} {i : Instruction}
    {row : String} (h : ShowsInstruction bytes offset address i row) (front : String)
    (opcode operand : Nat) :
    row ≠ front ++ Colour.red.paintBold ("op#" ++ toString opcode) ++ " " ++ toString operand := by
  obtain ⟨low, high, place, lowText, highText, text, -, -, -, -, -, hcolour, rfl⟩ := h
  obtain ⟨d, hd, hdigit⟩ := exists_getLast?_toString operand
  have hrow := getLast?_toList_append hcolour.getLast?
    ("[" ++ place ++ "] " ++ lowText ++ " " ++ highText ++ " | ")
  intro heq
  rw [heq, getLast?_toList_append hd] at hrow
  obtain rfl : d = 'm' := Option.some.inj hrow
  cases hdigit

/-- A row without an instruction stands for a word that the table cannot name. -/
theorem exists_of_unnamed_mem_rows {image : Image} {table : OpcodeTable} {address : Nat}
    {w : Word} (h : Row.word address w none ∈ rows image table) :
    image.words[address]? = some w ∧ Instruction.ofWord? w table = none := by
  rcases List.mem_append.1 h with hname | hword
  · obtain ⟨name, -, hrow⟩ := List.mem_map.1 hname
    cases hrow
  · obtain ⟨⟨w', n⟩, hpair, hrow⟩ := List.mem_map.1 hword
    obtain ⟨rfl, rfl, hnone⟩ := Row.word.inj hrow
    exact ⟨List.mem_zipIdx_iff_getElem?.1 hpair, hnone⟩

end Listing

section Program

open Text

/-- The row of a word shows the instruction that the word carries. -/
theorem Listing.showsInstruction_of_getElem? {set : InstructionSet} (hset : set.Lawful)
    {includes : List String} {code : List Instruction} {words : List Word}
    (hcarried : List.Forall₂ (Instruction.CarriedBy set.toTable) code words)
    (hvalid : (Image.ofContents includes words).Valid) {n : Nat} {i : Instruction} {row : String}
    (hi : code[n]? = some i)
    (hrow : (words.zipIdx.map fun p =>
      (Row.word p.2 p.1 (Instruction.ofWord? p.1 set.toTable)).render)[n]? = some row) :
    ShowsInstruction (Image.layout includes words)
      (10 + (Image.ofContents includes words).header.includeSize.toNat + 2 * n) n
      ⟨lowercase i.mnemonic, i.value, i.mode, 0⟩ row := by
  rw [List.getElem?_map, List.getElem?_zipIdx] at hrow
  obtain ⟨⟨w, address⟩, hpair, rfl⟩ := Option.map_eq_some_iff.1 hrow
  obtain ⟨w', hw, hpair⟩ := Option.map_eq_some_iff.1 hpair
  obtain ⟨rfl, rfl⟩ := Prod.mk.inj hpair
  obtain ⟨low, high, hbytes, -⟩ := w'.exists_toBytes_eq
  obtain ⟨hlow, hhigh⟩ := Word.getElem?_flatMap_toBytes hw hbytes
  rw [Instruction.ofWord?_of_forall₂ hset hcarried hi hw, Nat.zero_add]
  apply showsInstruction_render hbytes
  · exact (hvalid.getElem?_layout (2 * n)).trans hlow
  · exact (hvalid.getElem?_layout (2 * n + 1)).trans hhigh

/-- The listing of an assembled executable is the summary of its header, one row for each include
name and one for each instruction, all in the order of the program and between two rules. No word
is shown without a name. -/
theorem listing_shows_assembled_program (set : InstructionSet) (hset : set.Reachable)
    (verbose : Bool) (includes : List String) (code : List Instruction) (bytes : List UInt8)
    (h : (assembleReporting verbose includes code set.toTable).result = .ok bytes) :
    ∃ image shown, Image.read bytes = .ok image ∧
      image.header = Header.ofSizes (IncludeName.sectionSize includes) (2 * code.length) ∧
      image.header.summary =
        [bold "Header start:",
         "\tcpuVersion:          " ++ Colour.yellow.paint "1.1",
         "\tincludeSectionSize:  " ++
           Colour.yellow.paint (toString (IncludeName.sectionSize includes)),
         "\tassemblySectionSize: " ++ Colour.yellow.paint (toString (2 * code.length)),
         bold "Header end.",
         "Total size: " ++ Colour.green.paint (toString bytes.length) ++ " bytes"] ∧
      Listing.lines image set.toTable =
        image.header.summary ++ ["---------------+----------------------------------------"] ++
          includes.map (fun name =>
            "               | " ++ Colour.green.paint "include" ++ " " ++ name) ++
          shown ++ ["---------------+----------------------------------------"] ∧
      shown.length = code.length ∧
      (∀ n i row, code[n]? = some i → shown[n]? = some row →
        Listing.ShowsInstruction bytes (10 + image.header.includeSize.toNat + 2 * n) n
          ⟨lowercase i.mnemonic, i.value, i.mode, 0⟩ row) ∧
      (∀ address w, Listing.Row.word address w none ∉ Listing.rows image set.toTable) ∧
      ∀ row ∈ shown, ∀ (front : String) (opcode operand : Nat),
        row ≠ front ++ Colour.red.paintBold ("op#" ++ toString opcode) ++ " " ++
          toString operand := by
  rw [result_assembleReporting] at h
  obtain ⟨words, hcarried, hvalid, rfl⟩ := exists_valid_of_assemble h
  have hlength := hcarried.length_eq
  rw [hlength]
  refine ⟨Image.ofContents includes words,
    words.zipIdx.map fun p =>
      (Listing.Row.word p.2 p.1 (Instruction.ofWord? p.1 set.toTable)).render,
    hvalid.read_layout, rfl, ?_, ?_, ?_, ?_, ?_, ?_⟩
  · rw [hvalid.summary_eq, ← hvalid.length_layout]
    rfl
  · simp only [Listing.lines, Listing.rows, Image.ofContents, List.map_append, List.map_map,
      List.append_assoc]
    rfl
  · rw [List.length_map, List.length_zipIdx]
  · intro n i row hi hrow
    exact Listing.showsInstruction_of_getElem? hset.lawful hcarried hvalid hi hrow
  · intro address w hmem
    obtain ⟨hw, hnone⟩ := Listing.exists_of_unnamed_mem_rows hmem
    obtain ⟨hn, -⟩ := List.getElem?_eq_some_iff.1 hw
    have hi := List.getElem?_eq_getElem (hlength ▸ hn)
    rw [Instruction.ofWord?_of_forall₂ hset.lawful hcarried hi hw] at hnone
    cases hnone
  · intro row hmem
    obtain ⟨n, hn, hrow⟩ := List.getElem_of_mem hmem
    have hcode : n < code.length := by
      rw [List.length_map, List.length_zipIdx] at hn
      omega
    have hi := List.getElem?_eq_getElem hcode
    have hrow := List.getElem?_eq_some_iff.2 ⟨hn, hrow⟩
    exact (Listing.showsInstruction_of_getElem? hset.lawful hcarried hvalid hi hrow).ne_unnamed

/-- A mnemonic that the set and the program write in different letter case. -/
theorem listing_shows_assembled_program_mixed_case :
    ∃ set image shown, InstructionSet.ofPairs [("LRA", 3)] = .ok set ∧
      (assembleReporting true ["io"] [⟨"Lra", 2, .pointer, 7⟩] set.toTable).result =
        .ok [0x31, 0x2E, 0x31, 0x20, 3, 0, 2, 0, 0, 0, 0x69, 0x6F, 10, 0x03, 0x81] ∧
      Listing.lines image set.toTable =
        image.header.summary ++ ["---------------+----------------------------------------"] ++
          ["               | " ++ Colour.green.paint "include" ++ " io"] ++ shown ++
          ["---------------+----------------------------------------"] ∧
      shown.length = 1 ∧
      ∀ row, shown[0]? = some row →
        Listing.ShowsInstruction
          [0x31, 0x2E, 0x31, 0x20, 3, 0, 2, 0, 0, 0, 0x69, 0x6F, 10, 0x03, 0x81]
          (10 + image.header.includeSize.toNat) 0 ⟨"lra", 2, .pointer, 0⟩ row := by
  obtain ⟨image, shown, -, -, -, hlines, hlength, hrows, -, -⟩ := listing_shows_assembled_program _
    (@InstructionSet.Reachable.ofPairs [("LRA", 3)] _ rfl) true ["io"]
    [⟨"Lra", 2, .pointer, 7⟩] _ rfl
  refine ⟨_, image, shown, rfl, rfl, ?_, hlength, ?_⟩
  · rw [hlines]
    rfl
  · intro row hrow
    have hlower : lowercase "Lra" = "lra" := by decide +kernel
    have hshown := hrows 0 ⟨"Lra", 2, .pointer, 7⟩ row rfl hrow
    rwa [hlower] at hshown

end Program

end MqAssembler
