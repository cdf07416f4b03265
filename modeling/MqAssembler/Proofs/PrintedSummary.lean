import MqAssembler.Proofs.AssemblyRoundTrip

/-!
# The printed summary

Assembly prints a summary of the header on request. The summary is that of the header which the
reader finds in the finished executable, and its numbers are the sizes of the sections and of the
whole. A program that cannot be assembled leaves no summary behind, and asking for one does not
change the outcome.

## Implementation notes

The summary is made from the sizes that the writer counts, cut to the widths of the size fields, and
not from the bytes. The size checks have passed by then, so nothing is lost in the cut and the
reader finds the same numbers.
-/

namespace MqAssembler

section Reporting

variable {includes : List String} {code : List Instruction} {table : OpcodeTable}

open CheckChain in
/-- The header that comes with a written executable tells the sizes of its sections. -/
theorem header_of_writeExecutable {header : Header} {b : Buffer}
    (h : Buffer.writeExecutable includes code table = .ok (header, b)) :
    header = Header.ofSizes (IncludeName.encodeAll includes).length (2 * code.length) := by
  rw [Buffer.writeExecutable_eq] at h
  obtain ⟨⟨⟩, -, h⟩ := bind_eq_ok_iff.1 h
  obtain ⟨⟨⟩, -, h⟩ := bind_eq_ok_iff.1 h
  obtain ⟨words, hwords, h⟩ := bind_eq_ok_iff.1 h
  obtain ⟨⟨⟩, -, h⟩ := bind_eq_ok_iff.1 h
  rw [(Instruction.encodeAll_eq_ok_iff.1 hwords).length_eq]
  exact (Prod.mk.inj (Except.ok.inj h)).1.symm

theorem lines_assembleReporting_of_error {e : AssemblyError} (verbose : Bool)
    (h : assemble includes code table = .error e) :
    (assembleReporting verbose includes code table).lines = [] := by
  simp only [assembleReporting]
  cases hwrite : Buffer.writeExecutable includes code table with
  | error e => rfl
  | ok written =>
      rw [assemble, hwrite] at h
      cases h

theorem lines_assembleReporting_of_ok {bytes : List UInt8} (verbose : Bool)
    (h : assemble includes code table = .ok bytes) :
    (assembleReporting verbose includes code table).lines =
      if verbose then
        (Header.ofSizes (IncludeName.encodeAll includes).length (2 * code.length)).summary
      else [] := by
  simp only [assembleReporting]
  cases hwrite : Buffer.writeExecutable includes code table with
  | error e =>
      rw [assemble, hwrite] at h
      cases h
  | ok written => rw [← header_of_writeExecutable hwrite]

/-- Without the request nothing is printed, whatever the outcome. -/
theorem lines_assembleReporting_quiet (includes : List String) (code : List Instruction)
    (table : OpcodeTable) : (assembleReporting false includes code table).lines = [] := by
  cases h : assemble includes code table with
  | error e => exact lines_assembleReporting_of_error false h
  | ok bytes => exact lines_assembleReporting_of_ok false h

/-- The header that is summarized is the one that the reader finds. -/
theorem exists_read_and_lines_of_assemble {bytes : List UInt8}
    (h : assemble includes code table = .ok bytes) :
    ∃ image, image.Valid ∧ Image.read bytes = .ok image ∧ image.includes = includes ∧
      image.words.length = code.length ∧ image.header.totalSize = bytes.length ∧
      (assembleReporting true includes code table).lines = image.header.summary := by
  obtain ⟨words, hcarried, hvalid, rfl⟩ := exists_valid_of_assemble h
  refine ⟨Image.ofContents includes words, hvalid, hvalid.read_layout, rfl,
    hcarried.length_eq.symm, hvalid.length_layout.symm, ?_⟩
  rw [lines_assembleReporting_of_ok true h, if_pos rfl, hcarried.length_eq,
    ← hvalid.ofSizes_eq]
  rfl

end Reporting

open Text

/-- The summary of a valid image tells the sizes of its sections and of its written form. -/
theorem Image.Valid.summary_eq {image : Image} (h : image.Valid) :
    image.header.summary =
      [bold "Header start:",
       "\tcpuVersion:          " ++ Colour.yellow.paint "1.1",
       "\tincludeSectionSize:  " ++
         Colour.yellow.paint (toString (IncludeName.sectionSize image.includes)),
       "\tassemblySectionSize: " ++ Colour.yellow.paint (toString (2 * image.words.length)),
       bold "Header end.",
       "Total size: " ++ Colour.green.paint (toString image.header.totalSize) ++ " bytes"] := by
  have hversion : image.header.versionText = "1.1" := by
    rw [Header.versionText, h.version_eq]
    decide +kernel
  rw [Header.summary, hversion, h.includeSize_eq, h.assemblySize_eq]
  rfl

/-- The outcome of assembly does not depend on whether a summary is asked for. The summary of an
assembled executable is that of the header which the reader finds in it; it tells the version, the
sizes of both sections and the length of the executable. Nothing is printed without the request, nor
when assembly fails. -/
theorem summary_describes_assembled_executable (includes : List String) (code : List Instruction)
    (table : OpcodeTable) :
    (assembleReporting true includes code table).result =
      (assembleReporting false includes code table).result ∧
    (assembleReporting false includes code table).lines = [] ∧
    (∀ bytes, (assembleReporting true includes code table).result = .ok bytes →
      ∃ image, Image.read bytes = .ok image ∧
        (assembleReporting true includes code table).lines = image.header.summary ∧
        (assembleReporting true includes code table).lines =
          [bold "Header start:",
           "\tcpuVersion:          " ++ Colour.yellow.paint "1.1",
           "\tincludeSectionSize:  " ++
             Colour.yellow.paint (toString (IncludeName.sectionSize includes)),
           "\tassemblySectionSize: " ++ Colour.yellow.paint (toString (2 * code.length)),
           bold "Header end.",
           "Total size: " ++ Colour.green.paint (toString bytes.length) ++ " bytes"]) ∧
    ∀ e, (assembleReporting true includes code table).result = .error e →
      (assembleReporting true includes code table).lines = [] := by
  rw [result_assembleReporting, result_assembleReporting]
  refine ⟨rfl, lines_assembleReporting_quiet includes code table, ?_, ?_⟩
  · intro bytes h
    obtain ⟨image, hvalid, hread, rfl, hcode, htotal, hlines⟩ :=
      exists_read_and_lines_of_assemble h
    refine ⟨image, hread, hlines, ?_⟩
    rw [hlines, hvalid.summary_eq, hcode, htotal]
  · intro e h
    exact lines_assembleReporting_of_error true h

/-- A name and an instruction with their summary, and an unknown mnemonic without one. -/
theorem summary_describes_assembled_executable_one_word :
    (assembleReporting true ["io"] [⟨"ADD", 2, .pointer, 7⟩]
      (.oneWay (.ofPairs [("ADD", 3)]))).lines.getLast? =
      some ("Total size: " ++ Colour.green.paint "15" ++ " bytes") ∧
    (assembleReporting true ["io"] [⟨"add", 2, .pointer, 7⟩]
      (.oneWay (.ofPairs [("ADD", 3)]))).lines = [] := by
  obtain ⟨-, -, hprinted, -⟩ := summary_describes_assembled_executable ["io"]
    [⟨"ADD", 2, .pointer, 7⟩] (.oneWay (.ofPairs [("ADD", 3)]))
  obtain ⟨-, -, -, hsilent⟩ := summary_describes_assembled_executable ["io"]
    [⟨"add", 2, .pointer, 7⟩] (.oneWay (.ofPairs [("ADD", 3)]))
  constructor
  · obtain ⟨image, -, -, hlines⟩ := hprinted
      [0x31, 0x2E, 0x31, 0x20, 3, 0, 2, 0, 0, 0, 0x69, 0x6F, 10, 0x03, 0x81] (by decide +kernel)
    rw [hlines]
    rfl
  · exact hsilent (.machine (.unknownOpcode "add" 7)) (by decide +kernel)

end MqAssembler
