import MqAssembler.Proofs.IncludeSection
import MqAssembler.Proofs.WordFields

/-!
# The format of executables

The reader accepts a byte sequence exactly when it is the written form of some names and words
that the size fields can describe. Reading therefore loses nothing: the image determines the
bytes, and the bytes determine the image.

## Implementation notes

Header, include section and assembly section are inverted one by one. What joins them is the
length check: it makes the two slices behind the header cover the input, and it fixes where the
second one starts.
-/

namespace MqAssembler

/-! ## Headers -/

theorem Version.toBytes_eq_iff {version : Version} :
    version.toBytes = "1.1 ".toUTF8.data.toList ↔ version = .current := by
  have hcurrent : "1.1 ".toUTF8.data.toList = Version.current.toBytes := by decide
  rw [hcurrent]
  constructor
  · intro h
    cases version
    simp only [Version.toBytes, Version.current, List.cons.injEq, and_true] at h
    obtain ⟨rfl, rfl, rfl, rfl⟩ := h
    rfl
  · rintro rfl
    rfl

namespace Header

theorem length_toBytes (h : Header) : h.toBytes.length = size := by
  simp [toBytes, Version.toBytes, size]

/-- A written header is read back, whatever follows it. -/
theorem read_toBytes_append {header : Header} (hversion : header.version = .current)
    (rest : List UInt8) : Header.read (header.toBytes ++ rest) = .ok header := by
  obtain ⟨version, includeSize, assemblySize⟩ := header
  subst hversion
  have hinclude : LittleEndian.decode (LittleEndian.encode 2 includeSize.toNat) =
      includeSize.toNat := by
    rw [LittleEndian.decode_encode]
    exact Nat.mod_eq_of_lt includeSize.toNat_lt
  have hassembly : LittleEndian.decode (LittleEndian.encode 4 assemblySize.toNat) =
      assemblySize.toNat := by
    rw [LittleEndian.decode_encode]
    exact Nat.mod_eq_of_lt assemblySize.toNat_lt
  change Except.ok (Header.mk .current
    (UInt16.ofNat (LittleEndian.decode (LittleEndian.encode 2 includeSize.toNat)))
    (UInt32.ofNat (LittleEndian.decode (LittleEndian.encode 4 assemblySize.toNat)))) = _
  rw [hinclude, hassembly, UInt16.ofNat_toNat, UInt32.ofNat_toNat]

/-- An accepted header stands in front of the bytes it was read from. -/
theorem eq_toBytes_append_of_read {bytes : List UInt8} {header : Header}
    (h : Header.read bytes = .ok header) :
    header.version = .current ∧ bytes = header.toBytes ++ bytes.drop size := by
  unfold Header.read at h
  split at h
  · rename_i v0 v1 v2 v3 i0 i1 a0 a1 a2 a3 rest
    dsimp only at h
    split at h
    · rename_i hversion
      have hheader := Except.ok.inj h
      subst hheader
      have hinclude : LittleEndian.encode 2
          (UInt16.ofNat (LittleEndian.decode [i0, i1])).toNat = [i0, i1] := by
        have hlt : LittleEndian.decode [i0, i1] < 2 ^ 16 := LittleEndian.decode_lt [i0, i1]
        rw [UInt16.toNat_ofNat', Nat.mod_eq_of_lt hlt]
        exact LittleEndian.encode_decode [i0, i1]
      have hassembly : LittleEndian.encode 4
          (UInt32.ofNat (LittleEndian.decode [a0, a1, a2, a3])).toNat = [a0, a1, a2, a3] := by
        have hlt : LittleEndian.decode [a0, a1, a2, a3] < 2 ^ 32 :=
          LittleEndian.decode_lt [a0, a1, a2, a3]
        rw [UInt32.toNat_ofNat', Nat.mod_eq_of_lt hlt]
        exact LittleEndian.encode_decode [a0, a1, a2, a3]
      refine ⟨hversion, ?_⟩
      rw [toBytes, hinclude, hassembly]
      rfl
    · cases h
  · cases h

end Header

/-! ## Images -/

namespace Image

/-- What every accepted image satisfies: the version in use, names of the include section, and a
header that records the sizes of both sections. -/
structure Valid (image : Image) : Prop where
  version_eq : image.header.version = .current
  names : ∀ name ∈ image.includes, IsIncludeName name
  includeSize_eq : image.header.includeSize.toNat = IncludeName.sectionSize image.includes
  assemblySize_eq : image.header.assemblySize.toNat = 2 * image.words.length

theorem Valid.ofSizes_eq {image : Image} (h : image.Valid) :
    Header.ofSizes (IncludeName.encodeAll image.includes).length (2 * image.words.length) =
      image.header := by
  rw [IncludeName.length_encodeAll h.names, ← h.includeSize_eq, ← h.assemblySize_eq,
    Header.ofSizes, ← h.version_eq, UInt16.ofNat_toNat, UInt32.ofNat_toNat]

theorem Valid.layout_eq {image : Image} (h : image.Valid) :
    layout image.includes image.words =
      image.header.toBytes ++
        (IncludeName.encodeAll image.includes ++ image.words.flatMap Word.toBytes) := by
  rw [layout, h.ofSizes_eq, List.append_assoc]

/-- The written form of an image is as long as its header announces. -/
theorem Valid.length_layout {image : Image} (h : image.Valid) :
    (layout image.includes image.words).length = image.header.totalSize := by
  calc
    (layout image.includes image.words).length =
        Header.size + (IncludeName.sectionSize image.includes + 2 * image.words.length) := by
      rw [h.layout_eq, List.length_append, List.length_append, Header.length_toBytes,
        IncludeName.length_encodeAll h.names, Word.length_flatMap_toBytes]
    _ = Header.size + (image.header.includeSize.toNat + image.header.assemblySize.toNat) := by
      rw [h.includeSize_eq, h.assemblySize_eq]
    _ = image.header.totalSize := by
      rw [Header.totalSize, Nat.add_assoc]

/-- The checks that stand between a header and an accepted image. -/
theorem readSections_eq_ok_iff {header : Header} {bytes : List UInt8} {image : Image} :
    readSections header bytes = .ok image ↔
      bytes.length = header.totalSize ∧ header.assemblySize.toNat % 2 = 0 ∧
      IncludeName.decodeAll? ((bytes.drop Header.size).take header.includeSize.toNat) =
        some image.includes ∧
      image.header = header ∧
      image.words = Word.readAll ((bytes.drop Header.size).drop header.includeSize.toNat) := by
  constructor
  · intro h
    simp only [readSections] at h
    split at h
    · cases h
    · split at h
      · cases h
      · split at h
        · cases h
        · rename_i hshort hlong hodd
          split at h
          · cases h
          · rename_i includes hincludes
            have himage := Except.ok.inj h
            subst himage
            exact ⟨by omega, by omega, hincludes, rfl, rfl⟩
  · rintro ⟨hlength, heven, hincludes, rfl, hwords⟩
    simp only [readSections, hlength, Nat.lt_irrefl, if_false, heven, ne_eq, not_true_eq_false,
      hincludes, ← hwords]

/-- The written form of a valid image is accepted and read back as that image. -/
theorem Valid.read_layout {image : Image} (h : image.Valid) :
    read (layout image.includes image.words) = .ok image := by
  have hdrop : (layout image.includes image.words).drop Header.size =
      IncludeName.encodeAll image.includes ++ image.words.flatMap Word.toBytes := by
    rw [h.layout_eq, ← image.header.length_toBytes, List.drop_left]
  have hsize : image.header.includeSize.toNat = (IncludeName.encodeAll image.includes).length := by
    rw [IncludeName.length_encodeAll h.names, h.includeSize_eq]
  have hheader : Header.read (layout image.includes image.words) = .ok image.header := by
    rw [h.layout_eq]
    exact Header.read_toBytes_append h.version_eq _
  simp only [read, hheader]
  rw [readSections_eq_ok_iff]
  refine ⟨h.length_layout, by rw [h.assemblySize_eq]; omega, ?_, rfl, ?_⟩
  · rw [hdrop, hsize, List.take_left]
    exact IncludeName.decodeAll?_encodeAll h.names
  · rw [hdrop, hsize, List.drop_left, Word.readAll_flatMap_toBytes]

/-- An accepted byte sequence is the written form of its image, which is valid. -/
theorem valid_of_read {bytes : List UInt8} {image : Image} (h : read bytes = .ok image) :
    image.Valid ∧ bytes = layout image.includes image.words := by
  cases hheader : Header.read bytes with
  | error e => simp only [read, hheader, reduceCtorEq] at h
  | ok header =>
      simp only [read, hheader] at h
      obtain ⟨hlength, heven, hincludes, rfl, hwords⟩ := readSections_eq_ok_iff.1 h
      obtain ⟨hversion, hbytes⟩ := Header.eq_toBytes_append_of_read hheader
      obtain ⟨hnames, hencode⟩ := IncludeName.decodeAll?_eq_some_iff.1 hincludes
      have hrest : (bytes.drop Header.size).length =
          image.header.includeSize.toNat + image.header.assemblySize.toNat := by
        rw [List.length_drop, hlength, Header.totalSize]
        omega
      have hcode : image.words.flatMap Word.toBytes =
          (bytes.drop Header.size).drop image.header.includeSize.toNat := by
        rw [hwords]
        apply Word.flatMap_toBytes_readAll
        rw [List.length_drop, hrest]
        omega
      have hvalid : image.Valid := by
        refine ⟨hversion, hnames, ?_, ?_⟩
        · rw [← IncludeName.length_encodeAll hnames, hencode, List.length_take, hrest]
          omega
        · rw [← Word.length_flatMap_toBytes, hcode, List.length_drop, hrest]
          omega
      refine ⟨hvalid, ?_⟩
      rw [hvalid.layout_eq, hencode, hcode, List.take_append_drop]
      exact hbytes

/-- The reader accepts exactly the written forms of valid images. -/
theorem read_eq_ok_iff {bytes : List UInt8} {image : Image} :
    read bytes = .ok image ↔ image.Valid ∧ bytes = layout image.includes image.words := by
  constructor
  · exact valid_of_read
  · rintro ⟨hvalid, rfl⟩
    exact hvalid.read_layout

/-! ## The format in bytes -/

/-- Names and words that the size fields of a header can describe. -/
structure Expressible (names : List String) (words : List Word) : Prop where
  ascii : ∀ name ∈ names, IsIncludeName name
  names_fit : IncludeName.sectionSize names ≤ 65535
  words_fit : 2 * words.length ≤ 4294967295

/-- The bytes that the format prescribes: the version, the byte counts of both sections, each
name with a line feed after it, and each word with its low byte first. -/
def prescribed (names : List String) (words : List Word) : List UInt8 :=
  "1.1 ".toUTF8.data.toList ++
    LittleEndian.encode 2 (IncludeName.sectionSize names) ++
    LittleEndian.encode 4 (2 * words.length) ++
    names.flatMap (fun name => name.toUTF8.data.toList ++ "\n".toUTF8.data.toList) ++
    words.flatMap fun w => LittleEndian.encode 2 w.bits.toNat

/-- The image of given names and words. -/
def ofContents (names : List String) (words : List Word) : Image :=
  ⟨Header.ofSizes (IncludeName.sectionSize names) (2 * words.length), names, words⟩

variable {names : List String} {words : List Word}

theorem Expressible.valid (h : Expressible names words) : (ofContents names words).Valid := by
  refine ⟨rfl, h.ascii, ?_, ?_⟩
  · simp only [ofContents, Header.ofSizes, UInt16.toNat_ofNat']
    exact Nat.mod_eq_of_lt (Nat.lt_succ_of_le h.names_fit)
  · simp only [ofContents, Header.ofSizes, UInt32.toNat_ofNat']
    exact Nat.mod_eq_of_lt (Nat.lt_succ_of_le h.words_fit)

theorem Valid.expressible {image : Image} (h : image.Valid) :
    Expressible image.includes image.words := by
  refine ⟨h.names, ?_, ?_⟩
  · rw [← h.includeSize_eq]
    exact Nat.le_of_lt_succ image.header.includeSize.toNat_lt
  · rw [← h.assemblySize_eq]
    exact Nat.le_of_lt_succ image.header.assemblySize.toNat_lt

/-- What the assembler lays out is what the format prescribes. -/
theorem Expressible.prescribed_eq_layout (h : Expressible names words) :
    prescribed names words = layout names words := by
  have hversion : "1.1 ".toUTF8.data.toList = Version.current.toBytes := by decide
  have hfeed : "\n".toUTF8.data.toList = [IncludeName.terminator] := by decide
  have hnames : names.flatMap (fun name => name.toUTF8.data.toList ++ [IncludeName.terminator]) =
      IncludeName.encodeAll names := by
    apply List.flatMap_congr
    intro name hname
    rw [IncludeName.toBytes_eq_toUTF8 (h.ascii name hname)]
  have hheader : (ofContents names words).header.toBytes =
      Version.current.toBytes ++ LittleEndian.encode 2 (IncludeName.sectionSize names) ++
        LittleEndian.encode 4 (2 * words.length) := by
    rw [Header.toBytes, h.valid.version_eq, h.valid.includeSize_eq, h.valid.assemblySize_eq]
    rfl
  calc
    prescribed names words =
        (ofContents names words).header.toBytes ++
          (IncludeName.encodeAll names ++ words.flatMap Word.toBytes) := by
      rw [prescribed, hversion, hfeed, hnames, hheader, List.append_assoc]
      rfl
    _ = layout names words := h.valid.layout_eq.symm

/-- The reader accepts exactly the byte sequences that the format prescribes for some names and
words, and the image holds these names, these words and their byte counts. Writing an accepted
image down again gives the bytes it was read from, so no other bytes have that image. -/
theorem read_accepts_exactly_format (bytes : List UInt8) (image : Image) :
    (read bytes = .ok image ↔
      ∃ names words, Expressible names words ∧ bytes = prescribed names words ∧
        image.includes = names ∧ image.words = words ∧
        image.header.version.toBytes = "1.1 ".toUTF8.data.toList ∧
        image.header.includeSize.toNat = IncludeName.sectionSize names ∧
        image.header.assemblySize.toNat = 2 * words.length) ∧
    (read bytes = .ok image → prescribed image.includes image.words = bytes) ∧
    (∀ other, read bytes = .ok image → read other = .ok image → other = bytes) := by
  have hback {input : List UInt8} (h : read input = .ok image) :
      prescribed image.includes image.words = input := by
    obtain ⟨hvalid, hinput⟩ := read_eq_ok_iff.1 h
    rw [hvalid.expressible.prescribed_eq_layout, hinput]
  refine ⟨⟨?_, ?_⟩, hback, ?_⟩
  · intro h
    have hvalid := (read_eq_ok_iff.1 h).1
    exact ⟨image.includes, image.words, hvalid.expressible, (hback h).symm, rfl, rfl,
      Version.toBytes_eq_iff.2 hvalid.version_eq, hvalid.includeSize_eq, hvalid.assemblySize_eq⟩
  · rintro ⟨names, words, hcontents, rfl, rfl, rfl, hversion, hinclude, hassembly⟩
    have hvalid : image.Valid :=
      ⟨Version.toBytes_eq_iff.1 hversion, hcontents.ascii, hinclude, hassembly⟩
    exact read_eq_ok_iff.2 ⟨hvalid, hcontents.prescribed_eq_layout⟩
  · intro other h hother
    rw [← hback h, ← hback hother]

/-- Two names, the second one empty, and one word. -/
theorem read_accepts_exactly_format_empty_name :
    read [0x31, 0x2E, 0x31, 0x20, 4, 0, 2, 0, 0, 0, 0x69, 0x6F, 10, 10, 0x03, 0x81] =
      .ok ⟨⟨.current, 4, 2⟩, ["io", ""], [⟨0x8103⟩]⟩ ∧
    prescribed ["io", ""] [⟨0x8103⟩] =
      [0x31, 0x2E, 0x31, 0x20, 4, 0, 2, 0, 0, 0, 0x69, 0x6F, 10, 10, 0x03, 0x81] := by
  refine ⟨rfl, ?_⟩
  exact (read_accepts_exactly_format _ ⟨⟨.current, 4, 2⟩, ["io", ""], [⟨0x8103⟩]⟩).2.1 rfl

end Image

end MqAssembler
