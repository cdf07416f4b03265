import MqAssembler.Proofs.ExecutableFormat

/-!
# Where an executable ends

The header of an executable announces its size. Cutting bytes off the end or putting bytes behind
it changes the size that is found and leaves the announced one alone, so the reader refuses both
with a fault of length. An executable is therefore never the beginning of another one.

## Implementation notes

The fault is the same at every cut because of the order of the checks: the header is read before
any section is looked at, and the length is compared before parity and include names. A cut within
the header leaves nothing that announces a size, and ten bytes are expected there.
-/

namespace MqAssembler

namespace Header

/-- Fewer bytes than a header has are refused before the version is looked at. -/
theorem read_of_length_lt {bytes : List UInt8} (h : bytes.length < size) :
    Header.read bytes = .error (.truncated size bytes.length) := by
  unfold Header.read
  split
  · simp only [List.length_cons, size] at h
    omega
  · rfl

/-- A header is read from any bytes that start with it. -/
theorem read_of_startsWith {header : Header} (hversion : header.version = .current)
    {bytes : List UInt8} (h : header.toBytes <+: bytes) : Header.read bytes = .ok header := by
  obtain ⟨rest, rfl⟩ := h
  exact read_toBytes_append hversion rest

end Header

namespace Image

variable {bytes : List UInt8} {image : Image}

theorem readSections_of_length_lt {header : Header} (h : bytes.length < header.totalSize) :
    readSections header bytes = .error (.truncated header.totalSize bytes.length) := by
  simp only [readSections, if_pos h]

theorem readSections_of_lt_length {header : Header} (h : header.totalSize < bytes.length) :
    readSections header bytes = .error (.trailingBytes (bytes.length - header.totalSize)) := by
  have hlong : ¬ bytes.length < header.totalSize := Nat.not_lt.2 (Nat.le_of_lt h)
  simp only [readSections, if_neg hlong, if_pos h]

/-- Bytes that start with the header of a valid image are judged by that header. -/
theorem Valid.read_eq_readSections (h : image.Valid) (hstart : image.header.toBytes <+: bytes) :
    read bytes = readSections image.header bytes := by
  simp only [read, Header.read_of_startsWith h.version_eq hstart]

theorem Valid.toBytes_prefix_layout (h : image.Valid) :
    image.header.toBytes <+: layout image.includes image.words := by
  rw [h.layout_eq]
  exact List.prefix_append _ _

/-- A part of an executable that is long enough for a header starts with the whole header. -/
theorem Valid.toBytes_prefix_of_cut (h : image.Valid) {front : List UInt8}
    (hfront : front <+: layout image.includes image.words) (hlength : Header.size ≤ front.length) :
    image.header.toBytes <+: front := by
  apply List.prefix_of_prefix_length_le h.toBytes_prefix_layout hfront
  rwa [Header.length_toBytes]

/-- A cut executable is reported as truncated: against the size of a header if less than a header
is left, and against its own size otherwise. -/
theorem read_cut (h : read bytes = .ok image) {front : List UInt8} (hfront : front <+: bytes)
    (hcut : front ≠ bytes) :
    read front =
      .error (.truncated (if front.length < 10 then 10 else bytes.length) front.length) := by
  obtain ⟨hvalid, rfl⟩ := read_eq_ok_iff.1 h
  by_cases hshort : front.length < 10
  · rw [if_pos hshort, read, Header.read_of_length_lt hshort]
    rfl
  · have hless : front.length < image.header.totalSize := by
      rw [← hvalid.length_layout]
      apply Nat.lt_of_le_of_ne hfront.length_le
      intro hwhole
      exact hcut (hfront.eq_of_length hwhole)
    -- the header survives the cut and still announces the size of the whole executable
    have hheader := hvalid.toBytes_prefix_of_cut hfront (Nat.not_lt.1 hshort)
    rw [if_neg hshort, hvalid.read_eq_readSections hheader, readSections_of_length_lt hless,
      hvalid.length_layout]

/-- A padded executable is reported with the number of bytes behind its end. -/
theorem read_padded (h : read bytes = .ok image) {extra : List UInt8} (hextra : extra ≠ []) :
    read (bytes ++ extra) = .error (.trailingBytes extra.length) := by
  obtain ⟨hvalid, rfl⟩ := read_eq_ok_iff.1 h
  have hlength : (layout image.includes image.words ++ extra).length =
      image.header.totalSize + extra.length := by
    rw [List.length_append, hvalid.length_layout]
  have hmore : image.header.totalSize <
      (layout image.includes image.words ++ extra).length := by
    rw [hlength]
    exact Nat.lt_add_of_pos_right (List.length_pos_of_ne_nil hextra)
  have hheader : image.header.toBytes <+: layout image.includes image.words ++ extra :=
    hvalid.toBytes_prefix_layout.trans (List.prefix_append _ _)
  rw [hvalid.read_eq_readSections hheader, readSections_of_lt_length hmore, hlength,
    Nat.add_sub_cancel_left]

/-- Of an accepted executable every proper beginning is refused as truncated and every extension
for its trailing bytes, so no other accepted executable starts with it. -/
theorem cut_or_padded_executable_is_refused (bytes : List UInt8) (image : Image)
    (h : read bytes = .ok image) :
    (∀ front, front <+: bytes → front ≠ bytes →
      read front =
        .error (.truncated (if front.length < 10 then 10 else bytes.length) front.length)) ∧
    (∀ extra, extra ≠ [] → read (bytes ++ extra) = .error (.trailingBytes extra.length)) ∧
    ∀ other image', read other = .ok image' → bytes <+: other → bytes = other := by
  refine ⟨fun front => read_cut h, fun extra => read_padded h, ?_⟩
  intro other image' hother hstart
  by_contra hne
  have hcut := read_cut hother hstart hne
  rw [h] at hcut
  cases hcut

/-- One name and one word, cut within the size fields, cut within the word, and padded. -/
theorem cut_or_padded_executable_is_refused_one_word :
    read [0x31, 0x2E, 0x31, 0x20, 3, 0, 2, 0, 0, 0, 0x69, 0x6F, 10, 0x03, 0x81] =
      .ok ⟨⟨.current, 3, 2⟩, ["io"], [⟨0x8103⟩]⟩ ∧
    read [0x31, 0x2E, 0x31, 0x20, 3, 0, 2] = .error (.truncated 10 7) ∧
    read [0x31, 0x2E, 0x31, 0x20, 3, 0, 2, 0, 0, 0, 0x69, 0x6F, 10, 0x03] =
      .error (.truncated 15 14) ∧
    read ([0x31, 0x2E, 0x31, 0x20, 3, 0, 2, 0, 0, 0, 0x69, 0x6F, 10, 0x03, 0x81] ++ [0, 0]) =
      .error (.trailingBytes 2) := by
  obtain ⟨hcut, hpadded, -⟩ := cut_or_padded_executable_is_refused
    [0x31, 0x2E, 0x31, 0x20, 3, 0, 2, 0, 0, 0, 0x69, 0x6F, 10, 0x03, 0x81]
    ⟨⟨.current, 3, 2⟩, ["io"], [⟨0x8103⟩]⟩ rfl
  refine ⟨rfl, ?_, ?_, ?_⟩
  · exact hcut [0x31, 0x2E, 0x31, 0x20, 3, 0, 2] ⟨[0, 0, 0, 0x69, 0x6F, 10, 0x03, 0x81], rfl⟩
      (by decide)
  · exact hcut [0x31, 0x2E, 0x31, 0x20, 3, 0, 2, 0, 0, 0, 0x69, 0x6F, 10, 0x03] ⟨[0x81], rfl⟩
      (by decide)
  · exact hpadded [0, 0] (by decide)

end Image

end MqAssembler
