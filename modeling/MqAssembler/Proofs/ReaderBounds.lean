import MqAssembler.Proofs.CheckChain
import MqAssembler.Proofs.ExecutableExtent

/-!
# The reader stays within its input

The reader takes bytes out of its input at places that the input itself announces. It never asks
for a byte that is not there, its sums fit a size of 64 bits, its differences are not negative, and
the names it splits off are always text. Of an accepted input no byte is left over.

## Implementation notes

Operations on lists and numbers have a result everywhere: past the end nothing is taken, and a
difference stops at zero. The reader is therefore written a second time over operations that trap
where they have no proper result, and that version is shown to answer what the reader answers. A
trap is kept apart from a refusal: a refusal is an answer about the input, a trap would be none.

The second version splits the names at terminators after the last one is cut off, and it cuts the
code into pairs before it forms words.
-/

namespace MqAssembler

/-! ## Operations that trap -/

/-- Why an operation has no proper result. -/
inductive Trap where
  /-- There is no byte at an index. -/
  | index (index length : Nat)
  /-- A range ends before it starts, or past the end. -/
  | range (start stop length : Nat)
  /-- Bytes do not fill a place of fixed width. -/
  | width (expected found : Nat)
  /-- A sum is too large for a size. -/
  | overflow (m n : Nat)
  /-- A difference is negative. -/
  | underflow (m n : Nat)
  /-- Bytes are left over behind the last pair. -/
  | leftover (count : Nat)
  /-- A name is not text. -/
  | illFormedName (bytes : List UInt8)
deriving DecidableEq, Repr

namespace Guarded

open CheckChain

/-- The number of sizes that the machine knows. -/
def sizeLimit : Nat := 18446744073709551616

/-- The byte at an index. -/
def byteAt (bytes : List UInt8) (index : Nat) : Except Trap UInt8 :=
  match bytes[index]? with
  | some b => .ok b
  | none => .error (.index index bytes.length)

/-- The bytes from one index up to another. -/
def slice (bytes : List UInt8) (start stop : Nat) : Except Trap (List UInt8) :=
  if start ≤ stop ∧ stop ≤ bytes.length then .ok ((bytes.drop start).take (stop - start))
  else .error (.range start stop bytes.length)

/-- The sum of two sizes. -/
def add (m n : Nat) : Except Trap Nat :=
  if m + n < sizeLimit then .ok (m + n) else .error (.overflow m n)

/-- The difference of two sizes. -/
def sub (m n : Nat) : Except Trap Nat :=
  if n ≤ m then .ok (m - n) else .error (.underflow m n)

/-- The version that four bytes make up. -/
def version (bytes : List UInt8) : Except Trap Version :=
  match bytes with
  | [b0, b1, b2, b3] => .ok ⟨b0, b1, b2, b3⟩
  | _ => .error (.width 4 bytes.length)

/-- The text of a name. -/
def text (bytes : List UInt8) : Except Trap String :=
  match Text.Utf8.decode? bytes with
  | some s => .ok s
  | none => .error (.illFormedName bytes)

theorem slice_eq_ok {bytes : List UInt8} {start stop : Nat} (hstart : start ≤ stop)
    (hstop : stop ≤ bytes.length) :
    slice bytes start stop = .ok ((bytes.drop start).take (stop - start)) :=
  if_pos ⟨hstart, hstop⟩

theorem add_eq_ok {m n : Nat} (h : m + n < sizeLimit) : add m n = .ok (m + n) :=
  if_pos h

theorem sub_eq_ok {m n : Nat} (h : n ≤ m) : sub m n = .ok (m - n) :=
  if_pos h

/-! ## The reader over these operations -/

/-- Reads a header. -/
def readHeader (bytes : List UInt8) : Except Trap (Except ImageError Header) := do
  if bytes.length < Header.size then
    return .error (.truncated Header.size bytes.length)
  let found ← version (← slice bytes 0 4)
  if found ≠ .current then
    return .error (.unsupportedVersion found.text)
  let i0 ← byteAt bytes 4
  let i1 ← byteAt bytes 5
  let a0 ← byteAt bytes 6
  let a1 ← byteAt bytes 7
  let a2 ← byteAt bytes 8
  let a3 ← byteAt bytes 9
  return .ok ⟨found, UInt16.ofNat (LittleEndian.decode [i0, i1]),
    UInt32.ofNat (LittleEndian.decode [a0, a1, a2, a3])⟩

/-- The size of the executable that a header announces. -/
def totalSize (header : Header) : Except Trap Nat := do
  add (← add Header.size header.includeSize.toNat) header.assemblySize.toNat

/-- Reads an include section. -/
def readNames (bytes : List UInt8) : Except Trap (Option (List String)) := do
  if bytes.isEmpty then
    return some []
  if !bytes.all (fun b => b.toNat < 128) || bytes.getLast? != some IncludeName.terminator then
    return none
  let body ← slice bytes 0 (← sub bytes.length 1)
  return some (← (body.splitOn IncludeName.terminator).mapM text)

/-- Consecutive pairs of bytes, and what is left behind the last one. -/
def pairs : List UInt8 → List (List UInt8) × List UInt8
  | low :: high :: rest => ([low, high] :: (pairs rest).1, (pairs rest).2)
  | rest => ([], rest)

/-- The word of a pair of bytes. -/
def word (pair : List UInt8) : Except Trap Word := do
  return Word.ofBytes (← byteAt pair 0) (← byteAt pair 1)

/-- Reads an assembly section. -/
def readWords (bytes : List UInt8) : Except Trap (List Word) := do
  if (pairs bytes).2 ≠ [] then
    throw (.leftover (pairs bytes).2.length)
  (pairs bytes).1.mapM word

/-- Takes the sections behind a header apart. -/
def readSections (header : Header) (bytes : List UInt8) :
    Except Trap (Except ImageError Image) := do
  let expected ← totalSize header
  if bytes.length < expected then
    return .error (.truncated expected bytes.length)
  if expected < bytes.length then
    return .error (.trailingBytes (← sub bytes.length expected))
  if header.assemblySize.toNat % 2 ≠ 0 then
    return .error (.misalignedAssembly header.assemblySize.toNat)
  let start ← add Header.size header.includeSize.toNat
  match ← readNames (← slice bytes Header.size start) with
  | none => return .error .malformedIncludes
  | some includes =>
      let words ← readWords (← slice bytes start bytes.length)
      return .ok ⟨header, includes, words⟩

/-- Reads an executable. -/
def read (bytes : List UInt8) : Except Trap (Except ImageError Image) := do
  match ← readHeader bytes with
  | .error e => return .error e
  | .ok header => readSections header bytes

/-! ## Headers -/

theorem exists_header_bytes {bytes : List UInt8} (h : Header.size ≤ bytes.length) :
    ∃ v0 v1 v2 v3 i0 i1 a0 a1 a2 a3 rest,
      bytes = v0 :: v1 :: v2 :: v3 :: i0 :: i1 :: a0 :: a1 :: a2 :: a3 :: rest := by
  match bytes, h with
  | v0 :: v1 :: v2 :: v3 :: i0 :: i1 :: a0 :: a1 :: a2 :: a3 :: rest, _ =>
      exact ⟨v0, v1, v2, v3, i0, i1, a0, a1, a2, a3, rest, rfl⟩

/-- Behind the check of the length every byte of the header is there. -/
theorem readHeader_eq (bytes : List UInt8) : readHeader bytes = .ok (Header.read bytes) := by
  by_cases hshort : bytes.length < Header.size
  · rw [readHeader, if_pos hshort, Header.read_of_length_lt hshort]
    rfl
  · obtain ⟨v0, v1, v2, v3, i0, i1, a0, a1, a2, a3, rest, rfl⟩ :=
      exists_header_bytes (Nat.not_lt.1 hshort)
    have hslice : slice (v0 :: v1 :: v2 :: v3 :: i0 :: i1 :: a0 :: a1 :: a2 :: a3 :: rest) 0 4 =
        .ok [v0, v1, v2, v3] :=
      slice_eq_ok (by decide) (by simp)
    rw [readHeader, if_neg hshort, bind_of_eq_ok hslice, Header.read]
    by_cases hversion : Version.mk v0 v1 v2 v3 = .current
    · rw [if_pos hversion]
      exact if_neg (not_not_intro hversion)
    · rw [if_neg hversion]
      exact if_pos hversion

/-! ## Include sections -/

/-- Cutting off the last terminator and splitting at the others yields the terminated pieces. -/
theorem splitAfter_append_terminator (current : List UInt8) (done : List (List UInt8))
    (bytes : List UInt8) :
    IncludeName.splitAfter current done (bytes ++ [IncludeName.terminator]) =
      done.reverse ++ bytes.splitOnPPrepend (· == IncludeName.terminator) current := by
  induction bytes generalizing current done with
  | nil => simp [IncludeName.splitAfter]
  | cons b rest ih =>
      rw [List.cons_append, IncludeName.splitAfter]
      by_cases hb : b = IncludeName.terminator
      · rw [if_pos hb, ih, List.splitOnPPrepend_cons_pos (by simp [hb])]
        simp
      · rw [if_neg hb, ih, List.splitOnPPrepend_cons_neg (by simp [hb])]

theorem mapM_text_ascii {pieces : List (List UInt8)}
    (hascii : ∀ p ∈ pieces, ∀ b ∈ p, b.toNat < 128) :
    pieces.mapM text = .ok (pieces.map Text.Utf8.ofAscii) := by
  induction pieces with
  | nil => rfl
  | cons p rest ih =>
      obtain ⟨hp, hrest⟩ := List.forall_mem_cons.1 hascii
      have htext : text p = .ok (Text.Utf8.ofAscii p) := by
        simp only [text, Text.Utf8.decode?_ascii hp]
      rw [List.mapM_cons, bind_of_eq_ok htext, bind_of_eq_ok (ih hrest)]
      rfl

theorem ascii_of_mem_splitAfter {bytes : List UInt8} (hascii : ∀ b ∈ bytes, b.toNat < 128)
    (hlast : bytes.getLast? = some IncludeName.terminator) :
    ∀ p ∈ IncludeName.splitAfter [] [] bytes, ∀ b ∈ p, b.toNat < 128 := by
  obtain ⟨pieces, hpieces, rfl⟩ := IncludeName.exists_pieces hlast
  rw [IncludeName.splitAfter_flatMap hpieces, List.reverse_nil, List.nil_append]
  intro p hp b hb
  exact hascii b (List.mem_flatMap.2 ⟨p, hp, List.mem_append_left _ hb⟩)

/-- Behind the check for ASCII every piece of the section is text. -/
theorem readNames_eq (bytes : List UInt8) :
    readNames bytes = .ok (IncludeName.decodeAll? bytes) := by
  rw [readNames, IncludeName.decodeAll?]
  by_cases hempty : bytes.isEmpty = true
  · rw [if_pos hempty, if_pos hempty]
    rfl
  rw [if_neg hempty, if_neg hempty]
  have hcheck : (!bytes.all (fun b => b.toNat < 128) ||
      bytes.getLast? != some IncludeName.terminator) =
        !(bytes.all (fun b => b.toNat < 128) &&
          bytes.getLast? == some IncludeName.terminator) :=
    (Bool.not_and _ _).symm
  rw [hcheck]
  by_cases haccepted : (bytes.all (fun b => b.toNat < 128) &&
      bytes.getLast? == some IncludeName.terminator) = true
  · have hchecks := haccepted
    simp only [Bool.and_eq_true, List.all_eq_true, decide_eq_true_eq, beq_iff_eq] at hchecks
    obtain ⟨hascii, hlast⟩ := hchecks
    have hpieces := ascii_of_mem_splitAfter hascii hlast
    obtain ⟨body, rfl⟩ := List.getLast?_eq_some_iff.1 hlast
    have hsub : sub (body ++ [IncludeName.terminator]).length 1 = .ok body.length :=
      (sub_eq_ok (by simp)).trans (by simp)
    have hslice : slice (body ++ [IncludeName.terminator]) 0 body.length = .ok body :=
      (slice_eq_ok (Nat.zero_le _) (by simp)).trans (by simp)
    have hsplit : body.splitOn IncludeName.terminator =
        IncludeName.splitAfter [] [] (body ++ [IncludeName.terminator]) :=
      (splitAfter_append_terminator [] [] body).symm
    rw [haccepted, if_neg (by decide), if_pos rfl, bind_of_eq_ok hsub, bind_of_eq_ok hslice, hsplit,
      bind_of_eq_ok (mapM_text_ascii hpieces),
      IncludeName.mapM_decode?_ascii hpieces]
    rfl
  · rw [Bool.eq_false_iff.2 haccepted, if_pos (by decide), if_neg (by decide)]
    rfl

/-! ## Assembly sections -/

theorem word_pair (low high : UInt8) : word [low, high] = .ok (Word.ofBytes low high) := rfl

/-- A section of even length is cut into pairs without remainder, and each pair makes a word. -/
theorem readWords_eq {bytes : List UInt8} (heven : bytes.length % 2 = 0) :
    readWords bytes = .ok (Word.readAll bytes) := by
  have hpairs : (pairs bytes).2 = [] ∧ (pairs bytes).1.mapM word = .ok (Word.readAll bytes) := by
    induction bytes using List.twoStepInduction with
    | nil => exact ⟨rfl, rfl⟩
    | singleton b => simp at heven
    | cons_cons low high rest ih _ =>
        have hrest : rest.length % 2 = 0 := by
          simp only [List.length_cons] at heven
          omega
        obtain ⟨hover, hwords⟩ := ih hrest
        refine ⟨hover, ?_⟩
        rw [pairs, List.mapM_cons, bind_of_eq_ok (word_pair low high), bind_of_eq_ok hwords,
          Word.readAll_cons_cons]
        rfl
  rw [readWords, if_neg (not_not_intro hpairs.1)]
  exact hpairs.2

example : readWords [0x03, 0x81, 0x05] = .error (.leftover 1) := rfl

/-! ## Executables -/

/-- The sizes of a header are too small for the start of its second section to overflow. -/
theorem add_size_eq (header : Header) :
    add Header.size header.includeSize.toNat = .ok (Header.size + header.includeSize.toNat) := by
  have hinclude : header.includeSize.toNat < 65536 := header.includeSize.toNat_lt
  apply add_eq_ok
  simp only [Header.size, sizeLimit]
  omega

theorem totalSize_eq (header : Header) : totalSize header = .ok header.totalSize := by
  have hinclude : header.includeSize.toNat < 65536 := header.includeSize.toNat_lt
  have hassembly : header.assemblySize.toNat < 4294967296 := header.assemblySize.toNat_lt
  rw [totalSize, bind_of_eq_ok (add_size_eq header)]
  apply add_eq_ok
  simp only [Header.size, sizeLimit]
  omega

/-- Behind the check of the length both sections lie within the input. -/
theorem slice_sections_eq {header : Header} {bytes : List UInt8}
    (hlength : bytes.length = header.totalSize) :
    slice bytes Header.size (Header.size + header.includeSize.toNat) =
        .ok ((bytes.drop Header.size).take header.includeSize.toNat) ∧
      slice bytes (Header.size + header.includeSize.toNat) bytes.length =
        .ok ((bytes.drop Header.size).drop header.includeSize.toNat) := by
  have hstart : Header.size + header.includeSize.toNat ≤ bytes.length := by
    rw [hlength, Header.totalSize]
    omega
  constructor
  · rw [slice_eq_ok (Nat.le_add_right _ _) hstart, Nat.add_sub_cancel_left]
  · rw [slice_eq_ok hstart (Nat.le_refl _), List.drop_drop, List.take_of_length_le]
    exact Nat.le_of_eq List.length_drop

theorem readSections_eq (header : Header) (bytes : List UInt8) :
    readSections header bytes = .ok (Image.readSections header bytes) := by
  rw [readSections, bind_of_eq_ok (totalSize_eq header), Image.readSections]
  by_cases hshort : bytes.length < header.totalSize
  · rw [if_pos hshort, if_pos hshort]
    rfl
  rw [if_neg hshort, if_neg hshort]
  by_cases hlong : header.totalSize < bytes.length
  · rw [if_pos hlong, if_pos hlong, bind_of_eq_ok (sub_eq_ok (Nat.le_of_lt hlong))]
    rfl
  rw [if_neg hlong, if_neg hlong]
  by_cases hodd : header.assemblySize.toNat % 2 ≠ 0
  · rw [if_pos hodd, if_pos hodd]
    rfl
  rw [if_neg hodd, if_neg hodd]
  have hlength := Nat.le_antisymm (Nat.not_lt.1 hlong) (Nat.not_lt.1 hshort)
  obtain ⟨hnames, hcode⟩ := slice_sections_eq hlength
  rw [bind_of_eq_ok (add_size_eq header), bind_of_eq_ok hnames, bind_of_eq_ok (readNames_eq _)]
  dsimp only
  cases IncludeName.decodeAll? ((bytes.drop Header.size).take header.includeSize.toNat) with
  | none => rfl
  | some includes =>
      have heven : ((bytes.drop Header.size).drop header.includeSize.toNat).length % 2 = 0 := by
        rw [List.length_drop, List.length_drop, hlength, Header.totalSize]
        omega
      dsimp only
      rw [bind_of_eq_ok hcode, bind_of_eq_ok (readWords_eq heven)]
      rfl

theorem read_eq (bytes : List UInt8) : read bytes = .ok (Image.read bytes) := by
  rw [read, bind_of_eq_ok (readHeader_eq bytes), Image.read]
  cases Header.read bytes with
  | error e => rfl
  | ok header => exact readSections_eq header bytes

end Guarded

/-- On no input does the reader trap: not in a header or the size it announces, not in an include
section, and not in a whole executable. An accepted input is made up of ten bytes of header, the
include section and the two bytes of each word, with nothing left over. -/
theorem reader_stays_within_bounds (bytes : List UInt8) :
    Guarded.readHeader bytes = .ok (Header.read bytes) ∧
    (∀ header, Guarded.totalSize header = .ok header.totalSize) ∧
    Guarded.readNames bytes = .ok (IncludeName.decodeAll? bytes) ∧
    Guarded.read bytes = .ok (Image.read bytes) ∧
    ∀ image, Image.read bytes = .ok image →
      ∃ front names code, bytes = front ++ names ++ code ∧ front.length = 10 ∧
        names.length = image.header.includeSize.toNat ∧
        code.length = image.header.assemblySize.toNat ∧
        code = image.words.flatMap Word.toBytes ∧ ∀ w ∈ image.words, w.toBytes.length = 2 := by
  refine ⟨Guarded.readHeader_eq bytes, Guarded.totalSize_eq, Guarded.readNames_eq bytes,
    Guarded.read_eq bytes, ?_⟩
  intro image h
  obtain ⟨hvalid, hbytes⟩ := Image.read_eq_ok_iff.1 h
  refine ⟨image.header.toBytes, IncludeName.encodeAll image.includes,
    image.words.flatMap Word.toBytes, ?_, image.header.length_toBytes, ?_, ?_, rfl, ?_⟩
  · rw [hbytes, hvalid.layout_eq, List.append_assoc]
  · rw [IncludeName.length_encodeAll hvalid.names, hvalid.includeSize_eq]
  · rw [Word.length_flatMap_toBytes, hvalid.assemblySize_eq]
  · intro w _
    exact w.length_toBytes

/-- One name and one word, whole and with the announced assembly section cut off. -/
theorem reader_stays_within_bounds_one_word :
    (∃ front names code,
      [0x31, 0x2E, 0x31, 0x20, 3, 0, 2, 0, 0, 0, 0x69, 0x6F, 10, 0x03, 0x81] =
        front ++ names ++ code ∧ front.length = 10 ∧ names.length = 3 ∧
        code = [Word.mk 0x8103].flatMap Word.toBytes) ∧
    Guarded.read [0x31, 0x2E, 0x31, 0x20, 3, 0, 2, 0, 0, 0, 0x69, 0x6F, 10] =
      .ok (.error (.truncated 15 13)) := by
  obtain ⟨-, -, -, -, hparts⟩ := reader_stays_within_bounds
    [0x31, 0x2E, 0x31, 0x20, 3, 0, 2, 0, 0, 0, 0x69, 0x6F, 10, 0x03, 0x81]
  obtain ⟨-, -, -, hcut, -⟩ := reader_stays_within_bounds
    [0x31, 0x2E, 0x31, 0x20, 3, 0, 2, 0, 0, 0, 0x69, 0x6F, 10]
  obtain ⟨front, names, code, hbytes, hfront, hnames, -, hcode, -⟩ :=
    hparts ⟨⟨.current, 3, 2⟩, ["io"], [⟨0x8103⟩]⟩ rfl
  exact ⟨⟨front, names, code, hbytes, hfront, hnames, hcode⟩, hcut⟩

end MqAssembler
