import MqAssembler.Executable.IncludeName
import Mathlib.Data.List.Basic

/-!
# The include section

An include section and its list of names determine each other: writing terminated names and
splitting at terminators are inverse on ASCII names without terminator. The empty section belongs
to the empty list, and a lone terminator to the list of one empty name.

## Implementation notes

The splitter keeps the piece under way and the finished pieces backwards. Its run lemma therefore
speaks of an arbitrary part already read. The inverse direction first cuts the bytes into
terminated pieces and then applies that lemma.
-/

namespace MqAssembler

namespace Text.Utf8

/-- The text of bytes that stand for one character each. -/
def ofAscii (bytes : List UInt8) : String :=
  String.ofList (bytes.map fun b => Char.ofNat b.toNat)

theorem foldl_step_ascii {bytes : List UInt8} (hascii : ∀ b ∈ bytes, b.toNat < 128)
    (done : List (Option Char)) :
    bytes.foldl step ⟨done, none⟩ =
      ⟨(bytes.map fun b => some (Char.ofNat b.toNat)).reverse ++ done, none⟩ := by
  induction bytes generalizing done with
  | nil => rfl
  | cons b rest ih =>
      obtain ⟨hb, hrest⟩ := List.forall_mem_cons.1 hascii
      have hstep : step ⟨done, none⟩ b = ⟨some (Char.ofNat b.toNat) :: done, none⟩ := by
        simp only [step, start, if_pos hb]
      rw [List.foldl_cons, hstep, ih hrest]
      simp

/-- ASCII bytes are well formed. -/
theorem decode?_ascii {bytes : List UInt8} (hascii : ∀ b ∈ bytes, b.toNat < 128) :
    decode? bytes = some (ofAscii bytes) := by
  have hpieces : pieces bytes = bytes.map fun b => some (Char.ofNat b.toNat) := by
    simp [pieces, foldl_step_ascii hascii]
  have hchars : (pieces bytes).filterMap id = bytes.map fun b => Char.ofNat b.toNat := by
    simp [hpieces, List.filterMap_map]
  have hall : (pieces bytes).all Option.isSome = true := by
    simp [hpieces]
  simp only [decode?, hall, if_true, hchars, ofAscii]

end Text.Utf8

namespace IncludeName

open Text.Utf8

/-! ## One name -/

theorem toNat_charOfByte (b : UInt8) : (Char.ofNat b.toNat).toNat = b.toNat := by
  have hb : b.toNat < 256 := b.toNat_lt
  have hvalid : b.toNat.isValidChar := Or.inl (by omega)
  rw [Char.ofNat, dif_pos hvalid]
  rfl

theorem toNat_byteOfChar {c : Char} (hc : c.toNat < 128) :
    (UInt8.ofNat c.toNat).toNat = c.toNat := by
  rw [UInt8.toNat_ofNat']
  omega

theorem ofAscii_toBytes {name : String} (hname : IsIncludeName name) :
    ofAscii (toBytes name) = name := by
  have hchars : (toBytes name).map (fun b => Char.ofNat b.toNat) = name.toList.map id := by
    rw [toBytes, List.map_map]
    apply List.map_congr_left
    intro c hc
    simp only [Function.comp_apply, toNat_byteOfChar (hname c hc).1, Char.ofNat_toNat, id]
  rw [ofAscii, hchars, List.map_id, String.ofList_toList]

theorem toBytes_ofAscii (bytes : List UInt8) : toBytes (ofAscii bytes) = bytes := by
  have hbytes : (ofAscii bytes).toList.map (fun c => UInt8.ofNat c.toNat) = bytes.map id := by
    rw [ofAscii, String.toList_ofList, List.map_map]
    apply List.map_congr_left
    intro b _
    simp only [Function.comp_apply, toNat_charOfByte, UInt8.ofNat_toNat, id]
  rw [toBytes, hbytes, List.map_id]

/-- The bytes of a name are ASCII and no terminators. -/
theorem byte_of_mem_toBytes {name : String} (hname : IsIncludeName name) {b : UInt8}
    (hb : b ∈ toBytes name) : b.toNat < 128 ∧ b ≠ terminator := by
  obtain ⟨c, hc, rfl⟩ := List.mem_map.1 hb
  obtain ⟨hascii, hline⟩ := hname c hc
  refine ⟨by rwa [toNat_byteOfChar hascii], ?_⟩
  intro hterminator
  apply hline
  have hcode : c.toNat = 10 := by
    rw [← toNat_byteOfChar hascii, hterminator]
    rfl
  rw [← Char.ofNat_toNat c, hcode]

/-- ASCII bytes without terminator make up a name. -/
theorem isIncludeName_ofAscii {bytes : List UInt8} (hascii : ∀ b ∈ bytes, b.toNat < 128)
    (hline : terminator ∉ bytes) : IsIncludeName (ofAscii bytes) := by
  intro c hc
  rw [ofAscii, String.toList_ofList] at hc
  obtain ⟨b, hb, rfl⟩ := List.mem_map.1 hc
  refine ⟨by rw [toNat_charOfByte]; exact hascii b hb, ?_⟩
  intro hfeed
  have hcode : b.toNat = 10 := by
    rw [← toNat_charOfByte, hfeed]
    rfl
  have hterminator : b = terminator := UInt8.toNat_inj.1 hcode
  exact hline (hterminator ▸ hb)

/-- The bytes of a name are those of its UTF-8 form. -/
theorem toBytes_eq_toUTF8 {name : String} (hname : IsIncludeName name) :
    toBytes name = name.toUTF8.data.toList := by
  have hutf8 : name.toUTF8.data.toList = name.toList.flatMap String.utf8EncodeChar := by
    simp [← String.utf8Encode_toList, List.utf8Encode]
  have hchar : ∀ c ∈ name.toList, String.utf8EncodeChar c = [UInt8.ofNat c.toNat] := by
    intro c hc
    have hsize : c.utf8Size = 1 := by
      rw [Char.utf8Size_eq_one_iff, UInt32.le_iff_toNat_le]
      exact Nat.le_of_lt_succ (hname c hc).1
    rw [String.utf8EncodeChar_eq_singleton hsize]
    rfl
  rw [hutf8, List.flatMap_congr hchar, toBytes, List.map_eq_flatMap]

/-! ## Splitting at terminators -/

/-- A terminated piece is finished when its terminator is read. -/
theorem splitAfter_terminated {piece : List UInt8} (hpiece : terminator ∉ piece)
    (current : List UInt8) (done : List (List UInt8)) (rest : List UInt8) :
    splitAfter current done (piece ++ terminator :: rest) =
      splitAfter [] ((current.reverse ++ piece) :: done) rest := by
  induction piece generalizing current with
  | nil => simp [splitAfter]
  | cons b piece ih =>
      have hb : b ≠ terminator := fun h => hpiece (h ▸ List.mem_cons_self)
      have htail : terminator ∉ piece := fun h => hpiece (List.mem_cons_of_mem _ h)
      rw [List.cons_append, splitAfter, if_neg hb, ih htail, List.reverse_cons,
        List.append_assoc, List.singleton_append]

/-- Splitting recovers any list of terminated pieces, empty ones included. -/
theorem splitAfter_flatMap {pieces : List (List UInt8)} (hpieces : ∀ p ∈ pieces, terminator ∉ p)
    (done : List (List UInt8)) :
    splitAfter [] done (pieces.flatMap fun p => p ++ [terminator]) = done.reverse ++ pieces := by
  induction pieces generalizing done with
  | nil => simp [splitAfter]
  | cons p rest ih =>
      obtain ⟨hp, hrest⟩ := List.forall_mem_cons.1 hpieces
      rw [List.flatMap_cons, List.append_assoc, List.singleton_append, splitAfter_terminated hp,
        ih hrest]
      simp

/-- Bytes whose last one is a terminator are made up of terminated pieces. -/
theorem exists_pieces {bytes : List UInt8} (hlast : bytes.getLast? = some terminator) :
    ∃ pieces : List (List UInt8), (∀ p ∈ pieces, terminator ∉ p) ∧
      pieces.flatMap (fun p => p ++ [terminator]) = bytes := by
  induction bytes with
  | nil => cases hlast
  | cons b rest ih =>
      cases rest with
      | nil =>
          have hb : b = terminator := Option.some.inj hlast
          exact ⟨[[]], by simp, by simp [hb]⟩
      | cons b' rest =>
          rw [List.getLast?_cons_cons] at hlast
          obtain ⟨pieces, hpieces, hjoin⟩ := ih hlast
          by_cases hb : b = terminator
          · refine ⟨[] :: pieces, ?_, by simp [hb, hjoin]⟩
            exact List.forall_mem_cons.2 ⟨List.not_mem_nil, hpieces⟩
          · -- `b` belongs to the first of the pieces that follow, and there is one
            cases pieces with
            | nil => cases hjoin
            | cons q pieces =>
                obtain ⟨hq, hpieces⟩ := List.forall_mem_cons.1 hpieces
                refine ⟨(b :: q) :: pieces, ?_, by rw [← hjoin]; rfl⟩
                rw [List.forall_mem_cons]
                refine ⟨?_, hpieces⟩
                intro hmem
                rcases List.mem_cons.1 hmem with heq | hmem
                · exact hb heq.symm
                · exact hq hmem

/-! ## The whole section -/

/-- The size in bytes of a section with given names, each with its terminator. -/
def sectionSize : List String → Nat
  | [] => 0
  | name :: rest => name.utf8ByteSize + 1 + sectionSize rest

theorem length_encodeAll {names : List String} (hnames : ∀ name ∈ names, IsIncludeName name) :
    (encodeAll names).length = sectionSize names := by
  induction names with
  | nil => rfl
  | cons name rest ih =>
      obtain ⟨hname, hrest⟩ := List.forall_mem_cons.1 hnames
      have hbytes : (toBytes name).length = name.utf8ByteSize := by
        rw [toBytes_eq_toUTF8 hname]
        rfl
      rw [encodeAll, List.flatMap_cons, ← encodeAll, List.length_append, List.length_append,
        hbytes, List.length_singleton, ih hrest, sectionSize]

theorem encodeAll_eq_flatMap_pieces (names : List String) :
    encodeAll names = (names.map toBytes).flatMap fun p => p ++ [terminator] := by
  rw [encodeAll, List.flatMap_map]

theorem mapM_decode?_ascii {pieces : List (List UInt8)}
    (hascii : ∀ p ∈ pieces, ∀ b ∈ p, b.toNat < 128) :
    pieces.mapM decode? = some (pieces.map ofAscii) := by
  induction pieces with
  | nil => rfl
  | cons p rest ih =>
      obtain ⟨hp, hrest⟩ := List.forall_mem_cons.1 hascii
      simp [List.mapM_cons, decode?_ascii hp, ih hrest]

theorem getLast?_flatMap_terminated {pieces : List (List UInt8)} (hne : pieces ≠ []) :
    (pieces.flatMap fun p => p ++ [terminator]).getLast? = some terminator := by
  obtain ⟨init, last, rfl⟩ : ∃ init last, pieces = init ++ [last] := by
    rcases List.eq_nil_or_concat pieces with h | ⟨init, last, h⟩
    · exact absurd h hne
    · exact ⟨init, last, by rw [h, List.concat_eq_append]⟩
  simp [List.flatMap_append]

/-- A section made of terminated ASCII pieces is accepted and split into these pieces. -/
theorem decodeAll?_pieces {pieces : List (List UInt8)}
    (hascii : ∀ p ∈ pieces, ∀ b ∈ p, b.toNat < 128) (hpieces : ∀ p ∈ pieces, terminator ∉ p) :
    decodeAll? (pieces.flatMap fun p => p ++ [terminator]) = some (pieces.map ofAscii) := by
  by_cases hne : pieces = []
  · subst hne
    rfl
  · have hlast := getLast?_flatMap_terminated hne
    have hnonempty : (pieces.flatMap fun p => p ++ [terminator]).isEmpty = false := by
      rw [List.isEmpty_eq_false_iff]
      intro hnil
      rw [hnil] at hlast
      cases hlast
    have hall : (pieces.flatMap fun p => p ++ [terminator]).all
        (fun b => b.toNat < 128) = true := by
      rw [List.all_eq_true]
      intro b hb
      obtain ⟨p, hp, hb⟩ := List.mem_flatMap.1 hb
      rcases List.mem_append.1 hb with hb | hb
      · exact decide_eq_true (hascii p hp b hb)
      · rw [List.mem_singleton.1 hb]
        rfl
    rw [decodeAll?, hnonempty, hall, hlast, splitAfter_flatMap hpieces]
    simpa using mapM_decode?_ascii hascii

/-- A written section is read back as the names it was written from. -/
theorem decodeAll?_encodeAll {names : List String} (hnames : ∀ name ∈ names, IsIncludeName name) :
    decodeAll? (encodeAll names) = some names := by
  have hascii : ∀ p ∈ names.map toBytes, ∀ b ∈ p, b.toNat < 128 := by
    intro p hp b hb
    obtain ⟨name, hname, rfl⟩ := List.mem_map.1 hp
    exact (byte_of_mem_toBytes (hnames name hname) hb).1
  have hpieces : ∀ p ∈ names.map toBytes, terminator ∉ p := by
    intro p hp hterminator
    obtain ⟨name, hname, rfl⟩ := List.mem_map.1 hp
    exact (byte_of_mem_toBytes (hnames name hname) hterminator).2 rfl
  have hback : (names.map toBytes).map ofAscii = names.map id := by
    rw [List.map_map]
    exact List.map_congr_left fun name hname => ofAscii_toBytes (hnames name hname)
  rw [encodeAll_eq_flatMap_pieces, decodeAll?_pieces hascii hpieces, hback, List.map_id]

/-- An accepted section is what its names are written as, and nothing else is accepted. -/
theorem decodeAll?_eq_some_iff {bytes : List UInt8} {names : List String} :
    decodeAll? bytes = some names ↔
      (∀ name ∈ names, IsIncludeName name) ∧ encodeAll names = bytes := by
  constructor
  · intro h
    by_cases hnil : bytes = []
    · subst hnil
      have hnames : names = [] := (Option.some.inj h).symm
      subst hnames
      exact ⟨by simp, rfl⟩
    · rw [decodeAll?, List.isEmpty_eq_false_iff.2 hnil] at h
      simp only [Bool.false_eq_true, if_false, Option.ite_none_right_eq_some, Bool.and_eq_true,
        List.all_eq_true, decide_eq_true_eq, beq_iff_eq] at h
      obtain ⟨⟨hall, hlast⟩, hsplit⟩ := h
      obtain ⟨pieces, hpieces, rfl⟩ := exists_pieces hlast
      have hascii : ∀ p ∈ pieces, ∀ b ∈ p, b.toNat < 128 := by
        intro p hp b hb
        exact hall b (List.mem_flatMap.2 ⟨p, hp, List.mem_append_left _ hb⟩)
      rw [splitAfter_flatMap hpieces, List.reverse_nil, List.nil_append,
        mapM_decode?_ascii hascii] at hsplit
      have hnames : pieces.map ofAscii = names := Option.some.inj hsplit
      subst hnames
      constructor
      · intro name hname
        obtain ⟨p, hp, rfl⟩ := List.mem_map.1 hname
        exact isIncludeName_ofAscii (hascii p hp) (hpieces p hp)
      · have hback : (pieces.map ofAscii).map toBytes = pieces.map id := by
          rw [List.map_map]
          exact List.map_congr_left fun p _ => toBytes_ofAscii p
        rw [encodeAll_eq_flatMap_pieces, hback, List.map_id]
  · rintro ⟨hnames, rfl⟩
    exact decodeAll?_encodeAll hnames

end IncludeName

end MqAssembler
