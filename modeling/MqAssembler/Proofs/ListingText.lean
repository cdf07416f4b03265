import MqAssembler.Proofs.AssembledListing

/-!
# What the text of a listing tells

The printed text of a listing determines the executable that is listed, for every opcode table.
Neither the number of rows nor their ends have to be marked for this: names may look like rows of
words, and mnemonics may hold line feeds.

## Implementation notes

Text is read from its front, and each part is recovered together with what follows it. The summary
and the rows of names are single lines. A row of a word is no single line in general, but the two
bytes stand in front of the mnemonic and at a fixed place once the address is known. They make up
the word, and the rest of the row is a function of the word. Where the rows of one kind end is told
by the first character of what comes next.
-/

namespace MqAssembler

namespace Text

/-! ## Lines -/

theorem toList_printed_cons (line : String) (lines : List String) :
    (printed (line :: lines)).toList = line.toList ++ '\n' :: (printed lines).toList := by
  simp [printed]

theorem toList_printed_append (lines lines' : List String) :
    (printed (lines ++ lines')).toList = (printed lines).toList ++ (printed lines').toList := by
  simp [printed]

/-- A line ends at its first line feed. -/
theorem line_append_inj {line line' rest rest' : List Char} (hline : '\n' ∉ line)
    (hline' : '\n' ∉ line') (h : line ++ '\n' :: rest = line' ++ '\n' :: rest') :
    line = line' ∧ rest = rest' := by
  induction line generalizing line' with
  | nil =>
      cases line' with
      | nil => exact ⟨rfl, (List.cons.inj h).2⟩
      | cons d line' =>
          obtain ⟨hd, -⟩ := List.cons.inj h
          exact absurd (hd ▸ List.mem_cons_self) hline'
  | cons c line ih =>
      rw [List.mem_cons, not_or] at hline
      cases line' with
      | nil =>
          obtain ⟨hc, -⟩ := List.cons.inj h
          exact absurd hc.symm hline.1
      | cons d line' =>
          rw [List.mem_cons, not_or] at hline'
          obtain ⟨hcd, h⟩ := List.cons.inj h
          obtain ⟨hlines, hrest⟩ := ih hline.2 hline'.2 h
          exact ⟨by rw [hcd, hlines], hrest⟩

/-- Equally many lines are determined together with what follows them. -/
theorem lines_append_inj {lines lines' : List String} (hlength : lines.length = lines'.length)
    (hlines : ∀ line ∈ lines, '\n' ∉ line.toList) (hlines' : ∀ line ∈ lines', '\n' ∉ line.toList)
    {rest rest' : List Char}
    (h : (printed lines).toList ++ rest = (printed lines').toList ++ rest') :
    lines = lines' ∧ rest = rest' := by
  induction lines generalizing lines' with
  | nil =>
      rw [List.length_nil, eq_comm, List.length_eq_zero_iff] at hlength
      subst hlength
      exact ⟨rfl, h⟩
  | cons line lines ih =>
      cases lines' with
      | nil => cases hlength
      | cons line' lines' =>
          obtain ⟨hline, hlines⟩ := List.forall_mem_cons.1 hlines
          obtain ⟨hline', hlines'⟩ := List.forall_mem_cons.1 hlines'
          rw [toList_printed_cons, toList_printed_cons, List.append_assoc, List.append_assoc] at h
          obtain ⟨hfirst, h⟩ := line_append_inj hline hline' h
          obtain ⟨hothers, hrest⟩ := ih (Nat.succ.inj hlength) hlines hlines' h
          exact ⟨by rw [String.toList_injective hfirst, hothers], hrest⟩

theorem newline_not_mem_decimal (n : Nat) : '\n' ∉ (decimal n).toList := by
  intro hmem
  rw [decimal, String.toList_ofList] at hmem
  have hdigit := Nat.isDigit_of_mem_toDigits (by decide) (by decide) hmem
  exact absurd hdigit (by decide)

/-- A byte is determined by its two digits, whatever follows them. -/
theorem hex_byte_append_inj {b b' : UInt8} {rest rest' : List Char}
    (h : (hex 2 b.toNat).toList ++ rest = (hex 2 b'.toNat).toList ++ rest') :
    b = b' ∧ rest = rest' := by
  have hlength : (hex 2 b.toNat).toList.length = (hex 2 b'.toNat).toList.length := by
    rw [length_hex_byte, length_hex_byte]
  obtain ⟨hdigits, hrest⟩ := List.append_inj h hlength
  have hnumeral := hex_injective (by decide) (String.toList_injective hdigits)
  exact ⟨UInt8.toNat_inj.1 hnumeral, hrest⟩

end Text

/-- No line of a header summary holds a line feed. -/
theorem Header.newline_not_mem_summary {header : Header} (hversion : header.version = .current) :
    ∀ line ∈ header.summary, '\n' ∉ line.toList := by
  have hshown : header.versionText = "1.1" := by
    rw [versionText, hversion]
    decide
  simp [summary, hshown, Text.bold, Text.Colour.paint, Text.Colour.switchOn,
    Text.Colour.switchOff, Text.newline_not_mem_decimal]

namespace Listing

open Text

/-! ## Rows -/

/-- The row of a name is a margin and the name. -/
theorem render_name (name : String) : (Row.name name).render = (Row.name "").render ++ name := by
  simp [Row.render, String.append_assoc]

theorem head?_render_name (name : String) : (Row.name name).render.toList.head? = some ' ' := by
  rw [render_name, String.toList_append, List.head?_append]
  rfl

theorem newline_not_mem_render_name {name : String} (hname : IsIncludeName name) :
    '\n' ∉ (Row.name name).render.toList := by
  rw [render_name, String.toList_append, List.mem_append, not_or]
  exact ⟨by decide, fun hmem => (hname '\n' hmem).2 rfl⟩

/-- A name is what stands between the margin and the end of its line. -/
theorem name_eq_of_append_eq {name name' : String} (hname : IsIncludeName name)
    (hname' : IsIncludeName name') {rest rest' : List Char}
    (h : (Row.name name).render.toList ++ '\n' :: rest =
      (Row.name name').render.toList ++ '\n' :: rest') :
    name = name' := by
  obtain ⟨hrow, -⟩ := line_append_inj (newline_not_mem_render_name hname)
    (newline_not_mem_render_name hname') h
  rw [render_name, render_name name', String.toList_append, String.toList_append] at hrow
  exact String.toList_injective (List.append_cancel_left hrow)

/-- The row of a word starts with its address and its two bytes. -/
theorem toList_render_word {w : Word} {low high : UInt8} (hbytes : w.toBytes = [low, high])
    (address : Nat) (shown : Option Instruction) :
    ∃ tail, (Row.word address w shown).render.toList =
      ("[" ++ hex 4 address ++ "] ").toList ++
        ((hex 2 low.toNat).toList ++ (" ".toList ++ ((hex 2 high.toNat).toList ++ tail))) := by
  simp only [Row.render, intercalate_hex_toBytes hbytes, String.toList_append, List.append_assoc]
  exact ⟨_, rfl⟩

theorem head?_render_word (address : Nat) (w : Word) (shown : Option Instruction) :
    (Row.word address w shown).render.toList.head? = some '[' := by
  obtain ⟨low, high, hbytes, -⟩ := w.exists_toBytes_eq
  obtain ⟨tail, hrow⟩ := toList_render_word hbytes address shown
  rw [hrow]
  simp

/-- Rows with the same address show the same word, whatever text the table gives to it. -/
theorem word_eq_of_append_eq {address : Nat} {w w' : Word} {shown shown' : Option Instruction}
    {rest rest' : List Char}
    (h : (Row.word address w shown).render.toList ++ rest =
      (Row.word address w' shown').render.toList ++ rest') :
    w = w' := by
  obtain ⟨low, high, hbytes, hw⟩ := w.exists_toBytes_eq
  obtain ⟨low', high', hbytes', hw'⟩ := w'.exists_toBytes_eq
  obtain ⟨tail, hrow⟩ := toList_render_word hbytes address shown
  obtain ⟨tail', hrow'⟩ := toList_render_word hbytes' address shown'
  rw [hrow, hrow'] at h
  simp only [List.append_assoc] at h
  obtain ⟨hlow, h⟩ := hex_byte_append_inj (List.append_cancel_left h)
  obtain ⟨hhigh, -⟩ := hex_byte_append_inj (List.append_cancel_left h)
  rw [← hw, ← hw', hlow, hhigh]

/-- Numbered rows that start with a mark are determined by their text, if each row is by its own,
and so is what follows them and does not start with it. -/
theorem rows_append_inj {β : Type} (valid : β → Prop) (row : β × Nat → String) (mark : Char)
    (hmark : ∀ p, (row p).toList.head? = some mark)
    (hrow : ∀ {b b' : β} {n : Nat} {rest rest' : List Char}, valid b → valid b' →
      (row (b, n)).toList ++ '\n' :: rest = (row (b', n)).toList ++ '\n' :: rest' → b = b')
    {items items' : List β} (hitems : ∀ b ∈ items, valid b) (hitems' : ∀ b ∈ items', valid b)
    {n : Nat} {rest rest' : List Char} (hrest : rest.head? ≠ some mark)
    (hrest' : rest'.head? ≠ some mark)
    (h : (printed ((items.zipIdx n).map row)).toList ++ rest =
      (printed ((items'.zipIdx n).map row)).toList ++ rest') :
    items = items' ∧ rest = rest' := by
  have hmarked (p : β × Nat) (others : List Char) :
      ((row p).toList ++ others).head? = some mark := by
    rw [List.head?_append, hmark, Option.some_or]
  -- the first character tells whether a row follows, so both sequences end at the same row
  induction items generalizing items' n with
  | nil =>
      cases items' with
      | nil => exact ⟨rfl, h⟩
      | cons b' items' =>
          rw [List.zipIdx_cons, List.map_cons, toList_printed_cons, List.append_assoc] at h
          change rest = _ at h
          rw [h] at hrest
          exact absurd (hmarked _ _) hrest
  | cons b items ih =>
      obtain ⟨hb, hitems⟩ := List.forall_mem_cons.1 hitems
      rw [List.zipIdx_cons, List.map_cons, toList_printed_cons, List.append_assoc] at h
      cases items' with
      | nil =>
          change _ = rest' at h
          rw [← h] at hrest'
          exact absurd (hmarked _ _) hrest'
      | cons b' items' =>
          obtain ⟨hb', hothers'⟩ := List.forall_mem_cons.1 hitems'
          rw [List.zipIdx_cons, List.map_cons, toList_printed_cons, List.append_assoc] at h
          have hfirst := hrow hb hb' h
          rw [hfirst] at h
          obtain ⟨hothers, hend⟩ :=
            ih hitems hothers' (List.cons.inj (List.append_cancel_left h)).2
          exact ⟨by rw [hfirst, hothers], hend⟩

/-! ## Listings -/

/-- The text of a listing: its summary and a rule, its rows of names, its rows of words, and a
rule. -/
theorem toList_render (image : Image) (table : OpcodeTable) :
    (render image table).toList =
      (printed (image.header.summary ++ [rule])).toList ++
        ((printed (image.includes.zipIdx.map fun p => (Row.name p.1).render)).toList ++
          ((printed (image.words.zipIdx.map fun p =>
            (Row.word p.2 p.1 (Instruction.ofWord? p.1 table)).render)).toList ++
            (printed [rule]).toList)) := by
  have hnames : image.includes.zipIdx.map (fun p => (Row.name p.1).render) =
      image.includes.map fun name => (Row.name name).render := by
    conv_rhs => rw [← List.zipIdx_map_fst 0 image.includes, List.map_map]
    rfl
  rw [hnames, ← toList_printed_append, ← toList_printed_append, ← toList_printed_append, render,
    lines, rows, List.map_append, List.map_map, List.map_map]
  simp only [List.append_assoc]
  rfl

variable {table : OpcodeTable} {image image' : Image}

theorem newline_not_mem_heading (hvalid : image.Valid) :
    ∀ line ∈ image.header.summary ++ [rule], '\n' ∉ line.toList := by
  rw [List.forall_mem_append, List.forall_mem_singleton]
  exact ⟨Header.newline_not_mem_summary hvalid.version_eq, by decide⟩

/-- Behind the rows of names comes a row of a word or the closing rule. -/
theorem head?_words_ne_blank (words : List (Word × Nat)) :
    ((printed (words.map fun p =>
      (Row.word p.2 p.1 (Instruction.ofWord? p.1 table)).render)).toList ++
        (printed [rule]).toList).head? ≠ some ' ' := by
  cases words with
  | nil =>
      rw [List.map_nil]
      decide
  | cons p words =>
      rw [List.map_cons, toList_printed_cons, List.append_assoc, List.head?_append,
        head?_render_word, Option.some_or]
      decide

/-- Valid images with the same listing have the same names and the same words. -/
theorem contents_eq_of_render_eq (hvalid : image.Valid) (hvalid' : image'.Valid)
    (h : render image table = render image' table) :
    image.includes = image'.includes ∧ image.words = image'.words := by
  have htext := congrArg String.toList h
  rw [toList_render, toList_render] at htext
  have hlength : (image.header.summary ++ [rule]).length =
      (image'.header.summary ++ [rule]).length := by
    simp only [Header.summary, List.length_append, List.length_cons, List.length_nil]
  obtain ⟨-, htext⟩ := lines_append_inj hlength (newline_not_mem_heading hvalid)
    (newline_not_mem_heading hvalid') htext
  obtain ⟨hnames, htext⟩ := rows_append_inj IsIncludeName (fun p => (Row.name p.1).render) ' '
    (fun p => head?_render_name p.1) (fun hb hb' hrow => name_eq_of_append_eq hb hb' hrow)
    hvalid.names hvalid'.names (head?_words_ne_blank _) (head?_words_ne_blank _) htext
  obtain ⟨hwords, -⟩ := rows_append_inj (fun _ => True)
    (fun p => (Row.word p.2 p.1 (Instruction.ofWord? p.1 table)).render) '['
    (fun p => head?_render_word p.2 p.1 _) (fun _ _ => word_eq_of_append_eq)
    (fun _ _ => trivial) (fun _ _ => trivial) (by decide) (by decide) htext
  exact ⟨hnames, hwords⟩

/-- Accepted executables that are listed with the same table as the same text are the same bytes. -/
theorem listed_text_determines_executable (table : OpcodeTable) (first second : List UInt8)
    (image image' : Image) (hfirst : Image.read first = .ok image)
    (hsecond : Image.read second = .ok image')
    (htext : render image table = render image' table) : first = second := by
  obtain ⟨hvalid, hbytes⟩ := Image.read_eq_ok_iff.1 hfirst
  obtain ⟨hvalid', hbytes'⟩ := Image.read_eq_ok_iff.1 hsecond
  obtain ⟨hnames, hwords⟩ := contents_eq_of_render_eq hvalid hvalid' htext
  rw [hbytes, hbytes', hnames, hwords]

/-- A name that looks like the address of a row, and a word that the table shows on two lines. -/
theorem listed_text_determines_executable_row_like_name :
    Image.read [0x31, 0x2E, 0x31, 0x20, 7, 0, 2, 0, 0, 0, 0x5B, 0x30, 0x30, 0x30, 0x30, 0x5D, 10,
        0x03, 0x81] = .ok (Image.ofContents ["[0000]"] [⟨0x8103⟩]) ∧
      Image.read (Image.layout ["[0000]"] [⟨0x8103⟩]) =
        .ok (Image.ofContents ["[0000]"] [⟨0x8103⟩]) ∧
      Instruction.ofWord? ⟨0x8103⟩ (.ordered (.ofPairs [("a\n[0001]", 3)])) =
        some ⟨"a\n[0001]", 2, .pointer, 0⟩ ∧
      [0x31, 0x2E, 0x31, 0x20, 7, 0, 2, 0, 0, 0, 0x5B, 0x30, 0x30, 0x30, 0x30, 0x5D, 10,
        0x03, 0x81] = Image.layout ["[0000]"] [⟨0x8103⟩] := by
  have hread : Image.read (Image.layout ["[0000]"] [⟨0x8103⟩]) =
      .ok (Image.ofContents ["[0000]"] [⟨0x8103⟩]) := rfl
  refine ⟨rfl, hread, rfl, ?_⟩
  exact listed_text_determines_executable (.ordered (.ofPairs [("a\n[0001]", 3)])) _ _ _ _ rfl
    hread rfl

end Listing

end MqAssembler
