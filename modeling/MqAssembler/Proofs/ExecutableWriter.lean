import MqAssembler.Assembly
import MqAssembler.Proofs.CheckChain
import MqAssembler.Proofs.WordFields

/-!
# What the writer writes

An executable is written into a buffer, with the sizes of its sections filled in afterwards. The
finished buffer holds the layout of the names and of the words of the instructions, and the faults
on the way are those of four checks in a row.

## Implementation notes

A loop that writes a section either stops at the first item it cannot write or appends the bytes of
all items. The size fields lie in front of everything that is appended, so overwriting one of them
leaves the sections in place.
-/

namespace MqAssembler

/-! ## The checks -/

/-- Refuses the first text that is no include name. -/
def IncludeName.checkAll (includes : List String) : Except AssemblyError Unit :=
  match includes.find? fun name => !decide (IsIncludeName name) with
  | some name => .error (.nonAsciiInclude name)
  | none => .ok ()

/-- The words of a list of instructions, up to the first one that has none. -/
def Instruction.encodeAll (table : OpcodeTable) (code : List Instruction) :
    Except AssemblyError (List Word) :=
  match code.mapM fun i => i.toWord table with
  | .ok words => .ok words
  | .error e => .error (.machine e)

theorem IncludeName.checkAll_cons (name : String) (rest : List String) :
    checkAll (name :: rest) =
      if IsIncludeName name then checkAll rest else .error (.nonAsciiInclude name) := by
  simp only [checkAll, List.find?_cons]
  by_cases h : IsIncludeName name <;> simp [h]

theorem Instruction.encodeAll_cons (table : OpcodeTable) (i : Instruction)
    (rest : List Instruction) :
    encodeAll table (i :: rest) =
      match i.toWord table with
      | .error e => .error (.machine e)
      | .ok w => (encodeAll table rest).map (w :: ·) := by
  simp only [encodeAll, List.mapM_cons]
  cases hw : i.toWord table with
  | error e => rfl
  | ok w =>
      cases hrest : rest.mapM fun j => j.toWord table with
      | error e => rfl
      | ok words => rfl

theorem Segment.checkSize_eq_ok_iff {segment : Segment} {size : Nat} :
    segment.checkSize size = .ok () ↔ size ≤ segment.sizeMax := by
  simp only [checkSize]
  split
  · rename_i hover
    simpa using hover
  · rename_i hfits
    simpa using hfits

namespace Buffer

/-! ## The loops -/

/-- The names are appended one after another, unless one of them is refused. -/
theorem foldlM_writeName (includes : List String) (b : Buffer) :
    includes.foldlM writeName b =
      (IncludeName.checkAll includes).map fun _ => b.append (IncludeName.encodeAll includes) := by
  induction includes generalizing b with
  | nil =>
      rw [List.foldlM_nil, IncludeName.encodeAll, List.flatMap_nil, append_nil]
      rfl
  | cons name rest ih =>
      rw [List.foldlM_cons, IncludeName.checkAll_cons, IncludeName.encodeAll, List.flatMap_cons,
        ← IncludeName.encodeAll, writeName]
      by_cases h : IsIncludeName name
      · rw [if_pos h, if_pos h, CheckChain.bind_of_eq_ok rfl, ih, append_append, append_append,
          List.append_assoc]
      · rw [if_neg h, if_neg h]
        rfl

/-- The words are appended one after another, unless an instruction has none. -/
theorem foldlM_writeInstruction (table : OpcodeTable) (code : List Instruction) (b : Buffer) :
    code.foldlM (writeInstruction table) b =
      (Instruction.encodeAll table code).map fun words =>
        b.append (words.flatMap Word.toBytes) := by
  induction code generalizing b with
  | nil =>
      rw [List.foldlM_nil]
      exact congrArg Except.ok (append_nil b).symm
  | cons i rest ih =>
      rw [List.foldlM_cons, Instruction.encodeAll_cons, writeInstruction]
      cases i.toWord table with
      | error e => rfl
      | ok w =>
          dsimp only
          rw [CheckChain.bind_of_eq_ok rfl, ih]
          cases Instruction.encodeAll table rest with
          | error e => rfl
          | ok words =>
              simp only [Except.map, append_append, List.flatMap_cons]

/-! ## The sections -/

section Sections

variable {α : Type} {segment : Segment} {write : Buffer → α → Except AssemblyError Buffer}
  {items : List α} {b : Buffer}

theorem writeSection_of_error {e : AssemblyError} (h : items.foldlM write b = .error e) :
    writeSection segment write items b = .error e := by
  simp only [writeSection, h]
  rfl

/-- A section is appended, and its size replaces the zeros in the header. -/
theorem writeSection_of_ok {bytes front field back : List UInt8}
    (h : items.foldlM write b = .ok (b.append bytes)) (hb : b.toList = front ++ (field ++ back))
    (hplace : front.length = segment.sizePlace) (hfield : field.length = segment.sizeWidth) :
    writeSection segment write items b =
      (segment.checkSize bytes.length).map fun _ =>
        (bytes.length, empty.append
          (front ++ (LittleEndian.encode segment.sizeWidth bytes.length ++ (back ++ bytes)))) := by
  have hsize : (b.append bytes).size - b.size = bytes.length := by
    rw [size_eq_length, size_eq_length, toList_append, List.length_append,
      Nat.add_sub_cancel_left]
  have hwritten : (b.append bytes).toList = front ++ (field ++ (back ++ bytes)) := by
    rw [toList_append, hb, List.append_assoc, List.append_assoc]
  have hoverwritten : (b.append bytes).overwrite segment.sizePlace
        (LittleEndian.encode segment.sizeWidth bytes.length) =
      empty.append
        (front ++ (LittleEndian.encode segment.sizeWidth bytes.length ++ (back ++ bytes))) := by
    apply ext_toList
    rw [← hplace, toList_overwrite hwritten (by rw [hfield, LittleEndian.length_encode]),
      toList_append]
    rfl
  simp only [writeSection]
  rw [CheckChain.bind_of_eq_ok h]
  simp only [hsize, hoverwritten]
  cases segment.checkSize bytes.length <;> rfl

end Sections

/-! ## The whole executable -/

theorem toList_reserved :
    reserved.toList = Version.current.toBytes ++ ([0, 0] ++ [0, 0, 0, 0]) := rfl

/-- The bytes of an executable in the order of its fields. -/
theorem layout_eq_of_fit {includes : List String} {words : List Word}
    (hnames : (IncludeName.encodeAll includes).length ≤ 65535)
    (hwords : 2 * words.length ≤ 4294967295) :
    Image.layout includes words =
      (Version.current.toBytes ++
        LittleEndian.encode 2 (IncludeName.encodeAll includes).length) ++
      (LittleEndian.encode 4 (2 * words.length) ++
        (IncludeName.encodeAll includes ++ words.flatMap Word.toBytes)) := by
  have hinclude : (UInt16.ofNat (IncludeName.encodeAll includes).length).toNat =
      (IncludeName.encodeAll includes).length :=
    UInt16.toNat_ofNat_of_lt' (Nat.lt_succ_of_le hnames)
  have hassembly : (UInt32.ofNat (2 * words.length)).toNat = 2 * words.length :=
    UInt32.toNat_ofNat_of_lt' (Nat.lt_succ_of_le hwords)
  simp only [Image.layout, Header.toBytes, Header.ofSizes, hinclude, hassembly,
    List.append_assoc]

/-- The first section stands behind the header, with its size filled in. -/
theorem writeSection_includes {includes : List String}
    (h : IncludeName.checkAll includes = .ok ()) :
    writeSection .includes writeName includes reserved =
      (Segment.includes.checkSize (IncludeName.encodeAll includes).length).map fun _ =>
        ((IncludeName.encodeAll includes).length, empty.append
          (Version.current.toBytes ++
            (LittleEndian.encode 2 (IncludeName.encodeAll includes).length ++
              ([0, 0, 0, 0] ++ IncludeName.encodeAll includes)))) := by
  apply writeSection_of_ok _ toList_reserved rfl rfl
  rw [foldlM_writeName, h]
  rfl

/-- The second section stands behind the first, with its size filled in. -/
theorem writeSection_assembly {includes : List String} {code : List Instruction}
    {table : OpcodeTable} {words : List Word} (h : Instruction.encodeAll table code = .ok words) :
    writeSection .assembly (writeInstruction table) code (empty.append
        (Version.current.toBytes ++
          (LittleEndian.encode 2 (IncludeName.encodeAll includes).length ++
            ([0, 0, 0, 0] ++ IncludeName.encodeAll includes)))) =
      (Segment.assembly.checkSize (2 * words.length)).map fun _ =>
        (2 * words.length, empty.append
          ((Version.current.toBytes ++
            LittleEndian.encode 2 (IncludeName.encodeAll includes).length) ++
          (LittleEndian.encode 4 (2 * words.length) ++
            (IncludeName.encodeAll includes ++ words.flatMap Word.toBytes)))) := by
  rw [← Word.length_flatMap_toBytes]
  apply writeSection_of_ok
  · rw [foldlM_writeInstruction, h]
    rfl
  · rw [toList_append, List.append_assoc]
    rfl
  · rw [List.length_append, LittleEndian.length_encode]
    rfl
  · rfl

/-- The writer checks the names and their size, then the instructions and their size; what it has
written is the layout of the names and the words. -/
theorem writeExecutable_eq (includes : List String) (code : List Instruction)
    (table : OpcodeTable) :
    writeExecutable includes code table = (do
      IncludeName.checkAll includes
      Segment.includes.checkSize (IncludeName.encodeAll includes).length
      let words ← Instruction.encodeAll table code
      Segment.assembly.checkSize (2 * words.length)
      return (Header.ofSizes (IncludeName.encodeAll includes).length (2 * words.length),
        empty.append (Image.layout includes words))) := by
  rw [writeExecutable]
  cases hcheck : IncludeName.checkAll includes with
  | error e =>
      have hloop : includes.foldlM writeName reserved = .error e := by
        rw [foldlM_writeName, hcheck]
        rfl
      rw [writeSection_of_error hloop]
      rfl
  | ok =>
      rw [writeSection_includes hcheck]
      cases hsize : Segment.includes.checkSize (IncludeName.encodeAll includes).length with
      | error e => rfl
      | ok =>
          simp only [Except.map, bind, Except.bind]
          cases hwords : Instruction.encodeAll table code with
          | error e =>
              rw [writeSection_of_error]
              rw [foldlM_writeInstruction, hwords]
              rfl
          | ok words =>
              rw [writeSection_assembly hwords]
              cases hcode : Segment.assembly.checkSize (2 * words.length) with
              | error e => simp only [Except.map, hcode]
              | ok =>
                  simp only [Except.map, hcode]
                  rw [layout_eq_of_fit (Segment.checkSize_eq_ok_iff.1 hsize)
                    (Segment.checkSize_eq_ok_iff.1 hcode)]

end Buffer

/-- Assembly is a chain of four checks in front of the finished layout. -/
theorem assemble_eq (includes : List String) (code : List Instruction) (table : OpcodeTable) :
    assemble includes code table = (do
      IncludeName.checkAll includes
      Segment.includes.checkSize (IncludeName.encodeAll includes).length
      let words ← Instruction.encodeAll table code
      Segment.assembly.checkSize (2 * words.length)
      return Image.layout includes words) := by
  rw [assemble, Buffer.writeExecutable_eq]
  simp only [bind_assoc, pure_bind, Buffer.toList_append]
  rfl

/-- The header summary does not change the outcome. -/
theorem result_assembleReporting (verbose : Bool) (includes : List String)
    (code : List Instruction) (table : OpcodeTable) :
    (assembleReporting verbose includes code table).result = assemble includes code table := by
  simp only [assembleReporting, assemble]
  cases Buffer.writeExecutable includes code table <;> rfl

end MqAssembler
