import MqAssembler.Proofs.AssemblyRoundTrip
import MqAssembler.Proofs.LeafOrder
import MqAssembler.Proofs.PatchRuns

/-!
# Patched executables

Patching the operands of a scope changes the executable of its leaves in the operand fields of the
patched instructions and nowhere else. If the new value is too wide for that field, assembly stops
at the first patched instruction.

## Implementation notes

A patch reaches the direct children of a scope, while words stand in the order of all its leaves.
The two are joined by marking each leaf with whether it is a direct child: the leaves before and
after a patch are then two views of one marked list. Which leaf is a direct child is said without
the marks, by the leaves of the children in front of it.
-/

namespace MqAssembler

universe u

variable {α : Type u}

/-! ## Which leaves are direct children -/

/-- The leaf at a place is a direct child: the children in front of it have that many leaves. -/
def Scope.DirectAt (s : Scope α) (place : Nat) (a : α) : Prop :=
  ∃ before after, s.body = before ++ .item a :: after ∧
    (Node.flattenAll before).length = place

namespace Node

/-- The leaves of some children in source order, each marked with whether it is one of the
children. -/
def markedAll : List (Node α) → List (α × Bool)
  | [] => []
  | .item a :: rest => (a, true) :: markedAll rest
  | .scope _ body :: rest => (flattenAll body).map (·, false) ++ markedAll rest

theorem markedAll_append (front back : List (Node α)) :
    markedAll (front ++ back) = markedAll front ++ markedAll back := by
  induction front with
  | nil => rfl
  | cons n rest ih =>
      cases n with
      | item a => simp only [List.cons_append, markedAll, ih]
      | scope b body => simp only [List.cons_append, markedAll, ih, List.append_assoc]

theorem map_fst_markedAll (nodes : List (Node α)) :
    (markedAll nodes).map Prod.fst = flattenAll nodes := by
  induction nodes with
  | nil => rfl
  | cons n rest ih =>
      cases n with
      | item a => simp [markedAll, flattenAll, flatten, ih]
      | scope b body => simp [markedAll, flattenAll, flatten, ih, Function.comp_def]

/-- Changing the items among some children changes their leaves where they are marked. -/
theorem flattenAll_map_mapItem (f : α → α) (nodes : List (Node α)) :
    flattenAll (nodes.map (mapItem f)) =
      (markedAll nodes).map fun m => if m.2 then f m.1 else m.1 := by
  induction nodes with
  | nil => rfl
  | cons n rest ih =>
      cases n with
      | item a => simp [mapItem, markedAll, flattenAll, flatten, ih]
      | scope b body => simp [mapItem, markedAll, flattenAll, flatten, ih, Function.comp_def]

/-- The children in front of a marked leaf have as many leaves as stand in front of it. -/
theorem exists_split_of_markedAll {nodes : List (Node α)} {place : Nat} {a : α}
    (h : (markedAll nodes)[place]? = some (a, true)) :
    ∃ before after, nodes = before ++ .item a :: after ∧
      (flattenAll before).length = place := by
  induction nodes generalizing place with
  | nil => cases h
  | cons n rest ih =>
      cases n with
      | item c =>
          cases place with
          | zero =>
              have hc : c = a := by simpa [markedAll] using h
              exact ⟨[], rest, by rw [hc]; rfl, rfl⟩
          | succ place =>
              obtain ⟨before, after, hsplit, hplace⟩ := ih h
              refine ⟨.item c :: before, after, by rw [hsplit]; rfl, ?_⟩
              rw [flattenAll, flatten, List.length_append, hplace, List.length_singleton,
                Nat.add_comm]
      | scope b body =>
          rw [markedAll] at h
          by_cases hinside : place < (flattenAll body).length
          · -- a leaf of a nested scope is not marked
            rw [List.getElem?_append_left (by rwa [List.length_map]), List.getElem?_map] at h
            obtain ⟨_, -, hmark⟩ := Option.map_eq_some_iff.1 h
            cases hmark
          · rw [Nat.not_lt] at hinside
            rw [List.getElem?_append_right (by rwa [List.length_map]), List.length_map] at h
            obtain ⟨before, after, hsplit, hplace⟩ := ih h
            refine ⟨.scope b body :: before, after, by rw [hsplit]; rfl, ?_⟩
            rw [flattenAll, flatten, List.length_append, hplace]
            omega

/-- Among children of which some item has a property, there is a first such item. -/
theorem exists_first_item (P : α → Prop) {nodes : List (Node α)} {a : α} (hmem : .item a ∈ nodes)
    (ha : P a) :
    ∃ before first after, nodes = before ++ .item first :: after ∧ P first ∧
      ∀ b, .item b ∈ before → ¬ P b := by
  induction nodes with
  | nil => cases hmem
  | cons n rest ih =>
      by_cases hn : ∃ b, n = .item b ∧ P b
      · obtain ⟨b, rfl, hb⟩ := hn
        exact ⟨[], b, rest, rfl, hb, by simp⟩
      · have hrest : .item a ∈ rest := by
          rcases List.mem_cons.1 hmem with rfl | hrest
          · exact absurd ⟨a, rfl, ha⟩ hn
          · exact hrest
        obtain ⟨before, first, after, hsplit, hfirst, hbefore⟩ := ih hrest
        refine ⟨n :: before, first, after, by rw [hsplit]; rfl, hfirst, ?_⟩
        intro b hb hP
        rcases List.mem_cons.1 hb with rfl | hb
        · exact hn ⟨b, rfl, hP⟩
        · exact hbefore b hb hP

theorem length_markedAll (nodes : List (Node α)) :
    (markedAll nodes).length = (flattenAll nodes).length := by
  rw [← map_fst_markedAll, List.length_map]

end Node

/-- The direct children among the leaves are those that are marked. -/
theorem Scope.directAt_iff {s : Scope α} {place : Nat} {a : α} :
    s.DirectAt place a ↔ (Node.markedAll s.body)[place]? = some (a, true) := by
  constructor
  · rintro ⟨before, after, hbody, rfl⟩
    rw [hbody, Node.markedAll_append, ← Node.length_markedAll,
      List.getElem?_append_right (Nat.le_refl _), Nat.sub_self]
    rfl
  · exact Node.exists_split_of_markedAll

/-! ## The leaves of a patched scope -/

section Patched

variable {s : Scope Instruction} {old new : UInt16} {table : OpcodeTable}

/-- A marked instruction as a patch leaves it. -/
def Instruction.patchMarked (old new : UInt16) (m : Instruction × Bool) : Instruction :=
  if m.2 then m.1.patch old new else m.1

theorem Scope.flatten_replace (s : Scope Instruction) (old new : UInt16) :
    (s.replace old new).flatten =
      (Node.markedAll s.body).map (Instruction.patchMarked old new) := by
  rw [replace_eq_mapItems]
  exact Node.flattenAll_map_mapItem (Instruction.patch old new) s.body

theorem Instruction.patch_of_ne {i : Instruction} (h : i.value ≠ old) : i.patch old new = i :=
  if_neg h

/-- A patch with a value that fits its field keeps an instruction encodable. -/
theorem Instruction.Encodable.patch {i : Instruction} (h : i.Encodable table)
    (hnew : new.toNat ≤ 255) : (i.patch old new).Encodable table := by
  obtain ⟨number, hnumber, hwide, hvalue⟩ := h
  rw [patch_eq]
  refine ⟨number, hnumber, hwide, ?_⟩
  split
  · exact hnew
  · exact hvalue

/-- The leaves of a patched scope are encodable if those of the scope are, and if the new value fits
or is not used. -/
theorem Scope.encodable_of_mem_flatten_replace (h : ∀ i ∈ s.flatten, i.Encodable table)
    (hnew : new.toNat ≤ 255 ∨ ∀ i, Node.item i ∈ s.body → i.value ≠ old) :
    ∀ i ∈ (s.replace old new).flatten, i.Encodable table := by
  intro i hi
  rw [flatten_replace] at hi
  obtain ⟨⟨j, direct⟩, hmark, rfl⟩ := List.mem_map.1 hi
  have hj : j.Encodable table := by
    apply h
    rw [flatten, ← Node.map_fst_markedAll]
    exact List.mem_map.2 ⟨(j, direct), hmark, rfl⟩
  cases direct with
  | false => exact hj
  | true =>
      rcases hnew with hfits | hunused
      · exact hj.patch hfits
      · obtain ⟨place, hplace⟩ := List.mem_iff_getElem?.1 hmark
        obtain ⟨before, after, hbody, -⟩ := directAt_iff.2 hplace
        have hne : j.value ≠ old := by
          apply hunused
          rw [hbody]
          exact List.mem_append_right before List.mem_cons_self
        have hsame : Instruction.patchMarked old new (j, true) = j := Instruction.patch_of_ne hne
        rw [hsame]
        exact hj

/-- An instruction is carried by one word only. -/
theorem Instruction.CarriedBy.word_eq {i : Instruction} {w w' : Word} (h : i.CarriedBy table w)
    (h' : i.CarriedBy table w') : w' = w := by
  rw [← toWord_eq_ok_iff] at h h'
  exact Except.ok.inj (h'.symm.trans h)

/-- The word of a marked instruction and that of its patched form differ in the operand, and only
if the instruction is a direct child with the old value. -/
theorem Instruction.words_of_patchMarked {m : Instruction × Bool} {w w' : Word}
    (h : m.1.CarriedBy table w) (h' : (patchMarked old new m).CarriedBy table w') :
    (m.2 = true → m.1.value = old →
      w'.mode = w.mode ∧ w'.opcode = w.opcode ∧ w'.operand = new) ∧
    ((m.2 = true → m.1.value ≠ old) → w' = w) := by
  obtain ⟨i, direct⟩ := m
  by_cases hpatched : direct = true ∧ i.value = old
  · obtain ⟨rfl, hvalue⟩ := hpatched
    have hpatch : patchMarked old new (i, true) = { i with value := new } := if_pos hvalue
    rw [hpatch] at h'
    refine ⟨?_, fun hne => absurd hvalue (hne rfl)⟩
    intro _ _
    have hopcode : some w'.opcode = some w.opcode := h'.opcode_eq.symm.trans h.opcode_eq
    exact ⟨h'.mode_eq.trans h.mode_eq.symm, Option.some.inj hopcode, h'.operand_eq⟩
  · have hsame : patchMarked old new (i, direct) = i := by
      cases direct with
      | false => rfl
      | true => exact patch_of_ne fun hvalue => hpatched ⟨rfl, hvalue⟩
    rw [hsame] at h'
    exact ⟨fun hdirect hvalue => absurd ⟨hdirect, hvalue⟩ hpatched, fun _ => h.word_eq h'⟩

/-- The words of a scope and of its patched form are the same, except for the operands of the
direct children that had the old value. -/
theorem Scope.words_of_replace {words words' : List Word}
    (h : List.Forall₂ (Instruction.CarriedBy table) s.flatten words)
    (h' : List.Forall₂ (Instruction.CarriedBy table) (s.replace old new).flatten words')
    {place : Nat} {w w' : Word} (hw : words[place]? = some w) (hw' : words'[place]? = some w') :
    (∀ i, s.DirectAt place i → i.value = old →
      w'.mode = w.mode ∧ w'.opcode = w.opcode ∧ w'.operand = new) ∧
    ((∀ i, s.DirectAt place i → i.value ≠ old) → w' = w) := by
  rw [flatten, ← Node.map_fst_markedAll, List.forall₂_map_left_iff] at h
  rw [flatten_replace, List.forall₂_map_left_iff] at h'
  obtain ⟨hplace, rfl⟩ := List.getElem?_eq_some_iff.1 hw
  obtain ⟨hplace', rfl⟩ := List.getElem?_eq_some_iff.1 hw'
  have hmarked : place < (Node.markedAll s.body).length := by
    rwa [h.length_eq]
  have hmark : (Node.markedAll s.body)[place]? = some (Node.markedAll s.body)[place] :=
    List.getElem?_eq_getElem hmarked
  obtain ⟨hpatched, hsame⟩ :=
    Instruction.words_of_patchMarked (h.get hmarked hplace) (h'.get hmarked hplace')
  constructor
  · intro i hi hvalue
    have heq : (Node.markedAll s.body)[place] = (i, true) :=
      Option.some.inj (hmark.symm.trans (directAt_iff.1 hi))
    apply hpatched
    · exact congrArg Prod.snd heq
    · exact (congrArg (fun m => m.1.value) heq).trans hvalue
  · intro hother
    apply hsame
    intro hdirect
    apply hother
    rw [directAt_iff, hmark]
    exact congrArg some (Prod.ext rfl hdirect)

/-! ## Executables -/

/-- The leaves in front of the first direct child with the old value are not patched. -/
theorem Scope.flatten_replace_of_first {before after : List (Node Instruction)} {i : Instruction}
    (hbody : s.body = before ++ .item i :: after) (hvalue : i.value = old)
    (hbefore : ∀ j, Node.item j ∈ before → ¬ j.value = old) (new : UInt16) :
    ∃ rest, (s.replace old new).flatten =
      Node.flattenAll before ++ { i with value := new } :: rest := by
  have hfixed : ∀ n ∈ before, n.mapItem (Instruction.patch old new) = n := by
    intro n hn
    cases n with
    | item j => exact congrArg Node.item (Instruction.patch_of_ne (hbefore j hn))
    | scope b body => rfl
  have hsame : before.map (Node.mapItem (Instruction.patch old new)) = before :=
    (List.map_congr_left hfixed).trans (List.map_id' before)
  refine ⟨Node.flattenAll (after.map (Node.mapItem (Instruction.patch old new))), ?_⟩
  rw [replace_eq_mapItems, flatten, mapItems, hbody, List.map_append, hsame, List.map_cons,
    Node.flattenAll_append, Node.flattenAll, Node.mapItem, Node.flatten, Instruction.patch,
    if_pos hvalue, List.singleton_append]

/-- With a new value that is too wide, assembly stops at the first direct child that is patched. -/
theorem assemble_replace_of_first {includes : List String} {bytes : List UInt8}
    (h : assemble includes s.leaves table = .ok bytes) (hnew : 255 < new.toNat)
    {before after : List (Node Instruction)} {i : Instruction}
    (hbody : s.body = before ++ .item i :: after) (hvalue : i.value = old)
    (hbefore : ∀ j, Node.item j ∈ before → ¬ j.value = old) :
    assemble includes (s.replace old new).leaves table =
      .error (.machine (.operandOverflow new i.line)) := by
  obtain ⟨hnames, hfit, -, words, hcarried, -⟩ := assemble_eq_ok_iff.1 h
  have hencodable := Instruction.encodable_of_carriedBy hcarried
  have hleaves : s.leaves = Node.flattenAll before ++ i :: Node.flattenAll after := by
    rw [s.leaves_eq_flatten, Scope.flatten, hbody, Node.flattenAll_append]
    rfl
  rw [hleaves] at hencodable
  obtain ⟨number, hnumber, -⟩ := hencodable i (by simp)
  obtain ⟨rest, hrest⟩ := Scope.flatten_replace_of_first hbody hvalue hbefore new
  rw [Scope.leaves_eq_flatten, hrest]
  apply assemble_eq_error_iff.2
  refine .instruction hnames hfit rfl ?_ (Instruction.Fault.operandOverflow hnumber hnew)
  intro j hj
  exact hencodable j (List.mem_append_left _ hj)

theorem Scope.length_leaves_replace (s : Scope Instruction) (old new : UInt16) :
    (s.replace old new).leaves.length = s.leaves.length := by
  rw [leaves_eq_flatten, leaves_eq_flatten, flatten_replace, List.length_map,
    Node.length_markedAll, flatten]

/-- A patch whose new value fits or is not used keeps a scope assemblable. -/
theorem exists_assemble_replace {includes : List String} {bytes : List UInt8}
    (h : assemble includes s.leaves table = .ok bytes)
    (hnew : new.toNat ≤ 255 ∨ ∀ i, Node.item i ∈ s.body → i.value ≠ old) :
    ∃ bytes', assemble includes (s.replace old new).leaves table = .ok bytes' := by
  obtain ⟨hnames, hfit, hlength, words, hcarried, -⟩ := assemble_eq_ok_iff.1 h
  have hencodable := Instruction.encodable_of_carriedBy hcarried
  rw [Scope.leaves_eq_flatten] at hencodable
  have hpatched := Scope.encodable_of_mem_flatten_replace hencodable hnew
  rw [← Scope.leaves_eq_flatten] at hpatched
  obtain ⟨words', hwords'⟩ := Instruction.exists_encodeAll_iff.2 hpatched
  rw [← s.length_leaves_replace old new] at hlength
  exact ⟨Image.layout includes words', assemble_eq_ok_iff.2 ⟨hnames, hfit, hlength, words',
    Instruction.encodeAll_eq_ok_iff.1 hwords', rfl⟩⟩

/-- Patching a scope whose leaves are assembled gives an executable of the same length with the same
header and names. Its words are the same too, except that those of the direct children with the old
value have the new one as their operand. If there is such a child and the new value is too wide for
the operand field, assembly fails with the line of the first one instead. -/
theorem patching_changes_operands_of_direct_children (verbose : Bool) (s : Scope Instruction)
    (includes : List String) (table : OpcodeTable) (old new : UInt16) (bytes : List UInt8)
    (h : (assembleReporting verbose includes s.leaves table).result = .ok bytes) :
    ((new.toNat ≤ 255 ∨ ∀ i, Node.item i ∈ s.body → i.value ≠ old) →
      ∃ bytes' image image',
        (assembleReporting verbose includes (s.replace old new).leaves table).result =
          .ok bytes' ∧
        bytes'.length = bytes.length ∧
        Image.read bytes = .ok image ∧ Image.read bytes' = .ok image' ∧
        image'.header = image.header ∧ image'.includes = image.includes ∧
        image.words.length = s.leaves.length ∧ image'.words.length = s.leaves.length ∧
        ∀ (place : Nat) w w', image.words[place]? = some w → image'.words[place]? = some w' →
          (∀ i, s.DirectAt place i → i.value = old →
            w'.mode = w.mode ∧ w'.opcode = w.opcode ∧ w'.operand = new) ∧
          ((∀ i, s.DirectAt place i → i.value ≠ old) → w' = w)) ∧
    (255 < new.toNat → ∀ i, Node.item i ∈ s.body → i.value = old →
      ∃ before first after, s.body = before ++ .item first :: after ∧ first.value = old ∧
        (∀ j, Node.item j ∈ before → j.value ≠ old) ∧
        (assembleReporting verbose includes (s.replace old new).leaves table).result =
          .error (.machine (.operandOverflow new first.line))) := by
  simp only [result_assembleReporting] at h ⊢
  constructor
  · intro hnew
    obtain ⟨bytes', h'⟩ := exists_assemble_replace h hnew
    obtain ⟨words, hcarried, hvalid, rfl⟩ := exists_valid_of_assemble h
    obtain ⟨words', hcarried', hvalid', rfl⟩ := exists_valid_of_assemble h'
    have hlength : words.length = s.leaves.length := hcarried.length_eq.symm
    have hlength' : words'.length = s.leaves.length := by
      rw [← hcarried'.length_eq, s.length_leaves_replace]
    have hheader : (Image.ofContents includes words').header =
        (Image.ofContents includes words).header := by
      simp only [Image.ofContents, hlength, hlength']
    refine ⟨_, _, _, h', ?_, hvalid.read_layout, hvalid'.read_layout, hheader, rfl, hlength,
      hlength', ?_⟩
    · calc
        (Image.layout includes words').length =
            (Image.ofContents includes words').header.totalSize := hvalid'.length_layout
        _ = (Image.ofContents includes words).header.totalSize := by rw [hheader]
        _ = (Image.layout includes words).length := hvalid.length_layout.symm
    · intro place w w' hw hw'
      rw [Scope.leaves_eq_flatten] at hcarried hcarried'
      exact Scope.words_of_replace hcarried hcarried' hw hw'
  · intro hwide i hi hvalue
    obtain ⟨before, first, after, hbody, hfirst, hbefore⟩ :=
      Node.exists_first_item (fun j => j.value = old) hi hvalue
    exact ⟨before, first, after, hbody, hfirst, hbefore,
      assemble_replace_of_first h hwide hbody hfirst hbefore⟩

end Patched

/-- A direct child behind a nested scope that holds the old value too, with a value that fits and
with one that does not. -/
theorem patching_changes_operands_of_direct_children_behind_scope :
    ∃ s table bytes bytes',
      s = Scope.mk .none [.scope .curly [.item ⟨"jmp", 7, .pointer, 1⟩],
        .item ⟨"jmp", 7, .pointer, 2⟩] ∧
      table = OpcodeTable.ordered (.ofPairs [("jmp", 3)]) ∧
      (assembleReporting false ["io"] s.leaves table).result = .ok bytes ∧
      (assembleReporting false ["io"] (s.replace 7 42).leaves table).result = .ok bytes' ∧
      bytes'.length = bytes.length ∧
      (assembleReporting false ["io"] (s.replace 7 300).leaves table).result =
        .error (.machine (.operandOverflow 300 2)) := by
  have h : (assembleReporting false ["io"]
      (Scope.mk .none [.scope .curly [.item ⟨"jmp", 7, .pointer, 1⟩],
        .item ⟨"jmp", 7, .pointer, 2⟩]).leaves
      (.ordered (.ofPairs [("jmp", 3)]))).result =
      .ok [0x31, 0x2E, 0x31, 0x20, 3, 0, 4, 0, 0, 0, 0x69, 0x6F, 10, 0x83, 0x83, 0x83, 0x83] := by
    rw [Scope.leaves_eq_flatten]
    decide +kernel
  obtain ⟨hfits, -⟩ := patching_changes_operands_of_direct_children false _ _ _ 7 42 _ h
  obtain ⟨-, hwide⟩ := patching_changes_operands_of_direct_children false _ _ _ 7 300 _ h
  obtain ⟨bytes', -, -, hbytes', hlength, -⟩ := hfits (Or.inl (by decide))
  obtain ⟨before, first, after, hbody, -, -, herror⟩ :=
    hwide (by decide) ⟨"jmp", 7, .pointer, 2⟩ (by simp) rfl
  have hfirst : first = ⟨"jmp", 7, .pointer, 2⟩ := by
    have hmem : Node.item first ∈ before ++ .item first :: after := by simp
    rw [← hbody] at hmem
    simpa using hmem
  rw [hfirst] at herror
  exact ⟨_, _, _, bytes', rfl, rfl, h, hbytes', hlength, herror⟩

end MqAssembler
