import MqAssembler.Proofs.ConsistentEntries
import MqAssembler.Proofs.FollowedAliases
import MqAssembler.Proofs.RunOutcome

/-!
# Instruction sets in files

A file that lists mnemonics with their numbers is loaded as the instruction set of its entries in
file order, as long as no key is repeated in the same spelling. Whatever it repeats, a mnemonic in
two spellings is refused.

## Implementation notes

Between the document and the instruction set stands a dictionary. It keeps one value for a key, so
a key that is repeated in the same spelling reaches the instruction set once. Two spellings are two
keys for the dictionary and one mnemonic for the set. Keys and numbers may be aliases; a document
that has been read is large enough for all of them to be followed.
-/

namespace MqAssembler

open Yaml

namespace Yaml.Document

/-- An entry of a mapping gives a number to a text, whatever tags the two have. A number is plain,
or it is a literal block with the tag of integers. -/
structure Gives (d : Document) (entry : Value × Value) (p : String × UInt16) : Prop where
  key : ∃ place tag style, d.follow entry.1 = .scalar place tag style p.1
  number : ∃ place tag style text, d.follow entry.2 = .scalar place tag style text ∧
    (style = .plain ∨ style = .literal ∧ tag = some .integer) ∧
    Plain.natural? text = some p.2.toNat

/-- The root of a document is a mapping with these texts and numbers, in this order. -/
def Lists (d : Document) (pairs : List (String × UInt16)) : Prop :=
  ∃ root place tag entries, d.root = some root ∧ d.follow root = .mapping place tag entries ∧
    List.Forall₂ d.Gives entries pairs

end Yaml.Document

namespace InstructionSet

variable {d : Document} {pairs : List (String × UInt16)}

/-! ## From the document to the dictionary -/

section Entry

variable {entry : Value × Value} {p : String × UInt16} {followed : Nat}

theorem exists_run_text (h : d.Gives entry p) (hroom : followed < 100 * d.size) (path : Path) :
    ∃ after ≤ followed + 1, (Decode.text d path entry.1).run followed = .ok (p.1, after) := by
  obtain ⟨place, tag, style, hkey⟩ := h.key
  obtain ⟨after, hle, hfollow⟩ := Decode.exists_run_follow hroom entry.1
  refine ⟨after, hle, ?_⟩
  rw [Decode.text, Decoding.run_bind_of_ok hfollow, hkey]
  rfl

theorem natural?_eq_some (h : d.Gives entry p) :
    (d.follow entry.2).natural? = some p.2.toNat := by
  obtain ⟨place, tag, style, text, hvalue, hstyle, hnumber⟩ := h.number
  rcases hstyle with rfl | ⟨rfl, rfl⟩ <;> simp [hvalue, Value.natural?, hnumber]

theorem exists_run_number (h : d.Gives entry p) (hroom : followed < 100 * d.size) (path : Path) :
    ∃ after ≤ followed + 1, (number d path entry.2).run followed = .ok (p.2.toNat, after) := by
  obtain ⟨after, hle, hfollow⟩ := Decode.exists_run_follow hroom entry.2
  refine ⟨after, hle, ?_⟩
  rw [number, Decode.natural, Decoding.run_bind_of_ok hfollow]
  simp only [natural?_eq_some h, if_pos p.2.toNat_lt]
  rfl

/-- An entry takes at most two aliases. -/
theorem exists_run_dictionaryStep (h : d.Gives entry p) (hroom : followed + 2 ≤ 100 * d.size)
    (path : Path) (start : Dictionary UInt16) :
    ∃ after ≤ followed + 2,
      (Decode.dictionaryStep number addEntry d path start entry).run followed =
        .ok (start.insert p.1 p.2, after) := by
  have hkey : followed < 100 * d.size := by omega
  obtain ⟨named, hnamed, htext⟩ := exists_run_text h hkey path
  have hvalue : named < 100 * d.size := by omega
  obtain ⟨after, hafter, hnumber⟩ := exists_run_number h hvalue (Decode.segment entry.1 :: path)
  refine ⟨after, by omega, ?_⟩
  rw [Decode.dictionaryStep, Decoding.run_bind_of_ok htext, Decoding.run_bind_of_ok hnumber,
    addEntry, UInt16.ofNat_toNat]
  rfl

end Entry

/-- The entries of a mapping are inserted into a dictionary one after another. -/
theorem exists_run_foldlM {listed : List (Value × Value)}
    (hlisted : List.Forall₂ d.Gives listed pairs) (path : Path) (start : Dictionary UInt16)
    {followed : Nat} (hroom : followed + 2 * listed.length ≤ 100 * d.size) :
    ∃ after,
      (listed.foldlM (Decode.dictionaryStep number addEntry d path) start).run followed =
        .ok (pairs.foldl (fun dictionary p => dictionary.insert p.1 p.2) start, after) := by
  induction hlisted generalizing start followed with
  | nil => exact ⟨followed, rfl⟩
  | @cons entry p listed pairs hentry _ ih =>
      rw [List.length_cons] at hroom
      have hfirst : followed + 2 ≤ 100 * d.size := by omega
      obtain ⟨middle, hmiddle, hstep⟩ := exists_run_dictionaryStep hentry hfirst path start
      have hrest : middle + 2 * listed.length ≤ 100 * d.size := by omega
      obtain ⟨after, hrun⟩ := ih (start.insert p.1 p.2) hrest
      refine ⟨after, ?_⟩
      rw [List.foldlM_cons, Decoding.run_bind_of_ok hstep, List.foldl_cons, hrun]

/-- The root of a document that has been read has room for the aliases of all its entries. -/
theorem exists_run_entries {text : String} (hparse : Document.parse text = some d) {root : Value}
    (hroot : d.root = some root) {place : Position} {tag : Option Tag}
    {listed : List (Value × Value)} (hmapping : d.follow root = .mapping place tag listed)
    (hlisted : List.Forall₂ d.Gives listed pairs) :
    ∃ after, (entries d [] root).run 0 = .ok (Dictionary.ofPairs pairs, after) := by
  have hbreadth := Document.breadth_follow_root_lt hparse hroot
  rw [hmapping, Value.breadth] at hbreadth
  have hfirst : 0 < 100 * d.size := by omega
  obtain ⟨followed, hle, hfollow⟩ := Decode.exists_run_follow hfirst root
  have hroom : followed + 2 * listed.length ≤ 100 * d.size := by omega
  obtain ⟨after, hrun⟩ := exists_run_foldlM hlisted [] Dictionary.empty hroom
  refine ⟨after, ?_⟩
  rw [entries, Decode.dictionary, Decoding.run_bind_of_ok hfollow, hmapping]
  exact congrArg (Except.mapError _) hrun

/-- The set of a document is that of its entries as a dictionary holds them. -/
theorem ofDocument_eq_ok_iff {text : String} (hparse : Document.parse text = some d)
    (h : d.Lists pairs) {set : InstructionSet} :
    ofDocument d = .ok set ↔ ofPairs (Dictionary.ofPairs pairs).toList = .ok set := by
  obtain ⟨root, place, tag, listed, hroot, hmapping, hlisted⟩ := h
  obtain ⟨after, hentries⟩ := exists_run_entries hparse hroot hmapping hlisted
  have hdecode : d.decode entries Dictionary.empty = .ok (Dictionary.ofPairs pairs) := by
    simp only [Document.decode, hroot, hentries]
  simp only [ofDocument, hdecode, bind, Except.bind]
  cases ofPairs (Dictionary.ofPairs pairs).toList <;> simp

theorem exists_parse_of_ofBytes {bytes : List UInt8} (h : Document.ofBytes bytes = .ok d) :
    ∃ text, Document.parse text = some d := by
  unfold Document.ofBytes at h
  split at h
  next d' heq =>
    cases h
    obtain ⟨text, -, hparse⟩ := Option.bind_eq_some_iff.1 heq
    exact ⟨text, hparse⟩
  · cases h

/-! ## From the file to the set -/

/-- Two keys that differ in letter case only are in conflict, however often each is repeated. -/
theorem key_eq_of_lowercase_eq {set : InstructionSet}
    (h : ofPairs (Dictionary.ofPairs pairs).toList = .ok set) {p q : String × UInt16}
    (hp : p ∈ pairs) (hq : q ∈ pairs) (hsame : Text.lowercase p.1 = Text.lowercase q.1) :
    p.1 = q.1 := by
  have hkey {r : String × UInt16} (hr : r ∈ pairs) :
      r.1 ∈ (Dictionary.ofPairs pairs).toList.map Prod.fst :=
    Dictionary.mem_keys_ofPairs.2 (List.mem_map_of_mem hr)
  obtain ⟨p', hp', hp_eq⟩ := List.mem_map.1 (hkey hp)
  obtain ⟨q', hq', hq_eq⟩ := List.mem_map.1 (hkey hq)
  have hdistinct := (exists_ofPairs_iff.1 ⟨set, h⟩).mnemonics_distinct
  rw [← hp_eq, ← hq_eq] at hsame ⊢
  rw [List.inj_on_of_nodup_map hdistinct hp' hq' hsame]

/-- A file of mnemonics and numbers is loaded exactly if its entries have a set as a dictionary
holds them, and as that set. A key that is repeated in the same spelling counts once there, with its
last number. -/
theorem run_load_of_lists {σ : Type} [FileSystem σ] {s : σ} {path : String} {content : List UInt8}
    (hread : FileSystem.read s path = .ok content) (hdocument : Document.ofBytes content = .ok d)
    (hlists : d.Lists pairs) :
    ∃ answer,
      (InstructionSet.load path : StateM σ (Except Failure InstructionSet)).run s = (answer, s) ∧
      ∀ set, answer = .ok set ↔ ofPairs (Dictionary.ofPairs pairs).toList = .ok set := by
  obtain ⟨answer, hrun, hanswer⟩ := run_loadDocument path InstructionSet.ofBytes s
  obtain ⟨text, hparse⟩ := exists_parse_of_ofBytes hdocument
  refine ⟨answer, hrun, ?_⟩
  intro set
  rw [hanswer, ← ofDocument_eq_ok_iff hparse hlists]
  simp [hread, ofBytes, hdocument, bind, Except.bind]

/-- A file of mnemonics and numbers is loaded whenever its entries in file order have a set, and as
that set. If no key is repeated in the same spelling, it is loaded only then, and a repeated number
is refused. A mnemonic in two spellings is refused in every case. -/
theorem loaded_set_is_set_of_entries {σ : Type} [FileSystem σ] (s : σ) (path : String)
    (content : List UInt8) (d : Document) (pairs : List (String × UInt16))
    (hread : FileSystem.read s path = .ok content)
    (hdocument : Document.ofBytes content = .ok d) (hlists : d.Lists pairs) :
    ∃ answer,
      (InstructionSet.load path : StateM σ (Except Failure InstructionSet)).run s = (answer, s) ∧
      (∀ set, ofPairs pairs = .ok set → answer = .ok set) ∧
      (∀ p ∈ pairs, ∀ q ∈ pairs, p.1 ≠ q.1 → Text.lowercase p.1 = Text.lowercase q.1 →
        ∀ set, answer ≠ .ok set) ∧
      ((pairs.map Prod.fst).Nodup →
        (∀ set, answer = .ok set ↔ ofPairs pairs = .ok set) ∧
        (¬ (pairs.map Prod.snd).Nodup → ∀ set, answer ≠ .ok set)) := by
  obtain ⟨answer, hrun, hloaded⟩ := run_load_of_lists hread hdocument hlists
  have hdistinct (h : (pairs.map Prod.fst).Nodup) (set : InstructionSet) :
      answer = .ok set ↔ ofPairs pairs = .ok set := by
    rw [hloaded, Dictionary.toList_ofPairs h]
  refine ⟨answer, hrun, ?_, ?_, ?_⟩
  · intro set hset
    have hkeys := (exists_ofPairs_iff.1 ⟨set, hset⟩).keys_distinct
    exact (hdistinct hkeys set).2 hset
  · intro p hp q hq hne hsame set hset
    exact hne (key_eq_of_lowercase_eq ((hloaded set).1 hset) hp hq hsame)
  · intro hkeys
    refine ⟨hdistinct hkeys, ?_⟩
    intro hrepeated set hset
    have hpairs := (hdistinct hkeys set).1 hset
    exact hrepeated (exists_ofPairs_iff.1 ⟨set, hpairs⟩).numbers_distinct

/-- Two mnemonics, one of them in capitals. -/
theorem loaded_set_is_set_of_entries_capitals :
    ∃ answer set,
      (InstructionSet.load "isa.yaml" : StateM FileStore (Except Failure InstructionSet)).run
        ⟨.ofPairs [("isa.yaml", "nop: 0\nLRA: 3\n".toUTF8.data.toList)]⟩ =
        (answer, ⟨.ofPairs [("isa.yaml", "nop: 0\nLRA: 3\n".toUTF8.data.toList)]⟩) ∧
      ofPairs [("nop", 0), ("LRA", 3)] = .ok set ∧ answer = .ok set := by
  have hlists : ∃ d, Document.ofBytes "nop: 0\nLRA: 3\n".toUTF8.data.toList = .ok d ∧
      d.Lists [("nop", 0), ("LRA", 3)] :=
    ⟨_, rfl, _, _, _, _, rfl, rfl, .cons ⟨⟨_, _, _, rfl⟩, _, _, _, _, rfl, .inl rfl, rfl⟩
      (.cons ⟨⟨_, _, _, rfl⟩, _, _, _, _, rfl, .inl rfl, rfl⟩ .nil)⟩
  obtain ⟨d, hdocument, hlists⟩ := hlists
  obtain ⟨answer, hrun, hloaded, -, -⟩ := loaded_set_is_set_of_entries
    (FileStore.mk (.ofPairs [("isa.yaml", "nop: 0\nLRA: 3\n".toUTF8.data.toList)])) "isa.yaml" _ d
    [("nop", 0), ("LRA", 3)] rfl hdocument hlists
  exact ⟨answer, _, hrun, rfl, hloaded _ rfl⟩

/-- Numbers with a tag, one of them in a literal block. -/
example :
    (ofBytes ("%TAG !e! tag:yaml.org,2002:\n--- !e!map\n" ++
      "nop: !!int 0\nlra: !e!int |-\n  3\n").toUTF8.data.toList).toOption.bind
        (·.opcode? "lra") = some 3 := by
  decide +kernel

/-- A key that is repeated in the same spelling has no set as a list of entries, and is loaded from
a file nevertheless. -/
theorem repeated_key_is_loaded :
    (∃ d, Document.ofBytes "nop: 0\nnop: 1\n".toUTF8.data.toList = .ok d ∧
      d.Lists [("nop", 0), ("nop", 1)]) ∧
    ofPairs [("nop", 0), ("nop", 1)] = .error (.duplicateOpcode "nop" 1) ∧
    ∃ set, ofBytes "nop: 0\nnop: 1\n".toUTF8.data.toList = .ok set ∧
      set.opcode? "nop" = some 1 := by
  refine ⟨⟨_, rfl, _, _, _, _, rfl, rfl, .cons ⟨⟨_, _, _, rfl⟩, _, _, _, _, rfl, .inl rfl, rfl⟩
    (.cons ⟨⟨_, _, _, rfl⟩, _, _, _, _, rfl, .inl rfl, rfl⟩ .nil)⟩, rfl, _, rfl, rfl⟩

end InstructionSet

end MqAssembler
