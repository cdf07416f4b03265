import MqAssembler.Scope.Basic
import MqAssembler.Token
import Mathlib.Data.List.Forall2

/-!
# What the text of a scope tells

The text of a scope determines the shape of its tree: its brackets, the number of its children at
every level, and the texts of its items. This takes brackets around every scope and items that are
words. Items are then told from scopes by their first character, and neither how many children a
scope has nor where an item ends has to be marked.

## Implementation notes

A node is recovered together with what follows it. A word ends at the first mark, so what follows
has to begin with one; in a scope that is the blank in front of the next child or the bracket that
closes the scope. The children behind the first are taken as blank and text, each of them, which
makes the step from one child to the next the same everywhere. A scope whose brackets hold nothing
differs from one that holds a child by the character behind its bracket, since no child begins with
a blank or a closing bracket.

The two trees may have items of different types, as long as each type has its texts.
-/

namespace MqAssembler

universe u v

variable {α : Type u} {β : Type v}

namespace Bracket

/-- The characters that open a scope. -/
def openings : List Char := ['(', '\x7b', '[']

/-- The characters that close a scope. -/
def closings : List Char := [')', '\x7d', ']']

theorem exists_delimiters {b : Bracket} (hb : b ≠ .none) :
    ∃ left ∈ openings, ∃ right ∈ closings, b.delimiters? = some (left, right) := by
  cases b with
  | none => exact absurd rfl hb
  | round => exact ⟨_, by decide, _, by decide, rfl⟩
  | curly => exact ⟨_, by decide, _, by decide, rfl⟩
  | square => exact ⟨_, by decide, _, by decide, rfl⟩

theorem map_fst_delimiters_injective :
    Function.Injective fun b : Bracket => b.delimiters?.map Prod.fst := by
  intro b c
  cases b <;> cases c <;> decide

/-- The opening character tells the kind of bracket. -/
theorem eq_of_delimiters {b c : Bracket} {left right right' : Char}
    (hb : b.delimiters? = some (left, right)) (hc : c.delimiters? = some (left, right')) :
    b = c := by
  apply map_fst_delimiters_injective
  simp only [hb, hc, Option.map_some]

theorem toList_wrap {b : Bracket} {left right : Char} (hb : b.delimiters? = some (left, right))
    (s : String) : (b.wrap s).toList = left :: (s.toList ++ [right]) := by
  simp only [wrap, hb, String.toList_append, Char.toString_eq_singleton, String.toList_singleton,
    List.cons_append, List.nil_append]

end Bracket

namespace Node

/-- The characters that can stand behind a node: the blank in front of the next one, and the
brackets that close a scope. -/
def endings : List Char := ' ' :: Bracket.closings

/-- The characters that set off the parts of a scope. -/
def marks : List Char := Bracket.openings ++ endings

/-- A text that shows no structure of its own. -/
structure IsWord (s : String) : Prop where
  ne_empty : s ≠ ""
  no_mark : ∀ c ∈ s.toList, c ∉ marks

/-- Every scope of the tree has brackets, and every item is a word. -/
inductive IsBracketed (text : α → String) : Node α → Prop
  | item {a : α} (hword : IsWord (text a)) : IsBracketed text (.item a)
  | scope {b : Bracket} {body : List (Node α)} (hb : b ≠ .none)
      (hbody : ∀ n ∈ body, IsBracketed text n) : IsBracketed text (.scope b body)

/-- Two trees have the same brackets, the same numbers of children, and items with the same text in
the same places. -/
inductive SameShape (text : α → String) (text' : β → String) : Node α → Node β → Prop
  | item {a : α} {a' : β} (htext : text a = text' a') : SameShape text text' (.item a) (.item a')
  | scope {b : Bracket} {body : List (Node α)} {body' : List (Node β)}
      (hbody : List.Forall₂ (SameShape text text') body body') :
      SameShape text text' (.scope b body) (.scope b body')

variable {text : α → String} {text' : β → String}

/-! ## Texts of nodes -/

/-- Children as they stand behind another one. -/
def following (text : α → String) (nodes : List (Node α)) : List Char :=
  nodes.flatMap fun n => ' ' :: (n.render text).toList

theorem following_cons (n : Node α) (nodes : List (Node α)) :
    following text (n :: nodes) = ' ' :: ((n.render text).toList ++ following text nodes) := by
  rw [following, List.flatMap_cons]
  rfl

theorem toList_intercalate_renderAll (n : Node α) (nodes : List (Node α)) :
    (" ".intercalate (renderAll text (n :: nodes))).toList =
      (n.render text).toList ++ following text nodes := by
  induction nodes generalizing n with
  | nil => simp [renderAll, following]
  | cons n' nodes ih =>
      rw [renderAll, renderAll, String.intercalate_cons_cons, ← renderAll, String.toList_append,
        String.toList_append, ih, following_cons, List.append_assoc]
      rfl

theorem toList_render_scope {b : Bracket} {left right : Char}
    (hb : b.delimiters? = some (left, right)) (body : List (Node α)) :
    (render text (.scope b body)).toList =
      left :: ((" ".intercalate (renderAll text body)).toList ++ [right]) := by
  rw [render, Bracket.toList_wrap hb]

theorem IsWord.exists_head {word : String} (hword : IsWord word) :
    ∃ c rest, word.toList = c :: rest ∧ c ∉ marks := by
  obtain ⟨c, rest, hchars⟩ := List.exists_cons_of_ne_nil
    (fun hnil => hword.ne_empty (String.toList_eq_nil_iff.1 hnil))
  exact ⟨c, rest, hchars, hword.no_mark c (hchars ▸ List.mem_cons_self)⟩

/-- No node begins with a character that can stand behind another one. -/
theorem IsBracketed.exists_head {n : Node α} (hn : n.IsBracketed text) :
    ∃ c rest, (n.render text).toList = c :: rest ∧ c ∉ endings := by
  cases hn with
  | item hword =>
      obtain ⟨c, rest, hchars, hc⟩ := hword.exists_head
      exact ⟨c, rest, hchars, fun hmem => hc (List.mem_append_right _ hmem)⟩
  | scope hb _ =>
      obtain ⟨left, hleft, right, -, hdelimiters⟩ := Bracket.exists_delimiters hb
      have hopening : ∀ c ∈ Bracket.openings, c ∉ endings := by
        simp [Bracket.openings, Bracket.closings, endings]
      exact ⟨left, _, toList_render_scope hdelimiters _, hopening left hleft⟩

theorem IsBracketed.cons_ne_append {n : Node α} (hn : n.IsBracketed text) {close : Char}
    (hclose : close ∈ endings) (rest rest' : List Char) :
    close :: rest ≠ (n.render text).toList ++ rest' := by
  obtain ⟨c, chars, hchars, hc⟩ := hn.exists_head
  rw [hchars]
  intro h
  exact hc ((List.cons.inj h).1 ▸ hclose)

/-- A word is told from a scope by its first character. -/
theorem IsWord.append_ne_append {word : String} (hword : IsWord word) {b : Bracket}
    (hb : b ≠ .none) (body : List (Node α)) (rest rest' : List Char) :
    word.toList ++ rest ≠ (render text (.scope b body)).toList ++ rest' := by
  obtain ⟨c, chars, hchars, hc⟩ := hword.exists_head
  obtain ⟨left, hleft, right, -, hdelimiters⟩ := Bracket.exists_delimiters hb
  rw [hchars, toList_render_scope hdelimiters]
  intro h
  exact hc ((List.cons.inj h).1 ▸ List.mem_append_left _ hleft)

/-! ## Recovery from the text -/

/-- A text that can stand behind a node. -/
def EndsNode (rest : List Char) : Prop :=
  ∀ c ∈ rest.head?, c ∈ endings

theorem endsNode_following (nodes : List (Node α)) {close : Char} (hclose : close ∈ endings)
    (rest : List Char) : EndsNode (following text nodes ++ close :: rest) := by
  cases nodes with
  | nil =>
      rintro c ⟨⟩
      exact hclose
  | cons n nodes =>
      rw [following_cons]
      rintro c ⟨⟩
      exact List.mem_cons_self

/-- A word is followed by no more of its characters. -/
theorem word_append_inj {word word' rest rest' : List Char} (hword : ∀ c ∈ word, c ∉ marks)
    (hword' : ∀ c ∈ word', c ∉ marks) (hrest : EndsNode rest) (hrest' : EndsNode rest')
    (h : word ++ rest = word' ++ rest') : word = word' ∧ rest = rest' := by
  have hnil {more behind : List Char} (hmore : ∀ c ∈ more, c ∉ marks)
      (hends : EndsNode (more ++ behind)) : more = [] := by
    cases more with
    | nil => rfl
    | cons c more =>
        exact absurd (List.mem_append_right _ (hends c rfl)) (hmore c List.mem_cons_self)
  rcases List.append_eq_append_iff.1 h with ⟨more, rfl, rfl⟩ | ⟨more, rfl, rfl⟩
  · obtain rfl := hnil (fun c hc => hword' c (List.mem_append_right _ hc)) hrest
    exact ⟨(List.append_nil word).symm, rfl⟩
  · obtain rfl := hnil (fun c hc => hword c (List.mem_append_right _ hc)) hrest'
    exact ⟨List.append_nil word', rfl⟩

/-- The text of a node, with what stands behind it, determines the shape of the node and what stands
behind it. -/
def Recovered (text : α → String) (text' : β → String) (m : Node α) : Prop :=
  ∀ {n : Node β} {rest rest' : List Char}, n.IsBracketed text' → EndsNode rest → EndsNode rest' →
    (m.render text).toList ++ rest = (n.render text').toList ++ rest' →
    SameShape text text' m n ∧ rest = rest'

section Children

variable {ms : List (Node α)} {ns : List (Node β)} {close close' : Char} {rest rest' : List Char}

/-- Children behind another one are recovered one after the other. -/
theorem following_append_inj (hms : ∀ m ∈ ms, Recovered text text' m)
    (hns : ∀ n ∈ ns, n.IsBracketed text') (hclose : close ∈ Bracket.closings)
    (hclose' : close' ∈ Bracket.closings)
    (h : following text ms ++ close :: rest = following text' ns ++ close' :: rest') :
    List.Forall₂ (SameShape text text') ms ns ∧ close :: rest = close' :: rest' := by
  have hblank : ∀ c ∈ Bracket.closings, c ≠ ' ' := by simp [Bracket.closings]
  induction ms generalizing ns with
  | nil =>
      cases ns with
      | nil => exact ⟨.nil, h⟩
      | cons n ns =>
          rw [following_cons] at h
          exact absurd (List.cons.inj h).1 (hblank close hclose)
  | cons m ms ih =>
      obtain ⟨hm, hms⟩ := List.forall_mem_cons.1 hms
      rw [following_cons] at h
      cases ns with
      | nil => exact absurd (List.cons.inj h).1.symm (hblank close' hclose')
      | cons n ns =>
          obtain ⟨hn, hns⟩ := List.forall_mem_cons.1 hns
          rw [following_cons, List.cons_append, List.cons_append, List.append_assoc,
            List.append_assoc] at h
          obtain ⟨hfirst, h⟩ := hm hn
            (endsNode_following ms (List.mem_cons_of_mem _ hclose) rest)
            (endsNode_following ns (List.mem_cons_of_mem _ hclose') rest') (List.cons.inj h).2
          obtain ⟨hothers, hrest⟩ := ih hms hns h
          exact ⟨.cons hfirst hothers, hrest⟩

/-- The children of a scope are recovered together with the bracket behind them. -/
theorem children_append_inj (hms : ∀ m ∈ ms, m.IsBracketed text)
    (hrecovered : ∀ m ∈ ms, Recovered text text' m) (hns : ∀ n ∈ ns, n.IsBracketed text')
    (hclose : close ∈ Bracket.closings) (hclose' : close' ∈ Bracket.closings)
    (h : (" ".intercalate (renderAll text ms)).toList ++ close :: rest =
      (" ".intercalate (renderAll text' ns)).toList ++ close' :: rest') :
    List.Forall₂ (SameShape text text') ms ns ∧ close :: rest = close' :: rest' := by
  have hends {c : Char} (hc : c ∈ Bracket.closings) : c ∈ endings := List.mem_cons_of_mem _ hc
  cases ms with
  | nil =>
      cases ns with
      | nil => exact ⟨.nil, h⟩
      | cons n ns =>
          rw [toList_intercalate_renderAll, List.append_assoc] at h
          exact absurd h ((hns n List.mem_cons_self).cons_ne_append (hends hclose) rest _)
  | cons m ms =>
      rw [toList_intercalate_renderAll, List.append_assoc] at h
      cases ns with
      | nil =>
          exact absurd h.symm ((hms m List.mem_cons_self).cons_ne_append (hends hclose') rest' _)
      | cons n ns =>
          -- with a blank in front the first child stands like the others
          rw [toList_intercalate_renderAll, List.append_assoc] at h
          apply following_append_inj hrecovered hns hclose hclose'
          rw [following_cons, following_cons, List.cons_append, List.cons_append,
            List.append_assoc, List.append_assoc, h]

end Children

/-- Every node is recovered from its text, by induction on how its brackets are nested. -/
theorem IsBracketed.recovered {m : Node α} (hm : m.IsBracketed text) :
    Recovered text text' m := by
  induction hm with
  | item hword =>
      intro n rest rest' hn hrest hrest' h
      cases hn with
      | item hword' =>
          obtain ⟨hsame, hbehind⟩ := word_append_inj hword.no_mark hword'.no_mark hrest hrest' h
          exact ⟨.item (String.toList_injective hsame), hbehind⟩
      | scope hb _ => exact absurd h (hword.append_ne_append hb _ _ _)
  | @scope b body hb hbody ih =>
      intro n rest rest' hn hrest hrest' h
      cases hn with
      | item hword' => exact absurd h.symm (hword'.append_ne_append hb _ _ _)
      | @scope b' body' hb' hbody' =>
          obtain ⟨left, -, right, hright, hdelimiters⟩ := Bracket.exists_delimiters hb
          obtain ⟨left', -, right', hright', hdelimiters'⟩ := Bracket.exists_delimiters hb'
          rw [toList_render_scope hdelimiters, toList_render_scope hdelimiters', List.cons_append,
            List.cons_append, List.append_assoc, List.append_assoc] at h
          obtain ⟨rfl, hinside⟩ := List.cons.inj h
          obtain rfl := Bracket.eq_of_delimiters hdelimiters hdelimiters'
          obtain ⟨hchildren, hbehind⟩ :=
            children_append_inj hbody ih hbody' hright hright' hinside
          exact ⟨.scope hchildren, (List.cons.inj hbehind).2⟩

/-! ## Text from the shape -/

theorem renderAll_eq_map (nodes : List (Node α)) :
    renderAll text nodes = nodes.map (render text) := by
  induction nodes with
  | nil => rfl
  | cons n nodes ih => rw [renderAll, ih, List.map_cons]

theorem IsBracketed.render_eq {m : Node α} (hm : m.IsBracketed text) {n : Node β}
    (h : SameShape text text' m n) : m.render text = n.render text' := by
  induction hm generalizing n with
  | item _ =>
      cases h with
      | item htext => exact htext
  | @scope b body _ _ ih =>
      cases h with
      | @scope _ _ body' hbody =>
          have htexts : body.map (render text) = body'.map (render text') := by
            clear * - hbody ih
            induction hbody with
            | nil => rfl
            | cons hfirst _ ihothers =>
                obtain ⟨ihfirst, ih⟩ := List.forall_mem_cons.1 ih
                rw [List.map_cons, List.map_cons, ihfirst hfirst, ihothers ih]
          rw [render, render, renderAll_eq_map, renderAll_eq_map, htexts]

end Node

namespace Scope

/-- Scopes with brackets around every scope and words for items have the same text exactly if their
trees have the same shape. -/
theorem text_tells_bracketed_tree (text : α → String) (text' : β → String) (s : Scope α)
    (t : Scope β) (hs : s.toNode.IsBracketed text) (ht : t.toNode.IsBracketed text') :
    s.render text = t.render text' ↔ Node.SameShape text text' s.toNode t.toNode := by
  constructor
  · intro h
    have hnothing : Node.EndsNode [] := by
      rintro c ⟨⟩
    have hchars : (s.toNode.render text).toList ++ [] = (t.toNode.render text').toList ++ [] := by
      rw [List.append_nil, List.append_nil]
      exact congrArg String.toList h
    exact (hs.recovered ht hnothing hnothing hchars).1
  · exact fun h => hs.render_eq h

/-- A scope with nothing inside, and an item that is a number in one tree and a name in the
other. -/
theorem text_tells_bracketed_tree_number_and_name :
    (⟨.round, [.item ⟨.plain, .number 12, 1⟩, .scope .square [.scope .curly []]]⟩ :
        Scope Token).render Token.render = "(12 [\x7b\x7d])" ∧
      Node.SameShape Token.render Token.render
        (.scope .round [.item ⟨.plain, .number 12, 1⟩, .scope .square [.scope .curly []]])
        (.scope .round [.item ⟨.label, .name "12", 2⟩, .scope .square [.scope .curly []]]) := by
  have hscope : (Node.scope .square [.scope .curly []]).IsBracketed Token.render :=
    .scope (by decide) (List.forall_mem_singleton.2 (.scope (by decide) (by simp)))
  have hword : Node.IsWord "12" :=
    ⟨by decide, by simp [Node.marks, Node.endings, Bracket.openings, Bracket.closings]⟩
  have hnumber : (Node.item ⟨.plain, .number 12, 1⟩).IsBracketed Token.render := .item hword
  have hname : (Node.item ⟨.label, .name "12", 2⟩).IsBracketed Token.render := .item hword
  refine ⟨by decide +kernel, ?_⟩
  apply (text_tells_bracketed_tree Token.render Token.render
    ⟨.round, [.item ⟨.plain, .number 12, 1⟩, .scope .square [.scope .curly []]]⟩
    ⟨.round, [.item ⟨.label, .name "12", 2⟩, .scope .square [.scope .curly []]]⟩
    (.scope (by decide) (List.forall_mem_cons.2 ⟨hnumber, List.forall_mem_singleton.2 hscope⟩))
    (.scope (by decide) (List.forall_mem_cons.2 ⟨hname, List.forall_mem_singleton.2 hscope⟩))).1
  decide +kernel

end Scope

end MqAssembler
