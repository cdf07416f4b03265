import MqAssembler.Yaml.Decode

/-!
# Room for aliases

A document that has been read has more events than its root has entries. A decoder that follows an
alias or two for each entry of the root therefore never meets the limit of aliases.

## Implementation notes

The bound is kept along the events. A mapping that is still open has taken in at most one node with
each event after the one that opened it, and its entries are pairs of those nodes.
-/

namespace MqAssembler.Yaml

/-- How many entries a mapping has. Any other node has none. -/
def Value.breadth : Value → Nat
  | mapping _ _ entries => entries.length
  | _ => 0

namespace Document

theorem length_pairUp_le (nodes : List Value) (entries : List (Value × Value)) :
    (pairUp nodes entries).length ≤ nodes.length + entries.length := by
  fun_induction pairUp nodes entries with
  | case1 entries value key rest ih =>
      simp only [List.length_cons] at ih ⊢
      omega
  | case2 nodes entries _ => exact Nat.le_add_left _ _

theorem Frame.breadth_close_le (f : Frame) : f.close.breadth ≤ f.nodes.length := by
  unfold Frame.close
  split
  · exact length_pairUp_le f.nodes []
  · exact Nat.zero_le _

namespace Draft

variable {d : Draft} {n : Nat}

/-- Every node of a draft has fewer than `n` entries, and every open collection fewer than `n`
nodes. -/
structure Within (d : Draft) (n : Nat) : Prop where
  frames : ∀ f ∈ d.frames, f.nodes.length < n
  anchored : ∀ a ∈ d.anchored, a.value.breadth < n
  root : ∀ v, d.root = some v → v.breadth < n

theorem Within.succ (h : d.Within n) : d.Within (n + 1) where
  frames f hf := Nat.lt_succ_of_lt (h.frames f hf)
  anchored a ha := Nat.lt_succ_of_lt (h.anchored a ha)
  root v hv := Nat.lt_succ_of_lt (h.root v hv)

/-- An anchor that begins adds no node. -/
theorem Within.begin (h : d.Within n) (anchor : Option String) : (d.begin anchor).2.Within n := by
  cases anchor with
  | none => exact h
  | some name => exact ⟨h.frames, h.anchored, h.root⟩

/-- A collection that opens has no nodes. -/
theorem Within.open (h : d.Within n) {f : Frame} (hempty : f.nodes = []) :
    { d with frames := f :: d.frames }.Within (n + 1) where
  frames g hg := by
    rcases List.mem_cons.1 hg with rfl | hg
    · simp [hempty]
    · exact Nat.lt_succ_of_lt (h.frames g hg)
  anchored := h.succ.anchored
  root := h.succ.root

theorem Within.keep (h : d.Within n) {v : Value} (hv : v.breadth < n)
    (anchor : Option (Nat × Nat)) : (d.keep anchor v).Within n := by
  cases anchor with
  | none => exact h
  | some a =>
      refine ⟨h.frames, ?_, h.root⟩
      intro b hb
      rcases List.mem_cons.1 hb with rfl | hb
      · exact hv
      · exact h.anchored b hb

theorem frames_keep (d : Draft) (anchor : Option (Nat × Nat)) (v : Value) :
    (d.keep anchor v).frames = d.frames := by
  cases anchor <;> rfl

theorem Within.put (h : d.Within (n + 1)) (hframes : ∀ f ∈ d.frames, f.nodes.length < n)
    {v : Value} (hv : v.breadth < n + 1) : (d.put v).Within (n + 1) := by
  unfold Draft.put
  split
  · refine ⟨h.frames, h.anchored, ?_⟩
    intro w hw
    cases hw
    exact hv
  next f outer heq =>
    refine ⟨?_, h.anchored, h.root⟩
    intro g hg
    rcases List.mem_cons.1 hg with rfl | hg
    · exact Nat.succ_lt_succ (hframes f (by simp [heq]))
    · exact h.frames g (by simp [heq, hg])

/-- A finished node goes to the innermost open collection, or becomes the root. -/
theorem Within.add (h : d.Within n) {v : Value} (hv : v.breadth < n + 1)
    (anchor : Option (Nat × Nat)) : (d.add anchor v).Within (n + 1) := by
  refine (h.succ.keep hv anchor).put ?_ hv
  rw [frames_keep]
  exact h.frames

/-- One event raises the bound by one. -/
theorem Within.step (h : d.Within n) {e : Event} {d' : Draft} (hstep : d.step e = some d') :
    d'.Within (n + 1) := by
  cases e with
  | scalar anchor tag style text place =>
      cases hstep
      refine (h.begin anchor).add ?_ _
      exact Nat.succ_pos n
  | reference name place =>
      obtain ⟨number, -, rfl⟩ := Option.map_eq_some_iff.1 hstep
      refine h.add ?_ none
      exact Nat.succ_pos n
  | sequenceStart anchor tag place =>
      cases hstep
      exact (h.begin anchor).open rfl
  | mappingStart anchor tag place =>
      cases hstep
      exact (h.begin anchor).open rfl
  | collectionEnd =>
      simp only [Draft.step] at hstep
      split at hstep
      · cases hstep
      next f outer heq =>
        cases hstep
        have hclosed : f.nodes.length < n := h.frames f (by simp [heq])
        have houter : { d with frames := outer }.Within n :=
          ⟨fun g hg => h.frames g (by simp [heq, hg]), h.anchored, h.root⟩
        have hbreadth := Nat.lt_of_le_of_lt f.breadth_close_le hclosed
        exact houter.add (Nat.lt_succ_of_lt hbreadth) f.anchor

theorem Within.foldlM (h : d.Within n) {events : List Event} {d' : Draft}
    (hrun : events.foldlM Draft.step d = some d') : d'.Within (n + events.length) := by
  induction events generalizing d n with
  | nil =>
      cases hrun
      exact h
  | cons e events ih =>
      rw [List.foldlM_cons] at hrun
      obtain ⟨next, hstep, hrest⟩ := Option.bind_eq_some_iff.1 hrun
      have hwithin := ih (h.step hstep) hrest
      rwa [Nat.add_assoc, Nat.add_comm 1] at hwithin

end Draft

variable {d : Document}

theorem eq_or_eq_of_laterOf {best : Option Anchored} {a b : Anchored}
    (h : laterOf best b = some a) : a = b ∨ best = some a := by
  unfold laterOf at h
  split at h
  · split at h
    · exact Or.inl (Option.some.inj h).symm
    · exact Or.inr h
  · exact Or.inl (Option.some.inj h).symm

/-- The latest node is one of those that were looked at, or the one to start from. -/
theorem mem_or_eq_of_foldl_laterOf {nodes : List Anchored} {best : Option Anchored} {a : Anchored}
    (h : nodes.foldl laterOf best = some a) : a ∈ nodes ∨ best = some a := by
  induction nodes generalizing best with
  | nil => exact Or.inr h
  | cons b nodes ih =>
      rcases ih h with hmem | hlater
      · exact Or.inl (List.mem_cons_of_mem b hmem)
      rcases eq_or_eq_of_laterOf hlater with rfl | hbest
      · exact Or.inl List.mem_cons_self
      · exact Or.inr hbest

theorem exists_anchored_of_target? {number : Nat} {v : Value} (h : d.target? number = some v) :
    ∃ a ∈ d.anchored, a.value = v := by
  obtain ⟨a, ha, rfl⟩ := Option.map_eq_some_iff.1 h
  rcases mem_or_eq_of_foldl_laterOf ha with hmem | hnone
  · exact ⟨a, (List.mem_filter.1 hmem).1, rfl⟩
  · cases hnone

/-- A root has fewer entries than its document has events, also if it is an alias. -/
theorem breadth_follow_root_lt {text : String} (h : parse text = some d) {root : Value}
    (hroot : d.root = some root) : (d.follow root).breadth < d.size := by
  simp only [parse, ofEvents, Option.bind_eq_bind, Option.bind_eq_some_iff] at h
  obtain ⟨tokens, -, events, -, draft, hrun, hdocument⟩ := h
  cases hdocument
  have hstart : Draft.Within {} 0 := ⟨nofun, nofun, nofun⟩
  have hwithin := hstart.foldlM hrun
  rw [Nat.zero_add] at hwithin
  cases root with
  | reference place number =>
      simp only [follow]
      cases htarget : target? ⟨draft.root, draft.anchored, events.length⟩ number with
      | none => exact hwithin.root _ hroot
      | some v =>
          obtain ⟨a, ha, rfl⟩ := exists_anchored_of_target? htarget
          exact hwithin.anchored a ha
  | scalar | sequence | mapping => exact hwithin.root _ hroot

end Document

/-- A decoder that succeeds hands its value and its count of aliases on. -/
theorem Decoding.run_bind_of_ok {α β : Type} {x : Decoding α} {followed after : Nat} {a : α}
    (h : x.run followed = .ok (a, after)) (f : α → Decoding β) :
    (x >>= f).run followed = (f a).run after := by
  rw [StateT.run_bind, h]
  rfl

/-- Below the limit a node is followed at the cost of at most one alias. -/
theorem Decode.exists_run_follow {d : Document} {followed : Nat} (h : followed < 100 * d.size)
    (v : Value) :
    ∃ after ≤ followed + 1, (Decode.follow d v).run followed = .ok (d.follow v, after) := by
  cases v with
  | reference place number => exact ⟨followed + 1, Nat.le_refl _, if_pos h⟩
  | scalar | sequence | mapping => exact ⟨followed, Nat.le_succ _, rfl⟩

end MqAssembler.Yaml
