/-!
# Chains of checks

A computation that may refuse is a chain of steps in `Except`. Its answer is inverted step by
step: it succeeds if every step does, and it fails with the fault of the first step that fails.
-/

namespace MqAssembler.CheckChain

variable {ε α β : Type}

theorem bind_eq_ok_iff {x : Except ε α} {f : α → Except ε β} {b : β} :
    x >>= f = .ok b ↔ ∃ a, x = .ok a ∧ f a = .ok b := by
  cases x <;> simp [bind, Except.bind]

theorem bind_eq_error_iff {x : Except ε α} {f : α → Except ε β} {e : ε} :
    x >>= f = .error e ↔ x = .error e ∨ ∃ a, x = .ok a ∧ f a = .error e := by
  cases x <;> simp [bind, Except.bind]

/-- A step that succeeds hands its result on. -/
theorem bind_of_eq_ok {x : Except ε α} {a : α} (h : x = .ok a) (f : α → Except ε β) :
    x >>= f = f a := by
  rw [h]
  rfl

/-- What every successful step preserves holds at the end of a successful run. -/
theorem foldlM_preserves {P : β → Prop} {f : β → α → Except ε β}
    (hstep : ∀ {s a next}, P s → f s a = .ok next → P next) {items : List α} {s final : β}
    (hs : P s) (hrun : items.foldlM f s = .ok final) : P final := by
  induction items generalizing s with
  | nil =>
      rw [List.foldlM_nil] at hrun
      rw [← Except.ok.inj hrun]
      exact hs
  | cons a rest ih =>
      rw [List.foldlM_cons] at hrun
      obtain ⟨next, hnext, hrest⟩ := bind_eq_ok_iff.1 hrun
      exact ih (hstep hs hnext) hrest

/-- A run fails exactly if it reaches a step that fails, and with the fault of that step. -/
theorem foldlM_eq_error_iff {f : β → α → Except ε β} {items : List α} {s : β} {e : ε} :
    items.foldlM f s = .error e ↔
      ∃ before a after reached, items = before ++ a :: after ∧
        before.foldlM f s = .ok reached ∧ f reached a = .error e := by
  constructor
  · intro h
    induction items generalizing s with
    | nil => cases h
    | cons a rest ih =>
        rw [List.foldlM_cons] at h
        rcases bind_eq_error_iff.1 h with hstep | ⟨next, hstep, hrest⟩
        · exact ⟨[], a, rest, s, rfl, rfl, hstep⟩
        · obtain ⟨before, b, after, reached, hsplit, hbefore, hfault⟩ := ih hrest
          refine ⟨a :: before, b, after, reached, by rw [hsplit]; rfl, ?_, hfault⟩
          rw [List.foldlM_cons]
          exact bind_eq_ok_iff.2 ⟨next, hstep, hbefore⟩
  · rintro ⟨before, a, after, reached, rfl, hbefore, hfault⟩
    rw [List.foldlM_append, hbefore]
    refine bind_eq_error_iff.2 (.inr ⟨reached, rfl, ?_⟩)
    rw [List.foldlM_cons]
    exact bind_eq_error_iff.2 (.inl hfault)

end MqAssembler.CheckChain
