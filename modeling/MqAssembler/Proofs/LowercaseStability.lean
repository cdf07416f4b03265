import MqAssembler.Text.Lowercase
import Mathlib.Data.List.Basic

/-!
# Lower-case text is stable

Lowering a text a second time changes nothing. Every character of a lowered text is small, which
means that the mapping leaves it alone in every context; the capital sigma, whose form depends on
its neighbours, is gone after the first pass.

## Implementation notes

That no run of the case table leads into another one is checked once for the table, run against
run. The check compares the ends of runs and, where runs by twos interleave, their parity, so it
does not go through single code points. It is written with the Boolean comparisons of `Nat`, which
evaluate directly.
-/

namespace MqAssembler.Text

namespace CaseRun

/-- The last code point that a run leads to. -/
def lastTarget (run : CaseRun) : Nat :=
  run.target + (run.last - run.first)

/-- Whether run `a` leads to no code point of run `b`: it stays on one side of `b`, or both go by
twos at different parity. -/
def clearOf (a b : CaseRun) : Bool :=
  Nat.blt a.lastTarget b.first || Nat.blt b.last a.target ||
    (Nat.beq b.step 2 && (Nat.beq a.step 2 || Nat.beq a.first a.last) &&
      Nat.beq ((a.target + b.first) % 2) 1)

/-- Whether a run leads to characters only, past or before the surrogate code points. -/
def leadsToChars (run : CaseRun) : Bool :=
  Nat.blt run.lastTarget 0xD800 ||
    (Nat.blt 0xDFFF run.target && Nat.blt run.lastTarget 0x110000)

/-- The dotted capital I, which has an entry of its own beside the table. -/
def dottedI : CaseRun := ⟨0x130, 0x130, 1, 0x69⟩

theorem table_clearOf :
    table.all (fun a => (dottedI :: table).all fun b => a.clearOf b) = true := by
  decide +kernel

theorem table_leadsToChars : table.all leadsToChars = true := by
  decide +kernel

theorem lower?_eq_some_iff {run : CaseRun} {n m : Nat} :
    run.lower? n = some m ↔
      (run.first ≤ n ∧ n ≤ run.last ∧ (n - run.first) % run.step = 0) ∧
        run.target + (n - run.first) = m := by
  rw [lower?, Option.ite_none_right_eq_some, Option.some.injEq]

theorem lower?_eq_none_of_clearOf {a b : CaseRun} (hclear : a.clearOf b = true) {n m : Nat}
    (hm : a.lower? n = some m) : b.lower? m = none := by
  obtain ⟨⟨hfirst, hlast, hstep⟩, rfl⟩ := lower?_eq_some_iff.1 hm
  rw [lower?, if_neg]
  rintro ⟨hbfirst, hblast, hbstep⟩
  simp only [clearOf, lastTarget, Bool.or_eq_true, Bool.and_eq_true, Nat.blt_eq, Nat.beq_eq]
    at hclear
  rcases hclear with (hbelow | habove) | ⟨⟨htwo, hatwo⟩, hparity⟩
  · omega
  · omega
  · rw [htwo] at hbstep
    rcases hatwo with hatwo | hsingle
    · rw [hatwo] at hstep
      omega
    · omega

end CaseRun

/-! ## Small characters -/

/-- A character that the mapping leaves alone. -/
def IsSmall (c : Char) : Prop :=
  c ≠ '\u0130' ∧ ∀ run ∈ CaseRun.table, run.lower? c.toNat = none

instance (c : Char) : Decidable (IsSmall c) :=
  inferInstanceAs (Decidable (_ ∧ ∀ run ∈ CaseRun.table, run.lower? c.toNat = none))

theorem IsSmall.lowerPoint_eq {c : Char} (h : IsSmall c) : lowerPoint c.toNat = c.toNat := by
  have hnone : CaseRun.table.findSome? (·.lower? c.toNat) = none :=
    List.findSome?_eq_none_iff.2 h.2
  rw [lowerPoint, hnone, Option.getD_none]

theorem IsSmall.lowerChar_eq {c : Char} (h : IsSmall c) : lowerChar c = [c] := by
  rw [lowerChar, if_neg h.1, h.lowerPoint_eq, Char.ofNat_toNat]

theorem IsSmall.ne_sigma {c : Char} (h : IsSmall c) : c ≠ 'Σ' := by
  rintro rfl
  exact absurd h (by decide +kernel)

/-- The table leads from a code point to itself, if no run holds it, or along one of the runs. -/
theorem lowerPoint_cases (n : Nat) :
    (lowerPoint n = n ∧ ∀ run ∈ CaseRun.table, run.lower? n = none) ∨
      ∃ run ∈ CaseRun.table, run.lower? n = some (lowerPoint n) := by
  cases hfind : CaseRun.table.findSome? (·.lower? n) with
  | none =>
      refine Or.inl ⟨?_, List.findSome?_eq_none_iff.1 hfind⟩
      rw [lowerPoint, hfind, Option.getD_none]
  | some m =>
      obtain ⟨run, hrun, hm⟩ := List.exists_of_findSome?_eq_some hfind
      refine Or.inr ⟨run, hrun, ?_⟩
      rw [hm, lowerPoint, hfind, Option.getD_some]

theorem isValidChar_lowerPoint (c : Char) : (lowerPoint c.toNat).isValidChar := by
  rcases lowerPoint_cases c.toNat with ⟨heq, -⟩ | ⟨run, hrun, hm⟩
  · rw [heq]
    exact c.valid
  · obtain ⟨⟨hfirst, hlast, -⟩, hm⟩ := CaseRun.lower?_eq_some_iff.1 hm
    have hchars := List.all_eq_true.1 CaseRun.table_leadsToChars run hrun
    simp only [CaseRun.leadsToChars, CaseRun.lastTarget, Bool.or_eq_true, Bool.and_eq_true,
      Nat.blt_eq] at hchars
    rw [← hm, Nat.isValidChar]
    omega

theorem toNat_ofNat_lowerPoint (c : Char) :
    (Char.ofNat (lowerPoint c.toNat)).toNat = lowerPoint c.toNat := by
  rw [Char.ofNat, dif_pos (isValidChar_lowerPoint c)]
  rfl

/-- The simple lower-case form of a character other than the dotted capital I is small. -/
theorem isSmall_lowerPoint {c : Char} (hc : c ≠ '\u0130') :
    IsSmall (Char.ofNat (lowerPoint c.toNat)) := by
  rcases lowerPoint_cases c.toNat with ⟨heq, hnone⟩ | ⟨a, ha, hm⟩
  · rw [heq, Char.ofNat_toNat]
    exact ⟨hc, hnone⟩
  · have hclear : ∀ b ∈ CaseRun.dottedI :: CaseRun.table, b.lower? (lowerPoint c.toNat) = none := by
      intro b hb
      have hrow := List.all_eq_true.1 CaseRun.table_clearOf a ha
      exact CaseRun.lower?_eq_none_of_clearOf (List.all_eq_true.1 hrow b hb) hm
    constructor
    · intro hdotted
      have hcode : lowerPoint c.toNat = 0x130 := by
        rw [← toNat_ofNat_lowerPoint, hdotted]
        rfl
      have hnone := hclear CaseRun.dottedI List.mem_cons_self
      rw [hcode] at hnone
      exact absurd hnone (by decide)
    · intro b hb
      rw [toNat_ofNat_lowerPoint]
      exact hclear b (List.mem_cons_of_mem _ hb)

theorem isSmall_of_mem_lowerChar {c d : Char} (hd : d ∈ lowerChar c) : IsSmall d := by
  by_cases hc : c = '\u0130'
  · rw [lowerChar, if_pos hc] at hd
    have hcases : d = 'i' ∨ d = '\u0307' := by simpa using hd
    rcases hcases with rfl | rfl <;> decide +kernel
  · rw [lowerChar, if_neg hc, List.mem_singleton] at hd
    rw [hd]
    exact isSmall_lowerPoint hc

theorem isSmall_lowerSigma (before after : List Char) : IsSmall (lowerSigma before after) := by
  rw [lowerSigma]
  split <;> decide +kernel

/-! ## Texts -/

/-- The first pass leaves small characters only. -/
theorem isSmall_of_mem_lowerAfter {before cs : List Char} {d : Char}
    (hd : d ∈ lowerAfter before cs) : IsSmall d := by
  induction cs generalizing before with
  | nil => cases hd
  | cons c rest ih =>
      rw [lowerAfter, List.mem_append] at hd
      rcases hd with hd | hd
      · split at hd
        · rw [List.mem_singleton.1 hd]
          exact isSmall_lowerSigma before rest
        · exact isSmall_of_mem_lowerChar hd
      · exact ih hd

/-- A pass over small characters changes none of them, whatever precedes. -/
theorem lowerAfter_eq_self {cs : List Char} (hsmall : ∀ c ∈ cs, IsSmall c) (before : List Char) :
    lowerAfter before cs = cs := by
  induction cs generalizing before with
  | nil => rfl
  | cons c rest ih =>
      obtain ⟨hc, hrest⟩ := List.forall_mem_cons.1 hsmall
      rw [lowerAfter, if_neg hc.ne_sigma, hc.lowerChar_eq, ih hrest]
      rfl

/-- A lowered text is its own lower-case form. -/
@[simp] theorem lowercase_lowercase (s : String) : lowercase (lowercase s) = lowercase s := by
  apply String.toList_injective
  rw [toList_lowercase (lowercase s)]
  apply lowerAfter_eq_self
  intro c hc
  rw [toList_lowercase] at hc
  exact isSmall_of_mem_lowerAfter hc

end MqAssembler.Text
