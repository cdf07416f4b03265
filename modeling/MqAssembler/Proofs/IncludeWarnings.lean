import MqAssembler.Message
import Mathlib.Data.Finset.Card

/-!
# Warnings about repeated includes

An include name is warned of at every place behind its first one, and nowhere else. Each warning has
a note behind it, so the number of messages tells how far the names are from being distinct, and
there are no messages if they are. None of the messages reports a failure.

## Implementation notes

The loop carries the names that it has met, each of them once and the latest first. What matters of
them is only which names they are. The invariant compares them with the names in front of the
current place, where a name stands as often as it was listed.
-/

namespace MqAssembler.Message

/-! ## Places of the warnings -/

/-- One pass of the loop keeps the names that were met the same as the names in front. -/
theorem mem_seen_step {seen front : List String} (hseen : ∀ s, s ∈ seen ↔ s ∈ front)
    (name : String) :
    ∀ s, s ∈ (if name ∈ seen then seen else name :: seen) ↔ s ∈ front ++ [name] := by
  intro s
  rw [List.mem_append, List.mem_singleton]
  split
  · next hname =>
    constructor
    · exact fun hs => .inl ((hseen s).1 hs)
    · rintro (hs | rfl)
      · exact (hseen s).2 hs
      · exact hname
  · rw [List.mem_cons, hseen, or_comm]

theorem repeatedAfter_cons (seen : List String) (name : String) (rest : List String) :
    repeatedAfter seen (name :: rest) =
      (if name ∈ seen then repeatedInclude name else []) ++
        repeatedAfter (if name ∈ seen then seen else name :: seen) rest := by
  rw [repeatedAfter]
  split <;> rfl

/-- The messages from some place on are about the names that stand in front of their place. -/
theorem repeatedAfter_eq {seen front rest : List String} (hseen : ∀ s, s ∈ seen ↔ s ∈ front) :
    repeatedAfter seen rest =
      ((rest.zipIdx front.length).filter fun p => p.1 ∈ (front ++ rest).take p.2).flatMap
        fun p => repeatedInclude p.1 := by
  induction rest generalizing seen front with
  | nil => rfl
  | cons name rest ih =>
      have hnext := ih (mem_seen_step hseen name)
      rw [List.length_append, List.length_singleton, List.append_assoc, List.singleton_append]
        at hnext
      rw [repeatedAfter_cons, hnext, List.zipIdx_cons, List.filter_cons, List.take_left]
      simp only [hseen, decide_eq_true_eq]
      split
      · rw [List.flatMap_cons]
      · rw [List.nil_append]

/-! ## Number of messages -/

/-- Every name is warned of, with a note, or met for the first time. -/
theorem length_repeatedAfter (seen rest : List String) :
    (repeatedAfter seen rest).length + 2 * (seen ++ rest).toFinset.card =
      2 * (seen.toFinset.card + rest.length) := by
  induction rest generalizing seen with
  | nil => simp [repeatedAfter]
  | cons name rest ih =>
      rw [repeatedAfter_cons, List.length_append, List.length_cons]
      split
      · next hname =>
        have hsame : (seen ++ name :: rest).toFinset = (seen ++ rest).toFinset := by
          ext s
          simp only [List.mem_toFinset, List.mem_append, List.mem_cons]
          grind
        have hcount := ih seen
        rw [hsame]
        simp only [repeatedInclude, List.length_cons, List.length_nil]
        omega
      · next hname =>
        have hsame : (seen ++ name :: rest).toFinset = (name :: seen ++ rest).toFinset :=
          List.toFinset_eq_of_perm _ _ List.perm_middle
        have hcard : (name :: seen).toFinset.card = seen.toFinset.card + 1 := by
          rw [List.toFinset_cons, Finset.card_insert_of_notMem (by rwa [List.mem_toFinset])]
        have hcount := ih (name :: seen)
        rw [hsame, List.length_nil]
        omega

theorem length_repeatedIncludes (includes : List String) :
    (repeatedIncludes includes).length = 2 * (includes.length - includes.toFinset.card) := by
  have hcount := length_repeatedAfter [] includes
  have hle := List.toFinset_card_le includes
  rw [List.nil_append, List.toFinset_nil, Finset.card_empty] at hcount
  rw [repeatedIncludes]
  omega

theorem repeatedIncludes_eq_nil_iff (includes : List String) :
    repeatedIncludes includes = [] ↔ includes.Nodup := by
  have hle := List.toFinset_card_le includes
  calc
    repeatedIncludes includes = [] ↔ (repeatedIncludes includes).length = 0 :=
      List.length_eq_zero_iff.symm
    _ ↔ includes.toFinset.card = includes.length := by
      rw [length_repeatedIncludes]
      omega
    _ ↔ includes.Nodup :=
      Multiset.toFinset_card_eq_card_iff_nodup (m := (includes : Multiset String))

/-- A name is warned of at each place with the same name in front of it, in the order of the places,
by a warning that names it and a note. There are two messages for every name beyond the distinct
ones, none if the names are distinct, and none that reports a failure. -/
theorem repeated_names_are_warned_of (includes : List String) :
    repeatedIncludes includes =
      (includes.zipIdx.filter fun p => p.1 ∈ includes.take p.2).flatMap (fun p =>
        [⟨.warn, "Duplicate include: `" ++ p.1 ++ "`", none⟩,
         ⟨.note, "The name is emitted twice. Remove one if this is not intentional.", none⟩]) ∧
    (repeatedIncludes includes).length = 2 * (includes.length - includes.toFinset.card) ∧
    (repeatedIncludes includes = [] ↔ includes.Nodup) ∧
    anyError (repeatedIncludes includes) = false := by
  have hmessages : repeatedIncludes includes =
      (includes.zipIdx.filter fun p => p.1 ∈ includes.take p.2).flatMap
        fun p => repeatedInclude p.1 := repeatedAfter_eq (fun s => Iff.rfl)
  refine ⟨hmessages, length_repeatedIncludes includes, repeatedIncludes_eq_nil_iff includes, ?_⟩
  rw [hmessages, anyError, List.any_flatMap, List.any_eq_false]
  -- the two messages about a name are a warning and a note
  intro p _
  exact Bool.false_ne_true

end MqAssembler.Message
