import Mathlib.Data.List.TakeWhile

/-!
# Texts joined by a separator

Two parts joined by a separator can be told apart again when the separator does not
occur in the first.  When it may, one joined text has several readings, and any two
of them differ by a middle that the one counts to the front and the other to the back.
-/

namespace Library

variable {α : Type} {separator : α} {front back : List α}

/-- The parts before and after the first separator. -/
theorem cut_eq_iff [DecidableEq α] {joined : List α} :
    (joined.takeWhile (· ≠ separator) = front ∧
        joined.dropWhile (· ≠ separator) = separator :: back) ↔
      joined = front ++ separator :: back ∧ separator ∉ front := by
  constructor
  · rintro ⟨rfl, rest⟩
    refine ⟨?_, fun inside => ?_⟩
    · rw [← rest, List.takeWhile_append_dropWhile]
    · have other := List.mem_takeWhile_imp inside
      simp at other
  · rintro ⟨rfl, absent⟩
    have kept : ∀ item ∈ front, decide (item ≠ separator) = true := by
      intro item member
      refine decide_eq_true fun same => absent (same ▸ member)
    rw [List.takeWhile_append_of_pos kept, List.dropWhile_append_of_pos kept]
    simp

/-- Two readings of one joined text: the same parts, or a middle part with a separator
that belongs to the front of the one and to the back of the other. -/
theorem join_eq_join_iff {otherFront otherBack : List α} :
    front ++ separator :: back = otherFront ++ separator :: otherBack ↔
      (front = otherFront ∧ back = otherBack) ∨
      (∃ middle, otherFront = front ++ separator :: middle ∧
        back = middle ++ separator :: otherBack) ∨
      ∃ middle, front = otherFront ++ separator :: middle ∧
        otherBack = middle ++ separator :: back := by
  constructor
  · intro same
    rcases List.append_eq_append_iff.mp same with ⟨extra, longer, rest⟩ | ⟨extra, longer, rest⟩
    · cases extra with
      | nil =>
          rw [List.append_nil] at longer
          exact Or.inl ⟨longer.symm, (List.cons.inj rest).2⟩
      | cons first middle =>
          obtain ⟨rfl, after⟩ := List.cons.inj rest
          exact Or.inr (Or.inl ⟨middle, longer, after⟩)
    · cases extra with
      | nil =>
          rw [List.append_nil] at longer
          exact Or.inl ⟨longer, (List.cons.inj rest).2.symm⟩
      | cons first middle =>
          obtain ⟨rfl, after⟩ := List.cons.inj rest
          exact Or.inr (Or.inr ⟨middle, longer, after⟩)
  · rintro (⟨rfl, rfl⟩ | ⟨middle, rfl, rfl⟩ | ⟨middle, rfl, rfl⟩)
    · rfl
    · rw [List.append_assoc, List.cons_append]
    · rw [List.append_assoc, List.cons_append]

end Library
