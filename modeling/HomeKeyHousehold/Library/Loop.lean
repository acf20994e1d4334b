import Mathlib.Data.List.Infix

/-!
# Loops that stop early

A loop goes through a list and ends at the first item that stops it.  The items it
gets to are all that come before that one, and that one itself.
-/

namespace Library

variable {α : Type} {stops : α → Bool}

/-- The items a loop gets to. -/
def visited (stops : α → Bool) : List α → List α
  | [] => []
  | item :: rest => if stops item then [item] else item :: visited stops rest

theorem visited_cons_of_stops {item : α} {rest : List α} (stopped : stops item = true) :
    visited stops (item :: rest) = [item] := by
  rw [visited, if_pos stopped]

theorem visited_cons_of_not_stops {item : α} {rest : List α} (passed : stops item = false) :
    visited stops (item :: rest) = item :: visited stops rest := by
  rw [visited, passed, if_neg Bool.false_ne_true]

/-- A loop gets to an item that nothing before it stopped. -/
theorem mem_visited_iff {items : List α} {item : α} :
    item ∈ visited stops items ↔
      ∃ before after, items = before ++ item :: after ∧
        ∀ earlier ∈ before, stops earlier = false := by
  induction items with
  | nil =>
      constructor
      · intro member
        cases member
      · rintro ⟨before, after, split, -⟩
        exact absurd split.symm (by simp)
  | cons first rest ih =>
      constructor
      · intro member
        cases stopped : stops first with
        | true =>
            rw [visited_cons_of_stops stopped, List.mem_singleton] at member
            subst member
            exact ⟨[], rest, rfl, by simp⟩
        | false =>
            rw [visited_cons_of_not_stops stopped] at member
            rcases List.mem_cons.mp member with rfl | later
            · exact ⟨[], rest, rfl, by simp⟩
            · obtain ⟨before, after, rfl, passed⟩ := ih.mp later
              refine ⟨first :: before, after, rfl, ?_⟩
              intro earlier among
              rcases List.mem_cons.mp among with rfl | among
              · exact stopped
              · exact passed earlier among
      · rintro ⟨before, after, split, passed⟩
        cases before with
        | nil =>
            obtain ⟨rfl, rfl⟩ := List.cons.inj split
            rw [visited]
            split <;> exact List.mem_cons_self
        | cons earlier before =>
            obtain ⟨rfl, rfl⟩ := List.cons.inj split
            rw [visited_cons_of_not_stops (passed first List.mem_cons_self)]
            refine List.mem_cons_of_mem first (ih.mpr ⟨before, after, rfl, ?_⟩)
            intro earlier among
            exact passed earlier (List.mem_cons_of_mem first among)

/-- A loop gets to everything exactly when nothing but the last item stops it. -/
theorem visited_eq_self_iff {items : List α} :
    visited stops items = items ↔
      ∀ before item after, items = before ++ item :: after → after ≠ [] → stops item = false := by
  induction items with
  | nil => exact iff_of_true rfl fun before item after split => absurd split.symm (by simp)
  | cons first rest ih =>
      cases stopped : stops first with
      | true =>
          rw [visited_cons_of_stops stopped]
          constructor
          · intro same before item after split more
            have last : rest = [] := (List.cons.inj same).2.symm
            subst last
            cases before with
            | nil => exact absurd (List.cons.inj split).2.symm more
            | cons earlier before => exact absurd (List.cons.inj split).2.symm (by simp)
          · intro passes
            by_contra differs
            have more : rest ≠ [] := by
              rintro rfl
              exact differs rfl
            have passed := passes [] first rest rfl more
            rw [stopped] at passed
            cases passed
      | false =>
          rw [visited_cons_of_not_stops stopped]
          constructor
          · intro same before item after split more
            have others := ih.mp (List.cons.inj same).2
            cases before with
            | nil =>
                obtain ⟨rfl, -⟩ := List.cons.inj split
                exact stopped
            | cons earlier before => exact others before item after (List.cons.inj split).2 more
          · intro passes
            refine congrArg (first :: ·) (ih.mpr ?_)
            rintro before item after rfl more
            exact passes (first :: before) item after rfl more

end Library
