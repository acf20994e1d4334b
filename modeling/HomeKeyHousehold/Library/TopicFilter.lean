import Mathlib.Data.List.Basic

/-!
# Topic filters

A filter is matched level by level.  A wildcard stands for one level or, at the end, for
all the levels that are left, of which there may be none.
-/

namespace Library

/-- A level of a filter over the levels of topics. -/
inductive FilterLevel (α : Type) where
  | level (name : α)
  | single
  | multi
  deriving DecidableEq

namespace FilterLevel

variable {α : Type} [DecidableEq α]

/-- A filter that begins with a wildcard. -/
def beginsWild : List (FilterLevel α) → Bool
  | .single :: _ | .multi :: _ => true
  | _ => false

/-- A filter matches the levels of a topic. -/
def matchesLevels : List (FilterLevel α) → List α → Bool
  | [.multi], _ => true
  | .single :: filter, _ :: levels => matchesLevels filter levels
  | .level name :: filter, found :: levels => decide (name = found) && matchesLevels filter levels
  | [], [] => true
  | _, _ => false

variable {names levels : List α} {name : α}

/-- Names before a wildcard at the end match what begins with them. -/
theorem matchesLevels_names_multi :
    matchesLevels (names.map level ++ [multi]) levels = true ↔ names <+: levels := by
  induction names generalizing levels with
  | nil => simp [matchesLevels]
  | cons name names ih =>
      cases levels with
      | nil => simp [matchesLevels]
      | cons found levels =>
          rw [List.map_cons, List.cons_append, matchesLevels, Bool.and_eq_true, decide_eq_true_eq,
            ih, List.cons_prefix_cons]

/-- A wildcard before a name matches two levels. -/
theorem matchesLevels_single_name :
    matchesLevels [single, level name] levels = true ↔ ∃ found, levels = [found, name] := by
  cases levels with
  | nil => simp [matchesLevels]
  | cons first levels =>
      cases levels with
      | nil => simp [matchesLevels]
      | cons second levels =>
          cases levels with
          | nil =>
              simp only [matchesLevels, Bool.and_true, decide_eq_true_eq, List.cons.injEq,
                and_true, exists_eq_left']
              exact eq_comm
          | cons third levels => simp [matchesLevels]

end FilterLevel

end Library
