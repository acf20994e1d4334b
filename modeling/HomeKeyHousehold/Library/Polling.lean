import HomeKeyHousehold.Library.Run
import Mathlib.Order.Lattice

/-!
# Polling with a deadline

A state changes as inputs arrive.  A caller that sleeps in between looks at it each time
it wakes up, until a goal holds or a deadline has passed; a goal that holds only
between two looks is missed, and one that is reached after the deadline may still be seen.
-/

namespace Library

variable {σ ι τ : Type}

/-- What happens while a goal is polled: an input arrives, or the caller wakes up. -/
inductive Moment (ι τ : Type) where
  | arrival (time : τ) (input : ι)
  | wake (time : τ)

namespace Moment

def time : Moment ι τ → τ
  | .arrival time _ => time
  | .wake time => time

/-- A wake-up leaves the state as it is. -/
def apply (step : σ → ι → σ) (state : σ) : Moment ι τ → σ
  | .arrival _ input => step state input
  | .wake _ => state

/-- A moment as far as it tells anything; every wake-up is kept. -/
def told {κ : Type} (said : ι → Option κ) : Moment ι τ → Option (Moment κ τ)
  | .arrival time input => (said input).map (.arrival time)
  | .wake time => some (.wake time)

end Moment

/-- The inputs that arrive. -/
def arrivals (moments : List (Moment ι τ)) : List ι :=
  moments.filterMap fun moment =>
    match moment with
    | .arrival _ input => some input
    | .wake _ => none

theorem arrivals_append (first second : List (Moment ι τ)) :
    arrivals (first ++ second) = arrivals first ++ arrivals second :=
  List.filterMap_append

theorem arrivals_cons_arrival (time : τ) (input : ι) (rest : List (Moment ι τ)) :
    arrivals (.arrival time input :: rest) = input :: arrivals rest := rfl

/-- A wake-up changes nothing. -/
theorem run_apply {step : σ → ι → σ} (state : σ) (moments : List (Moment ι τ)) :
    run (Moment.apply step) state moments = run step state (arrivals moments) := by
  induction moments generalizing state with
  | nil => rfl
  | cons moment rest ih =>
      rw [run_cons, ih]
      cases moment with
      | arrival time input => rfl
      | wake time => rfl

/-- Whether the goal was seen, and when the caller stopped. -/
structure Waited (τ : Type) where
  found : Bool
  time : τ
  deriving DecidableEq

variable [LinearOrder τ] {step : σ → ι → σ} {goal : σ → Bool} {deadline time : τ} {state : σ}
variable {moments rest : List (Moment ι τ)}

/-- Look at every wake-up, until the goal holds or the deadline has passed. -/
def poll (step : σ → ι → σ) (goal : σ → Bool) (deadline : τ) :
    σ → List (Moment ι τ) → Option (Waited τ)
  | _, [] => none
  | state, .arrival _ input :: rest => poll step goal deadline (step state input) rest
  | state, .wake time :: rest =>
      if goal state then some ⟨true, time⟩
      else if deadline ≤ time then some ⟨false, time⟩
      else poll step goal deadline state rest

/-- Every wake-up so far was before the deadline. -/
def Waiting (deadline : τ) (before : List (Moment ι τ)) : Prop :=
  ∀ time, .wake time ∈ before → time < deadline

/-- The goal holds at a wake-up, up to the first one that is not before the deadline. -/
def Seen (step : σ → ι → σ) (goal : σ → Bool) (deadline : τ) (state : σ)
    (moments : List (Moment ι τ)) : Prop :=
  ∃ before moment after, moments = before ++ moment :: after ∧ Waiting deadline before ∧
    (∃ time, moment = .wake time) ∧ goal (run (Moment.apply step) state before) = true

/-- The goal holds at the first wake-up that is not before the deadline. -/
def SeenLast (step : σ → ι → σ) (goal : σ → Bool) (deadline : τ) (state : σ)
    (moments : List (Moment ι τ)) : Prop :=
  ∃ before moment after, moments = before ++ moment :: after ∧ Waiting deadline before ∧
    (∃ time, moment = .wake time ∧ deadline ≤ time) ∧
    goal (run (Moment.apply step) state before) = true

/-- The goal holds at some moment before the deadline. -/
def Met (step : σ → ι → σ) (goal : σ → Bool) (deadline : τ) (state : σ)
    (moments : List (Moment ι τ)) : Prop :=
  ∃ before after, moments = before ++ after ∧ (∀ moment ∈ before, moment.time < deadline) ∧
    goal (run (Moment.apply step) state before) = true

/-! ## What the caller sees -/

theorem not_seen_nil : ¬ Seen step goal deadline state ([] : List (Moment ι τ)) := by
  rintro ⟨before, moment, after, split, -⟩
  exact List.cons_ne_nil _ _ (List.append_eq_nil_iff.mp split.symm).2

theorem waiting_nil : Waiting deadline ([] : List (Moment ι τ)) := nofun

theorem waiting_arrival_cons {input : ι} :
    Waiting deadline (.arrival time input :: rest) ↔ Waiting deadline rest := by
  simp [Waiting]

theorem waiting_wake_cons :
    Waiting deadline (.wake time :: rest) ↔ time < deadline ∧ Waiting deadline rest := by
  simp [Waiting]

/-- An arrival is no look. -/
theorem seen_arrival_cons {input : ι} :
    Seen step goal deadline state (.arrival time input :: rest) ↔
      Seen step goal deadline (step state input) rest := by
  rw [Seen, exists_split_cons]
  constructor
  · rintro (⟨-, ⟨other, wakes⟩, -⟩ | ⟨before, moment, after, split, waiting, wakes, holds⟩)
    · cases wakes
    · exact ⟨before, moment, after, split, waiting_arrival_cons.mp waiting, wakes, holds⟩
  · rintro ⟨before, moment, after, split, waiting, wakes, holds⟩
    exact Or.inr
      ⟨before, moment, after, split, waiting_arrival_cons.mpr waiting, wakes, holds⟩

/-- A look sees the goal, or leaves it to the next look if the deadline has not passed. -/
theorem seen_wake_cons :
    Seen step goal deadline state (.wake time :: rest) ↔
      goal state = true ∨ time < deadline ∧ Seen step goal deadline state rest := by
  rw [Seen, exists_split_cons]
  constructor
  · rintro (⟨-, -, holds⟩ | ⟨before, moment, after, split, waiting, wakes, holds⟩)
    · exact Or.inl holds
    · obtain ⟨early, waiting⟩ := waiting_wake_cons.mp waiting
      exact Or.inr ⟨early, before, moment, after, split, waiting, wakes, holds⟩
  · rintro (holds | ⟨early, before, moment, after, split, waiting, wakes, holds⟩)
    · exact Or.inl ⟨waiting_nil, ⟨time, rfl⟩, holds⟩
    · exact Or.inr
        ⟨before, moment, after, split, waiting_wake_cons.mpr ⟨early, waiting⟩, wakes, holds⟩

/-- The caller finds the goal exactly when it holds at a look. -/
theorem poll_found_iff :
    (∃ time, poll step goal deadline state moments = some ⟨true, time⟩) ↔
      Seen step goal deadline state moments := by
  induction moments generalizing state with
  | nil => exact iff_of_false (fun ⟨time, ended⟩ => by cases ended) not_seen_nil
  | cons moment rest ih =>
      cases moment with
      | arrival time input => rw [poll, seen_arrival_cons, ih]
      | wake time =>
          rw [poll, seen_wake_cons]
          by_cases holds : goal state = true
          · rw [if_pos holds]
            exact iff_of_true ⟨time, rfl⟩ (Or.inl holds)
          · rw [if_neg holds, or_iff_right holds]
            by_cases passed : deadline ≤ time
            · rw [if_pos passed]
              refine iff_of_false ?_ fun seen => absurd seen.1 (not_lt.mpr passed)
              rintro ⟨stopped, ended⟩
              cases ended
            · rw [if_neg passed, ih]
              exact (and_iff_right (not_le.mp passed)).symm

/-- A goal that holds at a look is found there, or at a look before it. -/
theorem exists_poll_found {before after : List (Moment ι τ)}
    (split : moments = before ++ .wake time :: after) (waiting : Waiting deadline before)
    (holds : goal (run (Moment.apply step) state before) = true) :
    ∃ first, poll step goal deadline state moments = some ⟨true, first⟩ ∧
      (first = time ∨ .wake first ∈ before) := by
  subst split
  induction before generalizing state with
  | nil => exact ⟨time, if_pos holds, Or.inl rfl⟩
  | cons moment rest ih =>
      cases moment with
      | arrival other input =>
          obtain ⟨first, found, place⟩ := ih (waiting_arrival_cons.mp waiting) holds
          exact ⟨first, found, place.imp_right (List.mem_cons_of_mem _)⟩
      | wake other =>
          obtain ⟨early, waiting⟩ := waiting_wake_cons.mp waiting
          rw [List.cons_append, poll]
          by_cases there : goal state = true
          · exact ⟨other, if_pos there, Or.inr List.mem_cons_self⟩
          · rw [if_neg there, if_neg (not_le.mpr early)]
            obtain ⟨first, found, place⟩ := ih waiting holds
            exact ⟨first, found, place.imp_right (List.mem_cons_of_mem _)⟩

/-- The caller only gives up once the deadline has passed. -/
theorem deadline_le_of_not_found
    (ended : poll step goal deadline state moments = some ⟨false, time⟩) : deadline ≤ time := by
  induction moments generalizing state with
  | nil => cases ended
  | cons moment rest ih =>
      cases moment with
      | arrival other input => exact ih ended
      | wake other =>
          rw [poll] at ended
          split at ended
          · cases ended
          · split at ended
            · next passed =>
                cases ended
                exact passed
            · exact ih ended

/-- A wake-up that is not before the deadline ends the wait. -/
theorem exists_poll (late : ∃ time, deadline ≤ time ∧ .wake time ∈ moments) :
    ∃ waited, poll step goal deadline state moments = some waited := by
  obtain ⟨last, passed, member⟩ := late
  induction moments generalizing state with
  | nil => cases member
  | cons moment rest ih =>
      cases moment with
      | arrival other input =>
          rcases List.mem_cons.mp member with same | later
          · cases same
          · exact ih later
      | wake other =>
          rw [poll]
          split
          · exact ⟨_, rfl⟩
          · split
            · exact ⟨_, rfl⟩
            · next early =>
                rcases List.mem_cons.mp member with same | later
                · cases same
                  exact absurd passed early
                · exact ih later

/-! ## What there was to see -/

theorem SeenLast.seen (last : SeenLast step goal deadline state moments) :
    Seen step goal deadline state moments := by
  obtain ⟨before, moment, after, split, waiting, ⟨time, wakes, -⟩, holds⟩ := last
  exact ⟨before, moment, after, split, waiting, ⟨time, wakes⟩, holds⟩

/-- In the order of time, what a look before the deadline sees was there before the
deadline. -/
theorem Seen.met_or_seenLast (ordered : moments.Pairwise fun earlier later =>
      earlier.time ≤ later.time) (seen : Seen step goal deadline state moments) :
    Met step goal deadline state moments ∨ SeenLast step goal deadline state moments := by
  obtain ⟨before, moment, after, split, waiting, ⟨time, rfl⟩, holds⟩ := seen
  rcases lt_or_ge time deadline with early | passed
  · left
    refine ⟨before, .wake time :: after, split, fun moment member => ?_, holds⟩
    rw [split, List.pairwise_append] at ordered
    exact lt_of_le_of_lt (ordered.2.2 moment member (.wake time) List.mem_cons_self) early
  · exact Or.inr ⟨before, .wake time, after, split, waiting, ⟨time, rfl, passed⟩, holds⟩

/-- The caller finds what there was to find before the deadline, exactly when what was
there is there at some look, and what the last look sees was there before the deadline. -/
theorem found_iff_met_iff (ordered : moments.Pairwise fun earlier later =>
      earlier.time ≤ later.time) :
    ((∃ time, poll step goal deadline state moments = some ⟨true, time⟩) ↔
        Met step goal deadline state moments) ↔
      (Met step goal deadline state moments → Seen step goal deadline state moments) ∧
        (SeenLast step goal deadline state moments → Met step goal deadline state moments) := by
  rw [poll_found_iff]
  constructor
  · intro agree
    exact ⟨agree.mpr, fun last => agree.mp last.seen⟩
  · rintro ⟨kept, punctual⟩
    exact ⟨fun seen => (seen.met_or_seenLast ordered).elim id punctual, kept⟩

/-! ## Polling what is told -/

variable {κ ω : Type} {said : ι → Option κ} {next : ω → κ → ω} {project : σ → ω}
variable {Invariant : σ → Prop} {shown : ω → Bool}

/-- A goal that is read off a projection of the state is polled on that projection, which
only the inputs that tell something change. -/
theorem poll_simulated (keeps : ∀ state input, Invariant state → Invariant (step state input))
    (follows : ∀ state input, Invariant state →
      project (step state input) = (said input).elim (project state) (next (project state)))
    (sees : ∀ state, Invariant state → goal state = shown (project state))
    (holds : Invariant state) :
    poll step goal deadline state moments =
      poll next shown deadline (project state) (moments.filterMap (Moment.told said)) := by
  induction moments generalizing state with
  | nil => rfl
  | cons moment rest ih =>
      cases moment with
      | arrival time input =>
          have after := ih (keeps state input holds)
          rw [follows state input holds] at after
          rw [poll, after, List.filterMap_cons, Moment.told]
          cases said input with
          | none => rfl
          | some word => rfl
      | wake time =>
          rw [List.filterMap_cons, Moment.told]
          dsimp only
          rw [poll, poll, sees state holds, ih holds]

end Library
