import Mathlib.Tactic.Common

/-!
# Computations that may fail and leave events behind

A computation carries the events it caused before it returned or failed.  What
it returns can be read apart from its events, and a property of every event is
established part by part.
-/

namespace Library

/-- An outcome, and the events up to it. -/
structure Logged (ε event α : Type) where
  events : List event
  outcome : Except ε α

namespace Logged

variable {ε event α β : Type}

/-- A result without events. -/
def lift (outcome : Except ε α) : Logged ε event α := ⟨[], outcome⟩

/-- One event, and what comes of it. -/
def emit (cause : event) (outcome : Except ε α) : Logged ε event α := ⟨[cause], outcome⟩

/-- What follows a success happens after it, and nothing follows a failure. -/
def andThen (first : Logged ε event α) (next : α → Logged ε event β) : Logged ε event β :=
  match first.outcome with
  | .ok value => ⟨first.events ++ (next value).events, (next value).outcome⟩
  | .error reason => ⟨first.events, .error reason⟩

instance : Monad (Logged ε event) where
  pure value := lift (.ok value)
  bind := andThen

/-- The outcomes of the parts make the outcome of the whole. -/
theorem outcome_bind (first : Logged ε event α) (next : α → Logged ε event β) :
    (first >>= next).outcome = first.outcome >>= fun value => (next value).outcome := by
  change (andThen first next).outcome = _
  rw [andThen]
  cases first.outcome with
  | error reason => rfl
  | ok value => rfl

@[simp]
theorem outcome_lift (outcome : Except ε α) :
    (lift outcome : Logged ε event α).outcome = outcome := rfl

@[simp]
theorem outcome_pure (value : α) : (pure value : Logged ε event α).outcome = .ok value := rfl

@[simp]
theorem outcome_emit (cause : event) (outcome : Except ε α) :
    (emit cause outcome).outcome = outcome := rfl

/-- The events before what follows stay. -/
theorem mem_bind_of_mem {cause : event} {first : Logged ε event α}
    {next : α → Logged ε event β} (before : cause ∈ first.events) :
    cause ∈ (first >>= next).events := by
  change cause ∈ (andThen first next).events
  rw [andThen]
  cases first.outcome with
  | error reason => exact before
  | ok value => exact List.mem_append_left _ before

/-- The events after a success are caused. -/
theorem mem_bind_of_ok {cause : event} {first : Logged ε event α} {value : α}
    {next : α → Logged ε event β} (succeeds : first.outcome = .ok value)
    (after : cause ∈ (next value).events) : cause ∈ (first >>= next).events := by
  change cause ∈ (andThen first next).events
  rw [andThen, succeeds]
  exact List.mem_append_right _ after

/-! ## Properties of every event -/

/-- A property of all the events a computation causes. -/
def Every (allowed : event → Prop) (run : Logged ε event α) : Prop :=
  ∀ cause ∈ run.events, allowed cause

variable {allowed : event → Prop}

@[simp]
theorem every_lift (outcome : Except ε α) :
    Every allowed (lift outcome : Logged ε event α) :=
  List.forall_mem_nil _

@[simp]
theorem every_pure (value : α) : Every allowed (pure value : Logged ε event α) :=
  List.forall_mem_nil _

@[simp]
theorem every_emit {cause : event} {outcome : Except ε α} :
    Every allowed (emit cause outcome) ↔ allowed cause :=
  List.forall_mem_singleton

/-- What follows a part matters only after it has succeeded. -/
theorem every_bind {first : Logged ε event α} {next : α → Logged ε event β} :
    Every allowed (first >>= next) ↔
      Every allowed first ∧ ∀ value, first.outcome = .ok value → Every allowed (next value) := by
  change Every allowed (andThen first next) ↔ _
  rw [andThen]
  cases outcome : first.outcome with
  | error reason =>
      refine ⟨fun every => ⟨every, ?_⟩, fun both => both.1⟩
      rintro value ⟨⟩
  | ok value =>
      rw [Every, List.forall_mem_append]
      refine and_congr_right fun _ => ?_
      constructor
      · rintro later other ⟨⟩
        exact later
      · intro later
        exact later value rfl

end Logged

end Library
