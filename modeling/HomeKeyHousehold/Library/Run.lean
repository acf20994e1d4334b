import Mathlib.Data.List.Infix

/-!
# Runs of a deterministic machine

A machine is a step function on states and inputs.  `run` feeds it a list of
inputs, and `Along` says that a condition on (state before, input) holds at
every step of that run.  Results about whole runs are proved once here from
what one step does.
-/

namespace Library

variable {σ ι : Type} {step : σ → ι → σ} {Condition Result : σ → ι → Prop}
variable {Invariant : σ → Prop}

/-- The state after a list of inputs. -/
def run (step : σ → ι → σ) (start : σ) (inputs : List ι) : σ :=
  inputs.foldl step start

/-- A condition on the state before a step and its input, at every step. -/
def Along (step : σ → ι → σ) (Condition : σ → ι → Prop) : σ → List ι → Prop
  | _, [] => True
  | state, input :: rest =>
      Condition state input ∧ Along step Condition (step state input) rest

/-- A condition that can be checked at a step can be checked along a run. -/
instance decidableAlong [∀ state input, Decidable (Condition state input)] :
    ∀ (start : σ) (inputs : List ι), Decidable (Along step Condition start inputs)
  | _, [] => .isTrue trivial
  | start, input :: rest =>
      have := decidableAlong (step start input) rest
      inferInstanceAs (Decidable (Condition start input ∧ Along step Condition _ rest))

@[simp]
theorem run_nil (start : σ) : run step start [] = start := rfl

@[simp]
theorem run_cons (start : σ) (input : ι) (rest : List ι) :
    run step start (input :: rest) = run step (step start input) rest := rfl

theorem run_append (start : σ) (first second : List ι) :
    run step start (first ++ second) = run step (run step start first) second :=
  List.foldl_append

theorem run_concat (start : σ) (inputs : List ι) (last : ι) :
    run step start (inputs ++ [last]) = step (run step start inputs) last := by
  rw [run_append, run_cons, run_nil]

/-- A machine that only keeps its inputs. -/
theorem run_appended (start inputs : List ι) :
    run (fun kept input => kept ++ [input]) start inputs = start ++ inputs := by
  induction inputs generalizing start with
  | nil => exact (List.append_nil start).symm
  | cons input rest ih => rw [run_cons, ih, List.append_assoc, List.singleton_append]

/-- A place in a list is its end or one before. -/
theorem exists_split_concat {P : List ι → ι → List ι → Prop} {inputs : List ι} {last : ι} :
    (∃ before input after, inputs ++ [last] = before ++ input :: after ∧ P before input after) ↔
      P inputs last [] ∨
        ∃ before input after, inputs = before ++ input :: after ∧
          P before input (after ++ [last]) := by
  constructor
  · rintro ⟨before, input, after, split, holds⟩
    rcases List.eq_nil_or_concat' after with rfl | ⟨rest, ending, rfl⟩
    · obtain ⟨rfl, same⟩ := List.append_inj' split rfl
      cases same
      exact Or.inl holds
    · rw [← List.cons_append, ← List.append_assoc] at split
      obtain ⟨rfl, same⟩ := List.append_inj' split rfl
      cases same
      exact Or.inr ⟨before, input, rest, rfl, holds⟩
  · rintro (holds | ⟨before, input, after, rfl, holds⟩)
    · exact ⟨inputs, last, [], rfl, holds⟩
    · exact ⟨before, input, after ++ [last], by simp, holds⟩

/-- A place in a list is its head or one after it. -/
theorem exists_split_cons {P : List ι → ι → List ι → Prop} {first : ι} {rest : List ι} :
    (∃ before input after, first :: rest = before ++ input :: after ∧ P before input after) ↔
      P [] first rest ∨
        ∃ before input after, rest = before ++ input :: after ∧ P (first :: before) input after := by
  constructor
  · rintro ⟨before, input, after, split, holds⟩
    cases before with
    | nil =>
        cases split
        exact Or.inl holds
    | cons head before =>
        obtain ⟨same, remains⟩ := List.cons.inj split
        subst same
        exact Or.inr ⟨before, input, after, remains, holds⟩
  · rintro (holds | ⟨before, input, after, rfl, holds⟩)
    · exact ⟨[], first, rest, rfl, holds⟩
    · exact ⟨first :: before, input, after, rfl, holds⟩

/-- A condition on the input alone holds along a run when it holds of the inputs. -/
theorem along_iff_forall {Allowed : ι → Prop} {start : σ} {inputs : List ι} :
    Along step (fun _ input => Allowed input) start inputs ↔ ∀ input ∈ inputs, Allowed input := by
  induction inputs generalizing start with
  | nil => simp [Along]
  | cons input rest ih => rw [Along, ih, List.forall_mem_cons]

theorem along_of_forall {Allowed : ι → Prop} {inputs : List ι}
    (allowed : ∀ input ∈ inputs, Allowed input) (start : σ) :
    Along step (fun _ input => Allowed input) start inputs :=
  along_iff_forall.mpr allowed

theorem along_append {start : σ} {first second : List ι} :
    Along step Condition start (first ++ second) ↔
      Along step Condition start first ∧ Along step Condition (run step start first) second := by
  induction first generalizing start with
  | nil => simp [Along]
  | cons input rest ih => rw [List.cons_append, Along, Along, ih, run_cons, and_assoc]

theorem Along.and {start : σ} {inputs : List ι} (first : Along step Condition start inputs)
    (second : Along step Result start inputs) :
    Along step (fun state input => Condition state input ∧ Result state input) start inputs := by
  induction inputs generalizing start with
  | nil => trivial
  | cons input rest ih => exact ⟨⟨first.1, second.1⟩, ih first.2 second.2⟩

/-- The run rule: an invariant that every admitted step keeps holds at the end
of every run whose steps are all admitted. -/
theorem run_invariant
    (keeps : ∀ state input, Invariant state → Condition state input →
      Invariant (step state input))
    {start : σ} {inputs : List ι} (initially : Invariant start)
    (along : Along step Condition start inputs) :
    Invariant (run step start inputs) := by
  induction inputs generalizing start with
  | nil => exact initially
  | cons input rest ih => exact ih (keeps start input initially along.1) along.2

/-- An invariant that every step keeps holds at the end of every run. -/
theorem run_keeps (keeps : ∀ state input, Invariant state → Invariant (step state input))
    {start : σ} (initially : Invariant start) (inputs : List ι) :
    Invariant (run step start inputs) :=
  @run_invariant _ _ step (fun _ _ => True) Invariant
    (fun state input invariant _ => keeps state input invariant) start inputs initially
    (along_of_forall (fun _ _ => trivial) start)

/-- What an invariant gives at one admitted step holds at every step. -/
theorem Along.of_invariant
    (keeps : ∀ state input, Invariant state → Condition state input →
      Invariant (step state input))
    (gives : ∀ state input, Invariant state → Condition state input → Result state input)
    {start : σ} {inputs : List ι} (initially : Invariant start)
    (along : Along step Condition start inputs) : Along step Result start inputs := by
  induction inputs generalizing start with
  | nil => trivial
  | cons input rest ih =>
      exact ⟨gives start input initially along.1,
        ih (keeps start input initially along.1) along.2⟩

/-- Conditions that agree at every state satisfying an invariant agree along every
run from such a state, when the steps that meet them keep the invariant. -/
theorem along_congr_of_kept
    (keeps : ∀ state input, Invariant state → Condition state input →
      Invariant (step state input))
    (agree : ∀ state input, Invariant state → (Condition state input ↔ Result state input))
    {start : σ} {inputs : List ι} (initially : Invariant start) :
    Along step Condition start inputs ↔ Along step Result start inputs := by
  induction inputs generalizing start with
  | nil => exact Iff.rfl
  | cons input rest ih =>
      rw [Along, Along, ← agree start input initially]
      exact and_congr_right fun met => ih (keeps start input initially met)

/-- Conditions that agree at every state satisfying an invariant of all steps
agree along every run from such a state. -/
theorem along_congr
    (keeps : ∀ state input, Invariant state → Invariant (step state input))
    (agree : ∀ state input, Invariant state → (Condition state input ↔ Result state input))
    {start : σ} {inputs : List ι} (initially : Invariant start) :
    Along step Condition start inputs ↔ Along step Result start inputs :=
  along_congr_of_kept (fun state input invariant _ => keeps state input invariant) agree initially

/-- Conditions that agree everywhere agree along every run. -/
theorem along_iff (agree : ∀ state input, Condition state input ↔ Result state input)
    {start : σ} {inputs : List ι} :
    Along step Condition start inputs ↔ Along step Result start inputs :=
  @along_congr _ _ step Condition Result (fun _ => True) (fun _ _ _ => trivial)
    (fun state input _ => agree state input) start inputs trivial

/-- A property that is never regained holds at the end of a run exactly when every
step met the condition under which a step keeps it. -/
theorem run_iff_along {Property : σ → Prop}
    (keeps : ∀ state input, Invariant state → Invariant (step state input))
    (lasting : ∀ state input, Property (step state input) → Property state)
    (agree : ∀ state input, Invariant state → Property state →
      (Property (step state input) ↔ Condition state input))
    {start : σ} {inputs : List ι} (initially : Invariant start) (holds : Property start) :
    Property (run step start inputs) ↔ Along step Condition start inputs := by
  have early {state : σ} {rest : List ι} (final : Property (run step state rest)) :
      Property state := by
    induction rest generalizing state with
    | nil => exact final
    | cons input rest ih => exact lasting state input (ih final)
  induction inputs generalizing start with
  | nil => exact iff_of_true holds trivial
  | cons input rest ih =>
      rw [run_cons, Along]
      constructor
      · intro final
        have after := early final
        exact ⟨(agree start input initially holds).mp after,
          (ih (keeps start input initially) after).mp final⟩
      · rintro ⟨met, along⟩
        exact (ih (keeps start input initially)
          ((agree start input initially holds).mpr met)).mpr along

/-- A property that each step keeps under a condition, and no step otherwise, holds in every
state of a run exactly when every step met the condition. -/
theorem along_iff_reached {Property : σ → Prop}
    (agree : ∀ state input, Property state → (Property (step state input) ↔ Condition state input))
    {start : σ} {inputs : List ι} (holds : Property start) :
    Along step Condition start inputs ↔
      ∀ before after, inputs = before ++ after → Property (run step start before) := by
  constructor
  · intro along before after split
    rw [split, along_append] at along
    exact run_invariant (fun state input kept met => (agree state input kept).mpr met) holds along.1
  · intro reached
    induction inputs generalizing start with
    | nil => trivial
    | cons input rest ih =>
        have next : Property (step start input) := reached [input] rest rfl
        refine ⟨(agree start input holds).mp next, ih next fun before after split => ?_⟩
        rw [← run_cons]
        exact reached (input :: before) after (by rw [split, List.cons_append])

/-! ## Two runs -/

section

variable {visible : ι → Bool} {Agrees : σ → σ → Prop}

/-- Inputs that are not visible keep a relation to another state. -/
theorem run_unseen
    (unseen : ∀ left right input, Agrees left right → visible input = false →
      Condition left input → Agrees (step left input) right)
    {left right : σ} {inputs : List ι} (hidden : ∀ input ∈ inputs, visible input = false)
    (agrees : Agrees left right) (along : Along step Condition left inputs) :
    Agrees (run step left inputs) right := by
  induction inputs generalizing left with
  | nil => exact agrees
  | cons input rest ih =>
      exact ih (fun later member => hidden later (List.mem_cons_of_mem input member))
        (unseen left right input agrees (hidden input List.mem_cons_self) along.1) along.2

/-- The rule for two runs that differ in what is not visible: their states stay
related when an input that is not visible keeps the relation on its side, and a
visible one that both receive keeps it. -/
theorem run_agree (symm : ∀ left right, Agrees left right → Agrees right left)
    (unseen : ∀ left right input, Agrees left right → visible input = false →
      Condition left input → Agrees (step left input) right)
    (seen : ∀ left right input, Agrees left right → visible input = true →
      Condition left input → Condition right input → Agrees (step left input) (step right input))
    {left right : σ} {first second : List ι}
    (same : first.filter visible = second.filter visible) (agrees : Agrees left right)
    (one : Along step Condition left first) (two : Along step Condition right second) :
    Agrees (run step left first) (run step right second) := by
  induction first generalizing left right second with
  | nil =>
      have hidden : ∀ input ∈ second, visible input = false := by
        simpa using List.filter_eq_nil_iff.mp same.symm
      exact symm _ _ (run_unseen unseen hidden (symm _ _ agrees) two)
  | cons input rest ih =>
      cases shown : visible input with
      | false =>
          rw [List.filter_cons_of_neg (by simp [shown])] at same
          exact ih same (unseen left right input agrees shown one.1) one.2 two
      | true =>
          rw [List.filter_cons_of_pos shown] at same
          -- The other run receives the same input after some that are not visible.
          obtain ⟨before, after, rfl, hidden, -, later⟩ := List.filter_eq_cons_iff.mp same.symm
          obtain ⟨early, at_input, late⟩ := along_append.mp two
          have waiting := run_unseen unseen (by simpa using hidden) (symm _ _ agrees) early
          rw [run_append, run_cons, run_cons]
          exact ih later.symm
            (seen left _ input (symm _ _ waiting) shown one.1 at_input) one.2 late

end

end Library
