/-!
# Following answers for a bounded number of rounds

A value that is still going is answered by the next one, for so many rounds at
most.  What each end of the loop says about the answers that were met is an
equivalence, so a caller never unfolds the loop.
-/

namespace Library

variable {α : Type}

/-- How a bounded loop ends: at a value that is not going, with the rounds used
up, or where there is no answer. -/
inductive Pursued (α : Type) where
  | settled (value : α)
  | exhausted (value : α)
  | failed
  deriving DecidableEq, Repr

/-- Follow the answers from the one with a number on, while the value is going. -/
def pursue (going : α → Bool) (answers : Nat → Option α) : Nat → Nat → α → Pursued α
  | 0, _, value => .exhausted value
  | rounds + 1, asked, value =>
      if going value then
        match answers asked with
        | none => .failed
        | some next => pursue going answers rounds (asked + 1) next
      else .settled value

/-- The value at the beginning of each round. -/
def metAt (answers : Nat → Option α) (asked : Nat) (value : α) : Nat → Option α
  | 0 => some value
  | round + 1 => answers (asked + round)

/-- A value is met in a round, and those before it were going. -/
structure MetIn (going : α → Bool) (met : Nat → Option α) (round : Nat) (value : α) : Prop where
  here : met round = some value
  before : ∀ earlier, earlier < round → ∃ other, met earlier = some other ∧ going other = true

variable {going : α → Bool} {answers : Nat → Option α} {asked round : Nat} {value next found : α}

/-- Past the first round the values are those of the rest of the answers. -/
theorem metAt_succ (answered : answers asked = some next) (round : Nat) :
    metAt answers asked value (round + 1) = metAt answers (asked + 1) next round := by
  cases round with
  | zero => exact answered
  | succ round =>
      rw [metAt, metAt, Nat.add_assoc, Nat.add_comm 1 round]

theorem metIn_zero_iff : MetIn going (metAt answers asked value) 0 found ↔ value = found := by
  constructor
  · rintro ⟨here, -⟩
    exact Option.some.inj here
  · rintro rfl
    exact ⟨rfl, fun earlier bound => absurd bound (Nat.not_lt_zero earlier)⟩

theorem metIn_succ_iff (answered : answers asked = some next) :
    MetIn going (metAt answers asked value) (round + 1) found ↔
      going value = true ∧ MetIn going (metAt answers (asked + 1) next) round found := by
  constructor
  · rintro ⟨here, before⟩
    obtain ⟨other, first, moving⟩ := before 0 (Nat.succ_pos round)
    cases first
    refine ⟨moving, (metAt_succ answered round).symm.trans here, fun earlier bound => ?_⟩
    have later := before (earlier + 1) (Nat.succ_lt_succ bound)
    rwa [metAt_succ answered] at later
  · rintro ⟨moving, here, before⟩
    refine ⟨(metAt_succ answered round).trans here, fun earlier bound => ?_⟩
    cases earlier with
    | zero => exact ⟨value, rfl, moving⟩
    | succ earlier =>
        rw [metAt_succ answered]
        exact before earlier (Nat.lt_of_succ_lt_succ bound)

/-- Without a first answer no later round is reached. -/
theorem not_metIn_succ (missing : answers asked = none) :
    ¬ MetIn going (metAt answers asked value) (round + 1) found := by
  rintro ⟨here, before⟩
  cases round with
  | zero =>
      rw [metAt, Nat.add_zero, missing] at here
      cases here
  | succ round =>
      obtain ⟨other, early, -⟩ := before 1 (Nat.succ_lt_succ (Nat.succ_pos round))
      rw [metAt, Nat.add_zero, missing] at early
      cases early

/-- The loop settles at the first value that is not going, if a round is left for
it. -/
theorem pursue_eq_settled_iff {rounds : Nat} :
    pursue going answers rounds asked value = .settled found ↔
      going found = false ∧
        ∃ round, round < rounds ∧ MetIn going (metAt answers asked value) round found := by
  induction rounds generalizing asked value with
  | zero => simp [pursue]
  | succ rounds ih =>
      rw [pursue]
      cases moving : going value with
      | false =>
          rw [if_neg Bool.false_ne_true]
          constructor
          · rintro ⟨⟩
            exact ⟨moving, 0, Nat.succ_pos rounds, metIn_zero_iff.mpr rfl⟩
          · rintro ⟨-, round, -, met⟩
            cases round with
            | zero => rw [metIn_zero_iff.mp met]
            | succ round =>
                -- A later round is only reached from a value that was going.
                obtain ⟨other, first, went⟩ := met.before 0 (Nat.succ_pos round)
                cases first
                rw [moving] at went
                cases went
      | true =>
          rw [if_pos rfl]
          cases answered : answers asked with
          | none =>
              refine iff_of_false (fun settled => by cases settled) ?_
              rintro ⟨stopped, round, -, met⟩
              cases round with
              | zero =>
                  rw [← metIn_zero_iff.mp met, moving] at stopped
                  cases stopped
              | succ round => exact not_metIn_succ answered met
          | some next =>
              dsimp only
              rw [ih]
              refine and_congr_right fun stopped => ?_
              constructor
              · rintro ⟨round, bound, met⟩
                exact ⟨round + 1, Nat.succ_lt_succ bound, (metIn_succ_iff answered).mpr ⟨moving, met⟩⟩
              · rintro ⟨round, bound, met⟩
                cases round with
                | zero =>
                    rw [← metIn_zero_iff.mp met, moving] at stopped
                    cases stopped
                | succ round =>
                    exact ⟨round, Nat.lt_of_succ_lt_succ bound,
                      ((metIn_succ_iff answered).mp met).2⟩

/-- The rounds are used up when every value met in them was going; the value that
is left was not looked at. -/
theorem pursue_eq_exhausted_iff {rounds : Nat} :
    pursue going answers rounds asked value = .exhausted found ↔
      MetIn going (metAt answers asked value) rounds found := by
  induction rounds generalizing asked value with
  | zero =>
      rw [metIn_zero_iff, pursue]
      constructor
      · rintro ⟨⟩
        rfl
      · rintro rfl
        rfl
  | succ rounds ih =>
      rw [pursue]
      cases moving : going value with
      | false =>
          rw [if_neg Bool.false_ne_true]
          refine iff_of_false (fun exhausted => by cases exhausted) fun met => ?_
          obtain ⟨other, first, went⟩ := met.before 0 (Nat.succ_pos rounds)
          cases first
          rw [moving] at went
          cases went
      | true =>
          rw [if_pos rfl]
          cases answered : answers asked with
          | none => exact iff_of_false (fun exhausted => by cases exhausted) (not_metIn_succ answered)
          | some next =>
              dsimp only
              rw [ih, metIn_succ_iff answered, and_iff_right moving]

/-- The loop fails when an answer is missing to a value that is going. -/
theorem pursue_eq_failed_iff {rounds : Nat} :
    pursue going answers rounds asked value = .failed ↔
      ∃ round other, round < rounds ∧ MetIn going (metAt answers asked value) round other ∧
        going other = true ∧ answers (asked + round) = none := by
  induction rounds generalizing asked value with
  | zero => simp [pursue]
  | succ rounds ih =>
      rw [pursue]
      cases moving : going value with
      | false =>
          rw [if_neg Bool.false_ne_true]
          refine iff_of_false (fun failed => by cases failed) ?_
          rintro ⟨round, other, -, met, went, -⟩
          cases round with
          | zero =>
              rw [← metIn_zero_iff.mp met, moving] at went
              cases went
          | succ round =>
              obtain ⟨first, begun, early⟩ := met.before 0 (Nat.succ_pos round)
              cases begun
              rw [moving] at early
              cases early
      | true =>
          rw [if_pos rfl]
          cases answered : answers asked with
          | none =>
              exact iff_of_true rfl
                ⟨0, value, Nat.succ_pos rounds, metIn_zero_iff.mpr rfl, moving, answered⟩
          | some next =>
              dsimp only
              rw [ih]
              constructor
              · rintro ⟨round, other, bound, met, went, missing⟩
                refine ⟨round + 1, other, Nat.succ_lt_succ bound,
                  (metIn_succ_iff answered).mpr ⟨moving, met⟩, went, ?_⟩
                rw [Nat.add_comm round 1, ← Nat.add_assoc]
                exact missing
              · rintro ⟨round, other, bound, met, went, missing⟩
                cases round with
                | zero =>
                    rw [Nat.add_zero, answered] at missing
                    cases missing
                | succ round =>
                    refine ⟨round, other, Nat.lt_of_succ_lt_succ bound,
                      ((metIn_succ_iff answered).mp met).2, went, ?_⟩
                    rw [Nat.add_assoc, Nat.add_comm 1 round]
                    exact missing

end Library
