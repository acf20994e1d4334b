import Mathlib.Data.Finset.Lattice.Lemmas
import Mathlib.Data.List.Infix

/-!
# Enrolling what is present

A collection is looked at again and again, and at each look a factory is called for
every key that was not there at an earlier one.  As long as the collection only grows
at its end, what has been made is what the factory makes for its keys, in their order
and once each.
-/

namespace Library

/-- The keys that were seen, and what was made for them: one batch for each look that
found something to make. -/
structure Enrolment (κ β : Type) where
  seen : Finset κ
  batches : List (List β)

namespace Enrolment

variable {κ β : Type}

/-- Nothing has been looked at. -/
def empty : Enrolment κ β := ⟨∅, []⟩

/-- Everything that was made, oldest first. -/
def made (enrolment : Enrolment κ β) : List β := enrolment.batches.flatten

variable [DecidableEq κ]

/-- Take one key, unless it was seen. -/
def take (factory : κ → List β) (taken : Finset κ × List β) (key : κ) : Finset κ × List β :=
  if key ∈ taken.1 then taken else (insert key taken.1, taken.2 ++ factory key)

/-- Look at the keys that are present; a look that makes nothing adds no batch. -/
def look (factory : κ → List β) (enrolment : Enrolment κ β) (present : List κ) :
    Enrolment κ β :=
  let taken := present.foldl (take factory) (enrolment.seen, [])
  { seen := taken.1
    batches :=
      if taken.2.isEmpty then enrolment.batches else enrolment.batches ++ [taken.2] }

variable {factory : κ → List β} {enrolment : Enrolment κ β} {before present : List κ}

/-- Of keys that are all seen, none is taken. -/
theorem foldl_take_of_seen {taken : Finset κ × List β} (known : ∀ key ∈ present, key ∈ taken.1) :
    present.foldl (take factory) taken = taken := by
  induction present with
  | nil => rfl
  | cons key rest ih =>
      obtain ⟨first, others⟩ := List.forall_mem_cons.mp known
      rw [List.foldl_cons, take, if_pos first]
      exact ih others

/-- Of distinct keys that are all new, each is taken. -/
theorem foldl_take_of_new {taken : Finset κ × List β} (distinct : present.Nodup)
    (fresh : ∀ key ∈ present, key ∉ taken.1) :
    present.foldl (take factory) taken =
      (taken.1 ∪ present.toFinset, taken.2 ++ present.flatMap factory) := by
  induction present generalizing taken with
  | nil => rw [List.foldl_nil, List.toFinset_nil, Finset.union_empty, List.flatMap_nil,
      List.append_nil]
  | cons key rest ih =>
      obtain ⟨first, others⟩ := List.forall_mem_cons.mp fresh
      obtain ⟨absent, distinct⟩ := List.nodup_cons.mp distinct
      rw [List.foldl_cons, take, if_neg first, ih distinct]
      · rw [List.toFinset_cons, List.flatMap_cons, List.append_assoc, Finset.insert_union,
          Finset.union_insert]
      · intro later member
        rw [Finset.mem_insert, not_or]
        refine ⟨?_, others later member⟩
        rintro rfl
        exact absent member

/-- A batch is made of what a look takes. -/
theorem made_look (factory : κ → List β) (enrolment : Enrolment κ β) (present : List κ) :
    (enrolment.look factory present).made =
      enrolment.made ++ (present.foldl (take factory) (enrolment.seen, [])).2 := by
  unfold look made
  dsimp only
  split
  · next nothing =>
      rw [List.isEmpty_iff.mp nothing, List.append_nil]
  · rw [List.flatten_append, List.flatten_singleton]

/-! ## What has been enrolled -/

/-- What has been made is what the factory makes for some keys, in their order. -/
structure Covers (factory : κ → List β) (enrolment : Enrolment κ β) (keys : List κ) : Prop where
  seen : enrolment.seen = keys.toFinset
  made : enrolment.made = keys.flatMap factory

theorem Covers.empty (factory : κ → List β) : Covers factory .empty [] := ⟨rfl, rfl⟩

/-- A look at a collection that has grown at its end covers all of it. -/
theorem Covers.look (covers : enrolment.Covers factory before) (grown : before <+: present)
    (distinct : present.Nodup) : (enrolment.look factory present).Covers factory present := by
  obtain ⟨later, rfl⟩ := grown
  obtain ⟨-, distinct, apart⟩ := List.nodup_append.mp distinct
  have known : ∀ key ∈ before, key ∈ enrolment.seen := by
    intro key member
    rw [covers.seen]
    exact List.mem_toFinset.mpr member
  have fresh : ∀ key ∈ later, key ∉ enrolment.seen := by
    intro key member seen
    rw [covers.seen, List.mem_toFinset] at seen
    exact apart key seen key member rfl
  have taken : (before ++ later).foldl (take factory) (enrolment.seen, []) =
      (enrolment.seen ∪ later.toFinset, later.flatMap factory) := by
    have nothing : before.foldl (take factory) (enrolment.seen, []) = (enrolment.seen, []) :=
      foldl_take_of_seen known
    rw [List.foldl_append, nothing, foldl_take_of_new distinct fresh, List.nil_append]
  constructor
  · change ((before ++ later).foldl (take factory) (enrolment.seen, [])).1 = _
    rw [taken, covers.seen, List.toFinset_append]
  · rw [made_look, taken, covers.made, List.flatMap_append]

end Enrolment

end Library
