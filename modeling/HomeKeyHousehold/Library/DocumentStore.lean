import HomeKeyHousehold.Library.Run

/-!
# A store that keeps one document

What a file is to hold is handed over as one document, again and again, and gets into the
file some time later or not at all.  A store is whatever does this, with the writes that
ended and the calls that returned to be seen.  What it promises is a condition on its runs,
and the results here rest on that promise alone.  A document and the call that hands it over
have the same number, from 1 on; 0 is the number of what the file held at first.
-/

namespace Library

/-- A write that ended, with the number of the document it was to write. -/
structure WriteAttempt where
  number : Nat
  succeeded : Bool
  deriving DecidableEq, Repr

/-- A store of documents. -/
structure DocumentStore (α : Type) where
  State : Type
  /-- Whatever goes on in it between the calls. -/
  Progress : Type
  /-- A store that was just opened on what its file holds. -/
  opened : α → State
  save : State → α → State
  advance : State → Progress → State
  file : State → α
  attempts : State → List WriteAttempt
  returned : State → List Nat

namespace DocumentStore

variable {α : Type}

/-- What happens to a store: a document is handed over, or it goes on. -/
inductive Event (store : DocumentStore α) where
  | save (document : α)
  | advance (progress : store.Progress)

def step (store : DocumentStore α) (state : store.State) : store.Event → store.State
  | .save document => store.save state document
  | .advance progress => store.advance state progress

variable {store : DocumentStore α}

def Event.document : store.Event → Option α
  | .save document => some document
  | .advance _ => none

/-- The documents that are handed over. -/
def documents (events : List store.Event) : List α := events.filterMap Event.document

/-- A store after what happened since it was opened. -/
def after (store : DocumentStore α) (first : α) (events : List store.Event) : store.State :=
  run store.step (store.opened first) events

/-- The number of the document that is in the file after some writes. -/
def written (attempts : List WriteAttempt) : Nat :=
  attempts.foldl (fun held attempt => if attempt.succeeded then attempt.number else held) 0

/-- The write that took a document failed, and no later one succeeded. -/
structure Lost (attempts : List WriteAttempt) (number : Nat) : Prop where
  tried : ∃ attempt ∈ attempts, number ≤ attempt.number
  failed : ∀ attempt ∈ attempts, number ≤ attempt.number → attempt.succeeded = false

/-- What a store promises. -/
structure Documented (store : DocumentStore α) : Prop where
  /-- The file holds the document of the last write that succeeded, and all of it. -/
  whole : ∀ first events,
    (first :: documents events)[written (store.attempts (store.after first events))]? =
      some (store.file (store.after first events))
  /-- Documents are written in the order in which they were handed over. -/
  ordered : ∀ first events, (store.attempts (store.after first events)).Pairwise
    fun earlier later => earlier.number ≤ later.number
  /-- Only documents that were handed over are written. -/
  given : ∀ first events, ∀ attempt ∈ store.attempts (store.after first events),
    attempt.number ≤ (documents events).length
  /-- A call returns when the write of its document, or of a later one, has ended. -/
  tried : ∀ first events, ∀ call ∈ store.returned (store.after first events),
    0 < call ∧ ∃ attempt ∈ store.attempts (store.after first events), call ≤ attempt.number

/-! ## What is in the file -/

variable {attempts : List WriteAttempt} {attempt : WriteAttempt} {first : α} {events : List store.Event}

theorem documents_append (earlier later : List store.Event) :
    documents (earlier ++ later) = documents earlier ++ documents later :=
  List.filterMap_append

theorem documents_concat (events : List store.Event) (event : store.Event) :
    documents (events ++ [event]) = documents events ++ event.document.toList := by
  rw [documents_append]
  cases event <;> rfl

/-- What goes on in a store hands nothing over. -/
theorem documents_advances (progress : List store.Progress) :
    documents (progress.map (Event.advance : _ → store.Event)) = [] := by
  rw [documents, List.filterMap_eq_nil_iff]
  intro event member
  obtain ⟨made, -, rfl⟩ := List.mem_map.mp member
  rfl

theorem written_concat (attempts : List WriteAttempt) (attempt : WriteAttempt) :
    written (attempts ++ [attempt]) =
      if attempt.succeeded then attempt.number else written attempts := by
  rw [written, List.foldl_append]
  rfl

/-- A document that was written is in the file, or a later one is. -/
theorem le_written (ordered : attempts.Pairwise fun earlier later => earlier.number ≤ later.number)
    (member : attempt ∈ attempts) (succeeded : attempt.succeeded = true) :
    attempt.number ≤ written attempts := by
  induction attempts using List.reverseRecOn with
  | nil => cases member
  | append_singleton earlier last ih =>
      obtain ⟨sorted, -, below⟩ := List.pairwise_append.mp ordered
      rw [written_concat]
      rcases List.mem_append.mp member with before | same
      · split
        · exact below attempt before last List.mem_cons_self
        · exact ih sorted before
      · rw [List.mem_singleton.mp same] at succeeded ⊢
        rw [if_pos succeeded]

/-- A call that returned has its document in the file, or a later one, unless that was lost. -/
theorem Documented.written_or_lost (documented : store.Documented) {call : Nat}
    (returned : call ∈ store.returned (store.after first events)) :
    call ≤ written (store.attempts (store.after first events)) ∨
      Lost (store.attempts (store.after first events)) call := by
  obtain ⟨-, attempt, member, later⟩ := documented.tried first events call returned
  by_cases won : ∃ attempt ∈ store.attempts (store.after first events),
      call ≤ attempt.number ∧ attempt.succeeded = true
  · obtain ⟨winner, attempted, takes, succeeded⟩ := won
    exact Or.inl (Nat.le_trans takes
      (le_written (documented.ordered first events) attempted succeeded))
  · refine Or.inr ⟨⟨attempt, member, later⟩, fun other attempted takes => ?_⟩
    exact Bool.eq_false_iff.mpr fun succeeded => won ⟨other, attempted, takes, succeeded⟩

/-- The file never holds a document that was not handed over. -/
theorem Documented.written_le (documented : store.Documented) (first : α)
    (events : List store.Event) :
    written (store.attempts (store.after first events)) ≤ (documents events).length := by
  obtain ⟨bounded, -⟩ := List.getElem?_eq_some_iff.mp (documented.whole first events)
  exact Nat.le_of_lt_succ bounded

/-- When every call returned and nothing was lost, the file holds what was handed over last. -/
theorem Documented.written_eq (documented : store.Documented)
    (finished : ∀ call, 0 < call → call ≤ (documents events).length →
      call ∈ store.returned (store.after first events))
    (unlost : ∀ call, 0 < call → ¬Lost (store.attempts (store.after first events)) call) :
    written (store.attempts (store.after first events)) = (documents events).length := by
  refine Nat.le_antisymm (documented.written_le first events) ?_
  rcases Nat.eq_zero_or_pos (documents events).length with none | some
  · rw [none]
    exact Nat.zero_le _
  · rcases documented.written_or_lost (finished _ some (Nat.le_refl _)) with inside | lost
    · exact inside
    · exact absurd lost (unlost _ some)

end DocumentStore

end Library
