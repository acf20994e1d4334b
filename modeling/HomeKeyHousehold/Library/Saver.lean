import HomeKeyHousehold.Library.DocumentStore

/-!
# A store that writes under a lock

A document replaces the one that waits to be written, and every call then takes its turn: it
writes what waits, or finds that another call has.  A write that fails is given up.
-/

namespace Library

variable {α : Type}

/-- A document that a call is writing. -/
structure Writing (α : Type) where
  call : Nat
  number : Nat
  document : α

/-- A file, the document that waits, the one that is written and the calls that have not
taken their turn. -/
structure Saver (α : Type) where
  file : α
  pending : Option α := none
  writing : Option (Writing α) := none
  waiting : List Nat := []
  saved : Nat := 0
  attempts : List WriteAttempt := []
  returned : List Nat := []

namespace Saver

/-- A call gets the lock, or a write ends. -/
inductive Progress where
  | turn (call : Nat)
  | finish (succeeds : Bool)

def save (saver : Saver α) (document : α) : Saver α :=
  { saver with
    pending := some document
    waiting := saver.waiting ++ [saver.saved + 1]
    saved := saver.saved + 1 }

/-- A call that waits takes its turn, when nothing is being written. -/
def turn (saver : Saver α) (call : Nat) : Saver α :=
  if saver.writing.isNone ∧ call ∈ saver.waiting then
    match saver.pending with
    | some document =>
        { saver with
          pending := none
          writing := some ⟨call, saver.saved, document⟩
          waiting := saver.waiting.erase call }
    | none =>
        { saver with
          waiting := saver.waiting.erase call
          returned := saver.returned ++ [call] }
  else saver

/-- A write ends, and leaves the file as it was when it fails. -/
def finish (saver : Saver α) (succeeds : Bool) : Saver α :=
  match saver.writing with
  | some write =>
      { saver with
        file := if succeeds then write.document else saver.file
        writing := none
        attempts := saver.attempts ++ [⟨write.number, succeeds⟩]
        returned := saver.returned ++ [write.call] }
  | none => saver

def advance (saver : Saver α) : Progress → Saver α
  | .turn call => saver.turn call
  | .finish succeeds => saver.finish succeeds

/-- The store that is run this way. -/
def store (α : Type) : DocumentStore α where
  State := Saver α
  Progress := Progress
  opened file := { file }
  save := save
  advance := advance
  file := file
  attempts := attempts
  returned := returned

/-- What is in the file, what waits and what is written are documents that were handed over,
and every call that returned had its document tried. -/
structure Sound (first : α) (documents : List α) (saver : Saver α) : Prop where
  counted : saver.saved = documents.length
  file : (first :: documents)[DocumentStore.written saver.attempts]? = some saver.file
  ordered : saver.attempts.Pairwise fun earlier later => earlier.number ≤ later.number
  given : ∀ attempt ∈ saver.attempts, attempt.number ≤ saver.saved
  pending : ∀ document, saver.pending = some document →
    (first :: documents)[saver.saved]? = some document
  writing : ∀ write, saver.writing = some write →
    (first :: documents)[write.number]? = some write.document ∧ 0 < write.call ∧
      write.call ≤ write.number ∧ write.number ≤ saver.saved ∧
      ∀ attempt ∈ saver.attempts, attempt.number ≤ write.number
  settled : saver.pending = none →
    (∃ write, saver.writing = some write ∧ write.number = saver.saved) ∨
      saver.saved = 0 ∨ ∃ attempt ∈ saver.attempts, attempt.number = saver.saved
  waiting : ∀ call ∈ saver.waiting, 0 < call ∧ call ≤ saver.saved
  returned : ∀ call ∈ saver.returned, 0 < call ∧
    ∃ attempt ∈ saver.attempts, call ≤ attempt.number

variable {first : α} {documents : List α} {saver : Saver α}

theorem sound_opened (first : α) : Sound first [] { file := first } where
  counted := rfl
  file := rfl
  ordered := List.Pairwise.nil
  given := by simp
  pending := by simp
  writing := by simp
  settled := fun _ => Or.inr (Or.inl rfl)
  waiting := by simp
  returned := by simp

/-- What was handed over stays what it was. -/
theorem getElem?_concat {number : Nat} {document : α} (later : α)
    (found : (first :: documents)[number]? = some document) :
    (first :: (documents ++ [later]))[number]? = some document := by
  obtain ⟨bounded, -⟩ := List.getElem?_eq_some_iff.mp found
  rw [← List.cons_append, List.getElem?_append_left bounded]
  exact found

/-- A document that is handed over gets the next number. -/
theorem Sound.save (sound : Sound first documents saver) (document : α) :
    Sound first (documents ++ [document]) (saver.save document) where
  counted := by
    rw [List.length_append, ← sound.counted]
    rfl
  file := getElem?_concat document sound.file
  ordered := sound.ordered
  given attempt member := Nat.le_succ_of_le (sound.given attempt member)
  pending := by
    intro found waits
    cases waits
    rw [Saver.save, sound.counted, List.getElem?_cons_succ, List.getElem?_concat_length]
  writing := by
    intro write written
    obtain ⟨is, call, later, bounded, newer⟩ := sound.writing write written
    exact ⟨getElem?_concat document is, call, later, Nat.le_succ_of_le bounded, newer⟩
  settled := by simp [Saver.save]
  waiting := by
    intro call member
    rcases List.mem_append.mp member with earlier | last
    · exact ⟨(sound.waiting call earlier).1, Nat.le_succ_of_le (sound.waiting call earlier).2⟩
    · rw [List.mem_singleton.mp last]
      exact ⟨Nat.succ_pos _, Nat.le_refl _⟩
  returned := sound.returned

theorem Sound.turn (sound : Sound first documents saver) (call : Nat) :
    Sound first documents (saver.turn call) := by
  unfold Saver.turn
  split
  · next may =>
      have free := Option.isNone_iff_eq_none.mp may.1
      obtain ⟨positive, bounded⟩ := sound.waiting call may.2
      cases pending : saver.pending with
      | some document =>
          exact
            { sound with
              pending := by simp
              writing := by
                intro write written
                cases written
                exact ⟨sound.pending document pending, positive, bounded, Nat.le_refl _,
                  sound.given⟩
              settled := fun _ => Or.inl ⟨_, rfl, rfl⟩
              waiting := fun other member => sound.waiting other (List.mem_of_mem_erase member) }
      | none =>
          exact
            { sound with
              pending := by simp
              settled := fun _ => sound.settled pending
              waiting := fun other member => sound.waiting other (List.mem_of_mem_erase member)
              returned := by
                intro other member
                rcases List.mem_append.mp member with earlier | last
                · exact sound.returned other earlier
                · -- Nothing waits and nothing is written: the last document was tried.
                  rw [List.mem_singleton.mp last]
                  refine ⟨positive, ?_⟩
                  rcases sound.settled pending with ⟨write, written, -⟩ | none | ⟨attempt, tried, same⟩
                  · rw [free] at written
                    cases written
                  · omega
                  · exact ⟨attempt, tried, same ▸ bounded⟩ }
  · exact sound

/-- A write that ends leaves the file as it was, or with a newer document. -/
theorem Sound.finish (sound : Sound first documents saver) (succeeds : Bool) :
    Sound first documents (saver.finish succeeds) := by
  unfold Saver.finish
  split
  · next write written =>
      obtain ⟨is, positive, later, bounded, newer⟩ := sound.writing write written
      exact
        { sound with
          file := by
            rw [DocumentStore.written_concat]
            cases succeeds with
            | true => exact is
            | false => exact sound.file
          ordered := List.pairwise_append.mpr ⟨sound.ordered, List.pairwise_singleton _ _,
            fun attempt member last same => (List.mem_singleton.mp same) ▸ newer attempt member⟩
          given := by
            intro attempt member
            rcases List.mem_append.mp member with earlier | last
            · exact sound.given attempt earlier
            · rw [List.mem_singleton.mp last]
              exact bounded
          writing := by simp
          settled := by
            intro none
            rcases sound.settled none with ⟨other, same, number⟩ | empty | ⟨attempt, tried, same⟩
            · rw [written] at same
              cases same
              exact Or.inr (Or.inr ⟨_, List.mem_append_right _ List.mem_cons_self, number⟩)
            · exact Or.inr (Or.inl empty)
            · exact Or.inr (Or.inr ⟨attempt, List.mem_append_left _ tried, same⟩)
          returned := by
            intro call member
            rcases List.mem_append.mp member with earlier | last
            · obtain ⟨positive, attempt, tried, takes⟩ := sound.returned call earlier
              exact ⟨positive, attempt, List.mem_append_left _ tried, takes⟩
            · rw [List.mem_singleton.mp last]
              exact ⟨positive, _, List.mem_append_right _ List.mem_cons_self, later⟩ }
  · exact sound

theorem sound_after (first : α) (events : List (store α).Event) :
    Sound first (DocumentStore.documents events) ((store α).after first events) := by
  induction events using List.reverseRecOn with
  | nil => exact sound_opened first
  | append_singleton earlier last ih =>
      rw [DocumentStore.after, run_concat, DocumentStore.documents_concat]
      cases last with
      | save document => exact ih.save document
      | advance progress =>
          rw [DocumentStore.Event.document, Option.toList_none, List.append_nil]
          cases progress with
          | turn call => exact ih.turn call
          | finish succeeds => exact ih.finish succeeds

/-- A store that writes under a lock keeps the promise. -/
theorem documented (α : Type) : (store α).Documented where
  whole first events := (sound_after first events).file
  ordered first events := (sound_after first events).ordered
  given first events attempt member :=
    (sound_after first events).counted ▸ (sound_after first events).given attempt member
  tried first events := (sound_after first events).returned

end Saver

end Library
