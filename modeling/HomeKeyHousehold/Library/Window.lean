import Mathlib.Data.List.DropRight
import Mathlib.Data.List.Induction
import Mathlib.Data.List.Infix

/-!
# Histories that do not repeat within a window

`history.rtake window` is what a bounded memory of the last `window` entries
holds.  A history is spaced when no entry was still inside that memory at the
moment it was appended.  A bounded replay window accepts exactly the spaced
histories; a memory that retains a longer suffix enforces them.
-/

namespace Library

variable {α : Type} {window : Nat} {history : List α}

/-- No entry equals one of the `window` entries just before it. -/
def Spaced (window : Nat) (history : List α) : Prop :=
  ∀ earlier entry, earlier ++ [entry] <+: history → entry ∉ earlier.rtake window

theorem spaced_nil : Spaced window ([] : List α) := by
  intro earlier entry initial
  have empty := List.prefix_nil.mp initial
  simp at empty

/-- Appending one entry keeps a history spaced exactly when the entry is not
among the last `window`. -/
theorem spaced_append_singleton (entry : α) :
    Spaced window (history ++ [entry]) ↔
      Spaced window history ∧ entry ∉ history.rtake window := by
  constructor
  · intro spaced
    refine ⟨?_, spaced history entry List.prefix_rfl⟩
    intro earlier old initial
    exact spaced earlier old (initial.trans (List.prefix_append _ _))
  · rintro ⟨spaced, fresh⟩ earlier old initial
    rcases List.prefix_concat_iff.mp initial with whole | part
    · obtain ⟨sameHistory, sameEntry⟩ := List.append_inj' whole rfl
      rw [sameHistory, List.singleton_inj.mp sameEntry]
      exact fresh
    · exact spaced earlier old part

/-- In a spaced history two equal entries lie more than `window` places apart. -/
theorem Spaced.window_lt (spaced : Spaced window history) {first second : Nat}
    (ordered : first < second) (inside : second < history.length)
    (equal : history[first] = history[second]) : window < second - first := by
  by_contra close
  have initial : history.take second ++ [history[second]] <+: history := by
    rw [List.take_concat_get']
    exact List.take_prefix _ _
  apply spaced _ _ initial
  rw [List.rtake, List.length_take, Nat.min_eq_left (Nat.le_of_lt inside), ← equal]
  refine List.mem_iff_getElem.mpr ⟨first - (second - window), ?_, ?_⟩
  · rw [List.length_drop, List.length_take]
    omega
  · rw [List.getElem_drop, List.getElem_take]
    congr 1
    omega

/-- Forgetting from the front keeps a history spaced. -/
theorem Spaced.suffix {later : List α} (spaced : Spaced window history) (ends : later <:+ history) :
    Spaced window later := by
  obtain ⟨forgotten, rfl⟩ := ends
  intro earlier entry initial
  have longer : forgotten ++ earlier ++ [entry] <+: forgotten ++ later := by
    rw [List.append_assoc]
    exact (List.prefix_append_right_inj forgotten).mpr initial
  refine fun recent => spaced _ _ longer ?_
  rw [List.rtake, List.length_append, List.drop_append]
  refine List.mem_append_right _ ?_
  rw [List.rtake] at recent
  have within : forgotten.length + earlier.length - window - forgotten.length =
      earlier.length - window := by omega
  rwa [within]

/-- What the last entries of a longer history have that those of a shorter one have not is
the entry in between, if the part after it is short. -/
theorem mem_rtake_insert {before after : List α} {entry other : α}
    (recent : other ∈ (before ++ entry :: after).rtake window) :
    other ∈ (before ++ after).rtake window ∨ other = entry ∧ after.length < window := by
  rw [List.rtake, List.length_append, List.length_cons] at recent
  rw [List.rtake, List.length_append]
  rcases Nat.lt_or_ge after.length window with short | long
  · rw [List.drop_append_of_le_length (by omega), List.mem_append, List.mem_cons] at recent
    rw [List.drop_append_of_le_length (by omega), List.mem_append]
    rcases recent with held | rfl | later
    · left
      left
      have fewer : before.length + after.length - window ≤
          before.length + (after.length + 1) - window := by omega
      exact (List.drop_sublist_drop_left before fewer).subset held
    · exact Or.inr ⟨rfl, short⟩
    · exact Or.inl (Or.inr later)
  · left
    have beyond : before.length + (after.length + 1) - window =
        before.length + 1 + (after.length - window) := by omega
    have beside : before.length + after.length - window =
        before.length + (after.length - window) := by omega
    rw [beyond, ← List.drop_drop, List.append_cons] at recent
    rw [beside, ← List.drop_drop, List.drop_left]
    have length : (before ++ [entry]).length = before.length + 1 := List.length_append
    rwa [← length, List.drop_left] at recent

/-- An entry that is none of the window before it, and none of the window after it, can be
put into a spaced history. -/
theorem Spaced.insert {before after : List α} {entry : α}
    (spaced : Spaced window (before ++ after)) (unheld : entry ∉ before.rtake window)
    (apart : entry ∉ after.take window) : Spaced window (before ++ entry :: after) := by
  induction after using List.reverseRecOn with
  | nil =>
      rw [List.append_nil] at spaced
      exact (spaced_append_singleton entry).mpr ⟨spaced, unheld⟩
  | append_singleton earlier last ih =>
      rw [← List.append_assoc] at spaced
      obtain ⟨spaced, fresh⟩ := (spaced_append_singleton last).mp spaced
      have first : entry ∉ earlier.take window := by
        refine fun member => apart ?_
        rw [List.take_append]
        exact List.mem_append_left _ member
      rw [← List.cons_append, ← List.append_assoc, spaced_append_singleton]
      refine ⟨ih spaced first, fun recent => ?_⟩
      rcases mem_rtake_insert recent with held | ⟨rfl, short⟩
      · exact fresh held
      · refine apart ?_
        rw [List.take_of_length_le (by rw [List.length_append, List.length_singleton]; exact short)]
        exact List.mem_append_right _ (List.mem_singleton_self _)

/-- A memory that forgets from the front only, and never so much that fewer than
`count` entries stay. -/
def RetainsEnd (count : Nat) (history kept : List α) : Prop :=
  ∃ forgotten, history = forgotten ++ kept ∧ (forgotten = [] ∨ count ≤ kept.length)

namespace RetainsEnd

variable {count : Nat} {kept : List α}

theorem suffix (retains : RetainsEnd count history kept) : kept <:+ history := by
  obtain ⟨forgotten, whole, -⟩ := retains
  exact ⟨forgotten, whole.symm⟩

/-- The last entries of the history, up to the count, are the end of the memory. -/
theorem rtake_suffix (retains : RetainsEnd count history kept) (within : window ≤ count) :
    history.rtake window <:+ kept := by
  obtain ⟨forgotten, rfl, held⟩ := retains
  have shorter : forgotten.length ≤ (forgotten ++ kept).length - window ∨ forgotten = [] := by
    rw [List.length_append]
    exact held.symm.imp_left fun large => by omega
  rw [List.rtake, List.drop_append]
  rcases shorter with early | rfl
  · rw [List.drop_eq_nil_of_le early, List.nil_append]
    exact List.drop_suffix _ _
  · rw [List.drop_nil, List.nil_append]
    exact List.drop_suffix _ _

/-- A memory that takes one entry, and then forgets nothing or keeps enough. -/
theorem concat {later forgotten : List α} {entry : α} (retains : RetainsEnd count history kept)
    (split : kept ++ [entry] = forgotten ++ later)
    (held : (forgotten = [] ∧ kept.length < later.length) ∨ count ≤ later.length) :
    RetainsEnd count (history ++ [entry]) later := by
  obtain ⟨before, whole, enough⟩ := retains
  refine ⟨before ++ forgotten, ?_, ?_⟩
  · rw [whole, List.append_assoc, split, List.append_assoc]
  · rcases held with ⟨rfl, longer⟩ | large
    · rw [List.append_nil]
      exact enough.imp_right fun large => large.trans longer.le
    · exact Or.inr large

end RetainsEnd

/-- The last `window` entries and a new one are what is left of both. -/
theorem rtake_append_singleton (history : List α) (entry : α) (window : Nat) :
    history.rtake window ++ [entry] = (history ++ [entry]).drop (history.length - window) := by
  rw [List.rtake, List.drop_append_of_le_length (Nat.sub_le _ _)]

/-- The end of a history's end and what follows is that of the whole. -/
theorem rtake_rtake_append (history later : List α) (window : Nat) :
    (history.rtake window ++ later).rtake window = (history ++ later).rtake window := by
  rcases Nat.lt_or_ge later.length window with short | long
  · have ends (front : List α) :
        (front ++ later).rtake window = front.rtake (window - later.length) ++ later := by
      rw [List.rtake, List.length_append, List.drop_append_of_le_length (by omega), List.rtake]
      congr 2
      omega
    rw [ends, ends, List.rtake, List.rtake, List.rtake, List.drop_drop, List.length_drop]
    congr 2
    omega
  · have ends (front : List α) : (front ++ later).rtake window = later.rtake window := by
      rw [List.rtake, List.length_append, List.drop_append, List.drop_eq_nil_of_le (by omega),
        List.nil_append, List.rtake]
      congr 1
      omega
    rw [ends, ends]

/-- A full memory that drops its oldest entry after each new one holds the last
`window` entries. -/
theorem rtake_slide (history : List α) (entry : α) :
    (if window < (history.rtake window ++ [entry]).length then
        (history.rtake window ++ [entry]).drop 1
      else history.rtake window ++ [entry]) = (history ++ [entry]).rtake window := by
  have length : (history ++ [entry]).length = history.length + 1 := by
    rw [List.length_append, List.length_singleton]
  rw [rtake_append_singleton, List.length_drop, length, List.rtake, length]
  split
  · next full =>
      rw [List.drop_drop]
      congr 1
      omega
  · next room =>
      congr 1
      omega

end Library
