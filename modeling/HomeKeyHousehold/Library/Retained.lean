import HomeKeyHousehold.Library.Keyed
import HomeKeyHousehold.Library.Run

/-!
# What a broker retains

A broker keeps for each key the last publication that asked to be kept.  One that has
nothing in it clears its key instead.
-/

namespace Library

namespace Keyed

variable {α κ β : Type} [DecidableEq κ] {key : α → κ} {keeps clears : α → Bool}
variable {held : Keyed key} {history earlier later : List α} {said : α} {wanted : κ}

/-- One publication. -/
def publish (keeps clears : α → Bool) (held : Keyed key) (said : α) : Keyed key :=
  if keeps said then
    if clears said then held.erase (key said) else held.put said
  else held

/-- What is kept of a history of publications. -/
def retained (key : α → κ) (keeps clears : α → Bool) (history : List α) : Keyed key :=
  run (publish keeps clears) empty history

/-- A publication leaves every other key alone. -/
theorem get?_publish_of_ne (other : wanted ≠ key said) :
    (held.publish keeps clears said).get? wanted = held.get? wanted := by
  unfold publish
  split
  · split
    · exact get?_erase_of_ne held other
    · exact get?_put_of_ne held said other
  · rfl

theorem get?_run_publish_of_forall_ne (silent : ∀ said ∈ history, key said ≠ wanted) :
    (run (publish keeps clears) held history).get? wanted = held.get? wanted := by
  induction history generalizing held with
  | nil => rfl
  | cons said rest ih =>
      obtain ⟨first, others⟩ := List.forall_mem_cons.mp silent
      rw [run_cons, ih others, get?_publish_of_ne first.symm]

/-- The last publication under its key is kept, if it asks to be and is not blank. -/
theorem get?_retained_of_last (kept : keeps said = true) (filled : clears said = false)
    (last : ∀ next ∈ later, key next ≠ key said) :
    (retained key keeps clears (earlier ++ said :: later)).get? (key said) = some said := by
  rw [retained, run_append, run_cons, get?_run_publish_of_forall_ne last, publish, if_pos kept,
    filled, if_neg Bool.false_ne_true, get?_put_self]

/-- What is not blank is stored when it asks to be kept. -/
theorem run_publish_eq_foldl (filled : ∀ said ∈ history, keeps said = true → clears said = false) :
    run (publish keeps clears) held history = (history.filter keeps).foldl put held := by
  induction history generalizing held with
  | nil => rfl
  | cons said rest ih =>
      obtain ⟨first, others⟩ := List.forall_mem_cons.mp filled
      rw [run_cons, ih others, publish]
      by_cases kept : keeps said = true
      · rw [if_pos kept, first kept, if_neg Bool.false_ne_true, List.filter_cons_of_pos kept,
          List.foldl_cons]
      · rw [if_neg kept, List.filter_cons_of_neg kept]

/-- Where every key is kept once, what is kept is all that asked to be, in order. -/
theorem entries_retained_of_nodup (distinct : ((history.filter keeps).map key).Nodup)
    (filled : ∀ said ∈ history, keeps said = true → clears said = false) :
    (retained key keeps clears history).entries = history.filter keeps := by
  rw [retained, run_publish_eq_foldl filled]
  exact foldl_put_of_nodup empty _ distinct

/-- What is kept was published, asked to be kept and is not blank. -/
theorem mem_of_get?_retained
    (found : (retained key keeps clears history).get? wanted = some said) :
    said ∈ history ∧ keeps said = true ∧ clears said = false := by
  induction history using List.reverseRecOn with
  | nil => cases found
  | append_singleton earlier last ih =>
      have before (found : (retained key keeps clears earlier).get? wanted = some said) :
          said ∈ earlier ++ [last] ∧ keeps said = true ∧ clears said = false := by
        obtain ⟨member, rest⟩ := ih found
        exact ⟨List.mem_append_left _ member, rest⟩
      rw [retained, run_concat, publish] at found
      split at found
      · next kept =>
          split at found
          · rw [get?_erase] at found
            split at found
            · cases found
            · exact before found
          · next filled =>
              rw [get?_put] at found
              split at found
              · cases found
                exact ⟨List.mem_append_right _ (List.mem_singleton_self _), kept,
                  (Bool.not_eq_true _).mp filled⟩
              · exact before found
      · exact before found

/-- Where members arrive in any order, one is preceded and followed by others only. -/
theorem exists_split_of_perm {arrivals : List (β × α)}
    (all : (arrivals.map Prod.snd).Perm held.entries) (found : held.get? wanted = some said) :
    ∃ earlier first later, arrivals = earlier ++ (first, said) :: later ∧
      ∀ other ∈ earlier ++ later, key other.2 ≠ wanted := by
  have arrived : said ∈ arrivals.map Prod.snd :=
    all.mem_iff.mpr (List.mem_of_find?_eq_some found)
  obtain ⟨⟨first, _⟩, member, rfl⟩ := List.mem_map.mp arrived
  obtain ⟨earlier, later, rfl⟩ := List.append_of_mem member
  refine ⟨earlier, first, later, rfl, fun other present same => ?_⟩
  have distinct := (all.map key).nodup_iff.mpr held.nodup
  rw [List.map_map, List.map_append, List.map_cons, List.nodup_middle, ← List.map_append]
    at distinct
  refine (List.nodup_cons.mp distinct).1 (List.mem_map.mpr ⟨other, present, ?_⟩)
  exact same.trans (key_of_get? found).symm

end Keyed

end Library
