import Mathlib.Data.List.Nodup

/-!
# Insertion-ordered collections keyed by a field of their members

A dictionary whose key is stored in the value needs no separate key column: a
collection is the list of its members in insertion order, and no two members
share a key.  Storing a member replaces the one with its key in place, or
appends it when there is none.
-/

namespace Library

/-- The members of a dictionary, in insertion order, with distinct keys. -/
@[ext]
structure Keyed {α κ : Type} (key : α → κ) where
  entries : List α
  nodup : (entries.map key).Nodup

namespace Keyed

variable {α κ : Type} [DecidableEq κ] {key : α → κ}

/-- The dictionary with no member. -/
def empty : Keyed key := ⟨[], List.nodup_nil⟩

/-- The keys, in insertion order. -/
def keys (members : Keyed key) : List κ := members.entries.map key

/-- The member stored under a key. -/
def get? (members : Keyed key) (wanted : κ) : Option α :=
  members.entries.find? fun member => key member = wanted

/-- Overwrite the member that has the key of the new one. -/
def overwrite (key : α → κ) (entries : List α) (member : α) : List α :=
  entries.map fun old => if key old = key member then member else old

theorem overwrite_keys (entries : List α) (member : α) :
    (overwrite key entries member).map key = entries.map key := by
  induction entries with
  | nil => rfl
  | cons old rest ih =>
      have head : key (if key old = key member then member else old) = key old := by
        split
        · next same => exact same.symm
        · rfl
      simpa only [overwrite, List.map_cons, head, List.cons.injEq, true_and] using ih

/-- Store a member under its own key. -/
def put (members : Keyed key) (member : α) : Keyed key :=
  if present : key member ∈ members.keys then
    ⟨overwrite key members.entries member, by
      rw [overwrite_keys]; exact members.nodup⟩
  else
    ⟨members.entries ++ [member], by
      rw [List.map_append, List.nodup_append]
      refine ⟨members.nodup, List.nodup_singleton _, ?_⟩
      rintro old stored new added rfl
      rw [List.map_singleton, List.mem_singleton] at added
      exact present (added ▸ stored)⟩

/-- Store members one after the other. -/
def ofList (members : List α) : Keyed key := members.foldl put empty

/-- Remove the member stored under a key. -/
def erase (members : Keyed key) (wanted : κ) : Keyed key :=
  ⟨members.entries.filter fun member => key member ≠ wanted,
    members.nodup.sublist (List.filter_sublist.map key)⟩

/-- A member with a new key is appended. -/
theorem entries_put_of_new {members : Keyed key} {member : α} (fresh : key member ∉ members.keys) :
    (members.put member).entries = members.entries ++ [member] := by
  rw [put, dif_neg fresh]

/-- What is stored under a key has that key. -/
theorem key_of_get? {members : Keyed key} {wanted : κ} {member : α}
    (found : members.get? wanted = some member) : key member = wanted := by
  have matched := List.find?_some found
  exact of_decide_eq_true matched

/-- A member is stored under its key. -/
theorem get?_of_mem {members : Keyed key} {member : α} (stored : member ∈ members.entries) :
    members.get? (key member) = some member := by
  obtain ⟨entries, nodup⟩ := members
  rw [get?]
  dsimp only at stored ⊢
  induction entries with
  | nil => cases stored
  | cons first rest ih =>
      rw [List.map_cons, List.nodup_cons] at nodup
      rcases List.mem_cons.mp stored with rfl | later
      · exact List.find?_cons_of_pos (by simp)
      · have apart : key first ≠ key member := by
          intro same
          exact nodup.1 (same ▸ List.mem_map_of_mem later)
        rw [List.find?_cons_of_neg (by simpa using apart)]
        exact ih nodup.2 later

theorem get?_eq_none_iff (members : Keyed key) (wanted : κ) :
    members.get? wanted = none ↔ wanted ∉ members.keys := by
  simp [get?, keys, List.find?_eq_none, List.mem_map]

private theorem find?_overwrite_self (entries : List α) (member : α)
    (present : key member ∈ entries.map key) :
    (overwrite key entries member).find? (fun old => key old = key member) = some member := by
  induction entries with
  | nil => cases present
  | cons old rest ih =>
      by_cases same : key old = key member
      · simp [overwrite, same]
      · have later : key member ∈ rest.map key := by
          rcases List.mem_cons.mp present with head | tail
          · exact absurd head.symm same
          · exact tail
        simpa [overwrite, same] using ih later

private theorem find?_overwrite_of_ne (entries : List α) (member : α) {wanted : κ}
    (other : wanted ≠ key member) :
    (overwrite key entries member).find? (fun old => key old = wanted) =
      entries.find? (fun old => key old = wanted) := by
  induction entries with
  | nil => rfl
  | cons old rest ih =>
      by_cases same : key old = key member
      · have replaced : ¬ key member = wanted := fun equal => other equal.symm
        have original : ¬ key old = wanted := same ▸ replaced
        simpa [overwrite, same, replaced, original] using ih
      · by_cases hit : key old = wanted
        · simp [overwrite, hit, other]
        · simpa [overwrite, same, hit] using ih

@[simp]
theorem get?_put_self (members : Keyed key) (member : α) :
    (members.put member).get? (key member) = some member := by
  unfold put
  split
  · next present => exact find?_overwrite_self members.entries member present
  · next absent =>
      have missed : members.entries.find? (fun old => key old = key member) = none :=
        (get?_eq_none_iff members (key member)).mpr absent
      simp [get?, List.find?_append, missed]

/-- Storing a member leaves every other key alone. -/
theorem get?_put_of_ne (members : Keyed key) (member : α) {wanted : κ}
    (other : wanted ≠ key member) :
    (members.put member).get? wanted = members.get? wanted := by
  unfold put
  split
  · exact find?_overwrite_of_ne members.entries member other
  · have missed : ¬ key member = wanted := fun equal => other equal.symm
    simp [get?, List.find?_append, missed]

theorem get?_put (members : Keyed key) (member : α) (wanted : κ) :
    (members.put member).get? wanted =
      if wanted = key member then some member else members.get? wanted := by
  split
  · next same => rw [same, get?_put_self]
  · next other => exact get?_put_of_ne members member other

/-- Storing what is stored already changes nothing. -/
theorem put_of_get? {members : Keyed key} {member : α}
    (stored : members.get? (key member) = some member) : members.put member = members := by
  have present : key member ∈ members.keys := by
    by_contra absent
    rw [(get?_eq_none_iff members (key member)).mpr absent] at stored
    cases stored
  have same : ∀ old ∈ members.entries, (if key old = key member then member else old) = old := by
    intro old kept
    split
    · next equal =>
        have found := get?_of_mem kept
        rw [equal, stored, Option.some.injEq] at found
        exact found
    · rfl
  apply Keyed.ext
  rw [put, dif_pos present]
  exact (List.map_congr_left same).trans (List.map_id' _)

@[simp]
theorem get?_erase_self (members : Keyed key) (wanted : κ) :
    (members.erase wanted).get? wanted = none := by
  rw [get?_eq_none_iff]
  intro kept
  obtain ⟨member, stored, same⟩ := List.mem_map.mp kept
  exact of_decide_eq_true (List.mem_filter.mp stored).2 same

/-- Removing a member leaves every other key alone. -/
theorem get?_erase_of_ne (members : Keyed key) {removed wanted : κ} (other : wanted ≠ removed) :
    (members.erase removed).get? wanted = members.get? wanted := by
  rw [get?, get?, erase, List.find?_filter]
  congr 1
  funext member
  by_cases hit : key member = wanted
  · simp [hit, other]
  · simp [hit]

theorem get?_erase (members : Keyed key) (removed wanted : κ) :
    (members.erase removed).get? wanted = if wanted = removed then none else members.get? wanted := by
  split
  · next same => rw [same, get?_erase_self]
  · next other => exact get?_erase_of_ne members other

/-! ## Members stored one after the other -/

theorem foldl_put_of_nodup (members : Keyed key) (more : List α)
    (distinct : ((members.entries ++ more).map key).Nodup) :
    (more.foldl put members).entries = members.entries ++ more := by
  induction more generalizing members with
  | nil => exact (List.append_nil _).symm
  | cons member rest ih =>
      have fresh : key member ∉ members.keys := by
        intro known
        rw [List.map_append, List.map_cons] at distinct
        exact (List.nodup_append.mp distinct).2.2 _ known _ List.mem_cons_self rfl
      have stored : (members.put member).entries ++ rest = members.entries ++ member :: rest := by
        rw [entries_put_of_new fresh, List.append_assoc, List.singleton_append]
      rw [List.foldl_cons, ih _ (stored ▸ distinct), stored]

/-- Members with distinct keys stay as they are. -/
theorem entries_ofList_of_nodup {members : List α} (distinct : (members.map key).Nodup) :
    (ofList members : Keyed key).entries = members :=
  foldl_put_of_nodup empty members distinct

/-- The member stored last under a key is the one that is found. -/
theorem get?_ofList_concat (members : List α) (member : α) (wanted : κ) :
    (ofList (members ++ [member]) : Keyed key).get? wanted =
      if wanted = key member then some member else (ofList members : Keyed key).get? wanted := by
  rw [ofList, List.foldl_append, List.foldl_cons, List.foldl_nil, get?_put]
  rfl

end Keyed

end Library
