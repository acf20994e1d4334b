import HomeKeyHousehold.Library.Window

/-!
# Rolling windows by key

A collection that keeps the newest `keep` entries of every key: a new entry is
appended, and the oldest entries of its key beyond the window are dropped.  What
is held of a key is the window of what was added under it.  For entries told
apart by more than their key, the windows are those of the finer identities only
as long as identities that share a key do not fill its window.
-/

namespace Library

variable {α κ ι : Type} [DecidableEq κ] [DecidableEq ι]

/-- The entries with a key. -/
def ofKey (key : α → κ) (wanted : κ) (entries : List α) : List α :=
  entries.filter fun entry => key entry = wanted

/-- Without the first `count` entries that are dropped. -/
def dropFirst (drops : α → Bool) : Nat → List α → List α
  | 0, entries => entries
  | _ + 1, [] => []
  | count + 1, entry :: rest =>
      if drops entry then dropFirst drops count rest
      else entry :: dropFirst drops (count + 1) rest

theorem dropFirst_zero (drops : α → Bool) (entries : List α) :
    dropFirst drops 0 entries = entries := by
  cases entries <;> rfl

theorem filter_dropFirst (drops : α → Bool) (count : Nat) (entries : List α) :
    (dropFirst drops count entries).filter drops = (entries.filter drops).drop count := by
  induction entries generalizing count with
  | nil => cases count <;> rfl
  | cons entry rest ih =>
      cases count with
      | zero => rfl
      | succ count =>
          rw [dropFirst]
          split
          · next dropped => rw [ih, List.filter_cons_of_pos dropped, List.drop_succ_cons]
          · next kept => rw [List.filter_cons_of_neg kept, ih, List.filter_cons_of_neg kept]

/-- What is never dropped stays, in order. -/
theorem filter_dropFirst_of_kept {drops keeps : α → Bool} (count : Nat) (entries : List α)
    (apart : ∀ entry, keeps entry = true → drops entry = false) :
    (dropFirst drops count entries).filter keeps = entries.filter keeps := by
  induction entries generalizing count with
  | nil => cases count <;> rfl
  | cons entry rest ih =>
      cases count with
      | zero => rfl
      | succ count =>
          rw [dropFirst]
          split
          · next dropped =>
              have other : ¬ keeps entry = true := by
                intro kept
                rw [apart entry kept] at dropped
                cases dropped
              rw [ih, List.filter_cons_of_neg other]
          · rw [List.filter_cons, List.filter_cons, ih]

theorem dropFirst_sublist (drops : α → Bool) (count : Nat) (entries : List α) :
    (dropFirst drops count entries).Sublist entries := by
  induction entries generalizing count with
  | nil => cases count <;> exact List.Sublist.refl []
  | cons entry rest ih =>
      cases count with
      | zero => exact List.Sublist.refl _
      | succ count =>
          rw [dropFirst]
          split
          · exact (ih count).cons entry
          · exact (ih (count + 1)).cons_cons entry

/-- As long as there are enough entries to drop, those behind them are not touched. -/
theorem dropFirst_append (drops : α → Bool) {count : Nat} {entries : List α}
    (enough : count ≤ (entries.filter drops).length) (rest : List α) :
    dropFirst drops count (entries ++ rest) = dropFirst drops count entries ++ rest := by
  induction entries generalizing count with
  | nil =>
      obtain rfl := Nat.le_zero.mp enough
      rw [dropFirst_zero, dropFirst_zero]
  | cons entry entries ih =>
      cases count with
      | zero => rw [dropFirst_zero, dropFirst_zero]
      | succ count =>
          rw [List.cons_append, dropFirst, dropFirst]
          split
          · next dropped =>
              rw [List.filter_cons_of_pos dropped, List.length_cons] at enough
              exact ih (Nat.le_of_succ_le_succ enough)
          · next kept =>
              rw [List.filter_cons_of_neg kept] at enough
              rw [ih enough, List.cons_append]

/-- Append an entry, and drop the oldest of its key beyond the window. -/
def retain (key : α → κ) (keep : Nat) (held : List α) (entry : α) : List α :=
  dropFirst (fun old => key old = key entry)
    ((ofKey key (key entry) (held ++ [entry])).length - keep) (held ++ [entry])

theorem length_ofKey_append (key : α → κ) (held : List α) (entry : α) :
    (ofKey key (key entry) (held ++ [entry])).length = (ofKey key (key entry) held).length + 1 := by
  rw [ofKey, List.filter_append, List.filter_cons_of_pos (by simp), List.filter_nil,
    List.length_append, List.length_singleton, ofKey]

/-- A window of one entry or more drops from what was held, and ends in what is added. -/
theorem retain_eq_append (key : α → κ) {keep : Nat} (keeps : 1 ≤ keep) (held : List α) (entry : α) :
    ∃ survivors, retain key keep held entry = survivors ++ [entry] ∧ survivors.Sublist held := by
  refine ⟨_, dropFirst_append _ ?_ [entry], dropFirst_sublist _ _ held⟩
  rw [length_ofKey_append, ← ofKey]
  omega

/-- Nothing is held that was not held or added. -/
theorem mem_retain {key : α → κ} {keep : Nat} {held : List α} {entry old : α}
    (member : old ∈ retain key keep held entry) : old ∈ held ∨ old = entry := by
  have appended := (dropFirst_sublist _ _ _).subset member
  simpa using appended

theorem ofKey_retain_self (key : α → κ) (keep : Nat) (held : List α) (entry : α) :
    ofKey key (key entry) (retain key keep held entry) =
      (ofKey key (key entry) held ++ [entry]).rtake keep := by
  have appended : ofKey key (key entry) (held ++ [entry]) =
      ofKey key (key entry) held ++ [entry] := by
    rw [ofKey, List.filter_append, List.filter_cons_of_pos (by simp), List.filter_nil, ofKey]
  rw [retain, ofKey, filter_dropFirst, ← ofKey, appended, List.rtake]

theorem ofKey_retain_of_ne (key : α → κ) (keep : Nat) (held : List α) {entry : α} {wanted : κ}
    (other : key entry ≠ wanted) :
    ofKey key wanted (retain key keep held entry) = ofKey key wanted held := by
  have apart (old : α) (kept : decide (key old = wanted) = true) :
      decide (key old = key entry) = false := by
    have same := of_decide_eq_true kept
    exact decide_eq_false fun equal => other (equal.symm.trans same)
  rw [ofKey, retain, filter_dropFirst_of_kept _ _ apart, List.filter_append,
    List.filter_cons_of_neg (by simpa using other), List.filter_nil, List.append_nil, ofKey]

/-- What is held of a key is the window of what was added under it. -/
theorem ofKey_foldl_retain (key : α → κ) (keep : Nat) (history : List α) (wanted : κ) :
    ofKey key wanted (history.foldl (retain key keep) []) =
      (ofKey key wanted history).rtake keep := by
  induction history using List.reverseRecOn with
  | nil => simp [ofKey, List.rtake]
  | append_singleton earlier entry ih =>
      rw [List.foldl_append, List.foldl_cons, List.foldl_nil,
        ofKey.eq_def key wanted (earlier ++ _), List.filter_append]
      by_cases same : key entry = wanted
      · subst same
        rw [ofKey_retain_self, ih, rtake_rtake_append, List.filter_cons_of_pos (by simp),
          List.filter_nil, ofKey]
      · rw [ofKey_retain_of_ne key keep _ same, ih,
          List.filter_cons_of_neg (by simpa using same), List.filter_nil, List.append_nil, ofKey]

/-! ## Some of the keys -/

omit [DecidableEq κ] [DecidableEq ι] in
/-- What is left out does not matter to what is dropped, if nothing that is left out is
dropped. -/
theorem filter_dropFirst_comm {drops keeps : α → Bool} (count : Nat) (entries : List α)
    (within : ∀ entry, drops entry = true → keeps entry = true) :
    (dropFirst drops count entries).filter keeps = dropFirst drops count (entries.filter keeps) := by
  induction entries generalizing count with
  | nil => cases count <;> rfl
  | cons entry rest ih =>
      cases count with
      | zero => rw [dropFirst_zero, dropFirst_zero]
      | succ count =>
          cases kept : keeps entry with
          | true =>
              rw [List.filter_cons_of_pos kept, dropFirst, dropFirst]
              split
              · exact ih count
              · rw [List.filter_cons_of_pos kept, ih]
          | false =>
              have stays : ¬ drops entry = true := fun dropped => by
                rw [within entry dropped] at kept
                cases kept
              rw [List.filter_cons_of_neg (by simp [kept]), dropFirst, if_neg stays,
                List.filter_cons_of_neg (by simp [kept]), ih]

omit [DecidableEq ι] in
/-- The windows of some of the keys are those of the entries with these keys. -/
theorem filter_foldl_retain (key : α → κ) (keep : Nat) (keeps : κ → Bool) (held history : List α) :
    (history.foldl (retain key keep) held).filter (fun entry => keeps (key entry)) =
      (history.filter fun entry => keeps (key entry)).foldl (retain key keep)
        (held.filter fun entry => keeps (key entry)) := by
  induction history generalizing held with
  | nil => rfl
  | cons entry rest ih =>
      rw [List.foldl_cons, ih, List.filter_cons]
      cases kept : keeps (key entry) with
      | true =>
          have same : ofKey key (key entry) ((held.filter fun old => keeps (key old)) ++ [entry]) =
              ofKey key (key entry) (held ++ [entry]) := by
            rw [ofKey, ofKey, List.filter_append, List.filter_append, List.filter_filter]
            congr 1
            refine List.filter_congr fun old _ => ?_
            by_cases equal : key old = key entry
            · rw [equal, kept, Bool.and_true]
            · rw [decide_eq_false equal, Bool.false_and]
          have alone : [entry].filter (fun old => keeps (key old)) = [entry] :=
            List.filter_cons_of_pos kept
          rw [if_pos rfl, List.foldl_cons]
          congr 1
          rw [retain, retain, same, filter_dropFirst_comm, List.filter_append, alone]
          intro old dropped
          rw [of_decide_eq_true dropped, kept]
      | false =>
          have none : [entry].filter (fun old => keeps (key old)) = [] :=
            List.filter_cons_of_neg (by simp [kept])
          rw [if_neg Bool.false_ne_true]
          congr 1
          rw [retain, filter_dropFirst_of_kept, List.filter_append, none, List.append_nil]
          intro old keeping
          refine decide_eq_false fun equal => ?_
          rw [equal, kept] at keeping
          cases keeping

/-! ## Identities that share a key -/

/-- Nothing under a key was dropped, or everything under it has one identity. -/
def Unshared (identity : α → ι) (keep : Nat) (entries : List α) : Prop :=
  entries.length ≤ keep ∨
    ∀ first ∈ entries, ∀ second ∈ entries, identity first = identity second

omit [DecidableEq ι] in
theorem Unshared.of_sublist {identity : α → ι} {keep : Nat} {entries part : List α}
    (unshared : Unshared identity keep entries) (sublist : part.Sublist entries) :
    Unshared identity keep part := by
  rcases unshared with short | common
  · exact Or.inl (sublist.length_le.trans short)
  · exact Or.inr fun first firstMember second secondMember =>
      common first (sublist.subset firstMember) second (sublist.subset secondMember)

theorem rtake_eq_self {entries : List α} {keep : Nat} (short : entries.length ≤ keep) :
    entries.rtake keep = entries := by
  rw [List.rtake, Nat.sub_eq_zero_of_le short, List.drop_zero]

theorem length_rtake (entries : List α) (keep : Nat) :
    (entries.rtake keep).length = min keep entries.length := by
  rw [List.rtake, List.length_drop]
  omega

/-- What was dropped had the identity of everything that is left. -/
theorem same_of_dropped (identity : α → ι) {dropped kept : List α}
    (windows : ∀ wanted, ofKey identity wanted kept =
      (ofKey identity wanted (dropped ++ kept)).rtake kept.length)
    {old new : α} (oldDropped : old ∈ dropped) (newKept : new ∈ kept) :
    identity new = identity old := by
  have counted := congrArg List.length (windows (identity old))
  have some : 0 < (ofKey identity (identity old) dropped).length :=
    List.length_pos_of_mem (List.mem_filter.mpr ⟨oldDropped, decide_eq_true rfl⟩)
  have bounded : (ofKey identity (identity old) kept).length ≤ kept.length :=
    List.length_filter_le _ _
  rw [length_rtake, ofKey.eq_def _ _ (dropped ++ kept), List.filter_append, List.length_append,
    ← ofKey, ← ofKey] at counted
  have whole : (ofKey identity (identity old) kept).length = kept.length := by omega
  exact of_decide_eq_true (List.length_filter_eq_length_iff.mp whole new newKept)

/-- The window of a list is the window of each of its identities exactly when no
two of them share a full window. -/
theorem ofKey_rtake_iff (identity : α → ι) {keep : Nat} (keeps : 0 < keep) (entries : List α) :
    (∀ wanted, ofKey identity wanted (entries.rtake keep) =
        (ofKey identity wanted entries).rtake keep) ↔
      Unshared identity keep entries := by
  constructor
  · intro windows
    by_cases short : entries.length ≤ keep
    · exact Or.inl short
    right
    have split : entries.take (entries.length - keep) ++ entries.rtake keep = entries :=
      List.take_append_drop _ _
    have full : (entries.rtake keep).length = keep := by
      rw [length_rtake]
      omega
    have same {old new : α} (oldDropped : old ∈ entries.take (entries.length - keep))
        (newKept : new ∈ entries.rtake keep) : identity new = identity old := by
      refine same_of_dropped identity (fun wanted => ?_) oldDropped newKept
      rw [split, full]
      exact windows wanted
    obtain ⟨latest, held⟩ := List.exists_mem_of_length_pos (full.symm ▸ keeps)
    obtain ⟨oldest, gone⟩ := List.exists_mem_of_length_pos
      (by rw [List.length_take]; omega : 0 < (entries.take (entries.length - keep)).length)
    have common : ∀ entry ∈ entries, identity entry = identity latest := by
      intro entry member
      rw [← split] at member
      rcases List.mem_append.mp member with old | new
      · exact (same old held).symm
      · rw [same gone new, same gone held]
    intro first firstMember second secondMember
    rw [common first firstMember, common second secondMember]
  · rintro (short | common) wanted
    · have part : (ofKey identity wanted entries).length ≤ keep :=
        Nat.le_trans (List.length_filter_le _ _) short
      rw [rtake_eq_self short, rtake_eq_self part]
    · by_cases present : ∃ entry ∈ entries, identity entry = wanted
      · obtain ⟨entry, member, rfl⟩ := present
        have all : ∀ other ∈ entries, decide (identity other = identity entry) = true :=
          fun other known => decide_eq_true (common other known entry member)
        rw [ofKey, ofKey, List.filter_eq_self.mpr all, List.filter_eq_self.mpr]
        intro other recent
        exact all other (List.mem_of_mem_drop recent)
      · have none : ∀ other ∈ entries, ¬ decide (identity other = wanted) = true :=
          fun other known same => present ⟨other, known, of_decide_eq_true same⟩
        rw [ofKey, ofKey, List.filter_eq_nil_iff.mpr none, List.filter_eq_nil_iff.mpr]
        · exact (rtake_eq_self (Nat.zero_le _)).symm
        · intro other recent
          exact none other (List.mem_of_mem_drop recent)

variable {key : α → κ} {identity : α → ι} {project : ι → κ}

/-- Of the entries with a key, those with an identity of another key are none. -/
theorem ofKey_ofKey (refines : ∀ entry, key entry = project (identity entry)) (entries : List α)
    (wanted : ι) (shared : κ) :
    ofKey identity wanted (ofKey key shared entries) =
      if project wanted = shared then ofKey identity wanted entries else [] := by
  rw [ofKey, ofKey, List.filter_filter]
  split
  · next same =>
      refine List.filter_congr fun entry _ => ?_
      by_cases hit : identity entry = wanted
      · simp [hit, refines, same]
      · simp [hit]
  · next other =>
      refine List.filter_eq_nil_iff.mpr fun entry _ both => ?_
      obtain ⟨hit, under⟩ := Bool.and_eq_true_iff.mp both
      rw [decide_eq_true_eq] at hit under
      exact other (by rw [← hit, ← refines, under])

/-- Windows by key are windows by identity exactly when no identities share a
full window. -/
theorem ofKey_foldl_retain_iff (refines : ∀ entry, key entry = project (identity entry))
    {keep : Nat} (keeps : 0 < keep) (history : List α) :
    (∀ wanted, ofKey identity wanted (history.foldl (retain key keep) []) =
        (ofKey identity wanted history).rtake keep) ↔
      ∀ shared, Unshared identity keep (ofKey key shared history) := by
  have split (shared : κ) := ofKey_rtake_iff identity keeps (ofKey key shared history)
  simp only [← ofKey_foldl_retain, ofKey_ofKey refines] at split
  constructor
  · intro windows shared
    refine (split shared).mp fun wanted => ?_
    split
    · exact windows wanted
    · exact (rtake_eq_self (Nat.zero_le _)).symm
  · intro unshared wanted
    have window := (split (project wanted)).mpr (unshared _) wanted
    rw [if_pos rfl, if_pos rfl] at window
    exact window

/-! ## Two readers of one collection -/

/-- Newest first: the newest entry that one of two readers sees is seen by the
other too, or is like the newest that the other sees. -/
def NewestAlike {β : Type} (first second : α → Bool) (kind : α → β) : List α → Prop
  | [] => True
  | entry :: older =>
      match first entry, second entry with
      | true, true => True
      | true, false => ∃ other, older.find? second = some other ∧ kind other = kind entry
      | false, true => ∃ other, older.find? first = some other ∧ kind other = kind entry
      | false, false => NewestAlike first second kind older

/-- The newest entries of two readers are alike exactly when the newest that one
of them sees is like that of the other. -/
theorem newestAlike_iff {β : Type} (first second : α → Bool) (kind : α → β) (entries : List α) :
    NewestAlike first second kind entries ↔
      (entries.find? first).map kind = (entries.find? second).map kind := by
  induction entries with
  | nil => exact iff_of_true trivial rfl
  | cons entry older ih =>
      rw [NewestAlike, List.find?_cons, List.find?_cons]
      cases first entry with
      | true =>
          cases second entry with
          | true => exact iff_of_true trivial rfl
          | false =>
              dsimp only
              rw [Option.map_some, eq_comm (a := some (kind entry)), Option.map_eq_some_iff]
      | false =>
          cases second entry with
          | true =>
              dsimp only
              rw [Option.map_some, Option.map_eq_some_iff]
          | false => exact ih

end Library
