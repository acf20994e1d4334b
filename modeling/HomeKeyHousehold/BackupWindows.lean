import HomeKeyHousehold.Backup

/-!
# What the store keeps

A node is a household and a node id, and the store prunes by the node id alone.
The windows of two nodes with one id are one window: each is kept as if it were
alone only while the copies of both fit in it.
-/

namespace HomeKeyHousehold

open Library

/-- The logical node a copy is of. -/
def StoredBackup.identity (backup : StoredBackup) : String × String :=
  (backup.householdId, backup.nodeId)

namespace BackupStore

/-- The copies of a logical node. -/
def copiesOf (store : BackupStore) (identity : String × String) : List StoredBackup :=
  ofKey StoredBackup.identity identity store.backups

/-- A new store after additions. -/
def after (keep : Nat) (added : List StoredBackup) : BackupStore := run asyncAdd { keep } added

/-- The newest copies of every logical node are kept, and no addition touches
the copies of another one. -/
structure KeepsNewest (keep : Nat) (added : List StoredBackup) : Prop where
  newest : ∀ identity, (after keep added).copiesOf identity =
    (ofKey StoredBackup.identity identity added).rtake keep
  frame : ∀ earlier backup, earlier ++ [backup] <+: added → ∀ identity, identity ≠ backup.identity →
    (after keep (earlier ++ [backup])).copiesOf identity = (after keep earlier).copiesOf identity

theorem after_append (keep : Nat) (earlier : List StoredBackup) (backup : StoredBackup) :
    after keep (earlier ++ [backup]) = (after keep earlier).asyncAdd backup := by
  rw [after, run_append]
  rfl

@[simp]
theorem keep_after (keep : Nat) (added : List StoredBackup) : (after keep added).keep = keep := by
  induction added using List.reverseRecOn with
  | nil => rfl
  | append_singleton earlier backup ih => rw [after_append, keep_asyncAdd, ih]

/-- The store holds the windows of the node ids. -/
theorem backups_after (keep : Nat) (added : List StoredBackup) :
    (after keep added).backups = added.foldl (retain StoredBackup.nodeId keep) [] := by
  induction added using List.reverseRecOn with
  | nil => rfl
  | append_singleton earlier backup ih =>
      rw [after_append, backups_asyncAdd, keep_after, ih, List.foldl_append, List.foldl_cons,
        List.foldl_nil]

theorem newest_iff {keep : Nat} (keeps : 0 < keep) (added : List StoredBackup) :
    (∀ identity, (after keep added).copiesOf identity =
        (ofKey StoredBackup.identity identity added).rtake keep) ↔
      ∀ nodeId, Unshared StoredBackup.identity keep (ofKey StoredBackup.nodeId nodeId added) := by
  unfold copiesOf
  rw [backups_after]
  exact @ofKey_foldl_retain_iff _ _ _ _ _ StoredBackup.nodeId StoredBackup.identity Prod.snd
    (fun _ => rfl) keep keeps added

/-- Every logical node keeps its newest copies, untouched by the others, exactly
when those that share a node id do not fill its window. -/
theorem keepsNewest_iff {keep : Nat} (keeps : 0 < keep) (added : List StoredBackup) :
    KeepsNewest keep added ↔
      ∀ nodeId, Unshared StoredBackup.identity keep (ofKey StoredBackup.nodeId nodeId added) := by
  constructor
  · intro kept
    exact (newest_iff keeps added).mp kept.newest
  · intro unshared
    have early {part : List StoredBackup} (initial : part <+: added) :
        ∀ identity, (after keep part).copiesOf identity =
          (ofKey StoredBackup.identity identity part).rtake keep :=
      (newest_iff keeps part).mpr fun nodeId =>
        (unshared nodeId).of_sublist (initial.sublist.filter _)
    refine ⟨early List.prefix_rfl, ?_⟩
    intro earlier backup initial identity other
    have alone : ofKey StoredBackup.identity identity (earlier ++ [backup]) =
        ofKey StoredBackup.identity identity earlier := by
      rw [ofKey, List.filter_append,
        List.filter_cons_of_neg (by simpa using fun same => other same.symm), List.filter_nil,
        List.append_nil, ofKey]
    rw [early initial, early ((List.prefix_append _ _).trans initial), alone]

/-- A copy of the gate of a household. -/
def gateCopy (householdId blob : String) : StoredBackup :=
  { nodeId := "GATE-001", householdId, created := "", nodeTime := none, blob }

theorem gateCopies_kept : KeepsNewest 7 [gateCopy "HOME001" "01", gateCopy "HOME002" "02"] := by
  refine (keepsNewest_iff (by decide) _).mpr fun nodeId => Or.inl ?_
  exact Nat.le_trans (List.length_filter_le _ _) (by decide)

/-- The gate of another household evicts the only copy of the first. -/
theorem gateCopy_evicted :
    ¬ KeepsNewest 1 [gateCopy "HOME001" "01", gateCopy "HOME002" "02"] := by
  intro kept
  exact absurd (kept.newest ("HOME001", "GATE-001")) (by decide)

end BackupStore

end HomeKeyHousehold
