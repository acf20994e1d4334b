import HomeKeyHousehold.BackupWindows

/-!
# The backup file

The file is read once, leniently, and from then on written whole after every
addition.  What was read or added can be filed, so that the file is read back as
the list it was written from.
-/

namespace HomeKeyHousehold

open Library

/-! ## Records -/

/-- A text that is not empty. -/
def isFilledText : Json → Bool
  | .str text => text ≠ ""
  | _ => false

/-- A record that can be filed: it names its node and holds a blob. -/
def isUsable (record : Json) : Bool :=
  match record with
  | .obj members =>
      isFilledText (Json.get members "blob") && isFilledText (Json.get members "node_id")
  | _ => false

/-- A record and the copy it describes. -/
structure Describes (record : Json) (backup : StoredBackup) : Prop where
  members : ∃ members, record = .obj members ∧
    Json.get members "blob" = .str backup.blob ∧
    Json.get members "node_id" = .str backup.nodeId ∧
    backup.householdId = ((Json.get members "household_id").orElse (.str "")).text ∧
    backup.created = ((Json.get members "created").orElse (.str "")).text ∧
    backup.nodeTime = Json.asPyInt (Json.get members "node_time") ∧
    (backup.includesCredentials = true ↔ Json.get members "includes_credentials" = .bool true)
  filed : backup.nodeId ≠ "" ∧ backup.blob ≠ ""

namespace StoredBackup

/-- A copy that can be filed. -/
def Filed (backup : StoredBackup) : Prop := backup.nodeId ≠ "" ∧ backup.blob ≠ ""

theorem isFilledText_iff {value : Json} :
    isFilledText value = true ↔ ∃ text, value = .str text ∧ text ≠ "" := by
  cases value <;> simp [isFilledText]

theorem fromDict_of_not_usable {record : Json} (unusable : isUsable record = false) :
    fromDict record = none := by
  cases record with
  | obj members =>
      rw [fromDict]
      split
      · next blob nodeId blobText nodeText =>
          rw [isUsable, blobText, nodeText] at unusable
          by_cases empty : blob = "" ∨ nodeId = ""
          · exact if_pos empty
          · simp [isFilledText, not_or.mp empty] at unusable
      · rfl
  | null | bool _ | int _ | float _ | str _ | arr _ => rfl

theorem fromDict_of_usable {record : Json} (usable : isUsable record = true) :
    ∃ backup, fromDict record = some backup ∧ Describes record backup := by
  cases record with
  | obj members =>
      rw [isUsable, Bool.and_eq_true, isFilledText_iff, isFilledText_iff] at usable
      obtain ⟨⟨blob, blobText, blobFilled⟩, nodeId, nodeText, nodeFilled⟩ := usable
      have empty : ¬ (blob = "" ∨ nodeId = "") := not_or.mpr ⟨blobFilled, nodeFilled⟩
      rw [fromDict, blobText, nodeText]
      dsimp only
      rw [if_neg empty]
      refine ⟨_, rfl, ⟨members, rfl, blobText, nodeText, rfl, rfl, rfl, ?_⟩, nodeFilled,
        blobFilled⟩
      cases Json.get members "includes_credentials" <;> simp
  | null | bool _ | int _ | float _ | str _ | arr _ => cases usable

end StoredBackup

namespace BackupStore

/-- A new store over a file with the given content; anything but an object is no
document. -/
def ofFile (keep : Nat) (content : Option Json) : BackupStore :=
  { keep
    saved :=
      match content with
      | some (.obj members) => some members
      | _ => none }

/-- A load takes the usable records, in the order of the file. -/
theorem forall₂_filterMap_fromDict (records : List Json) :
    List.Forall₂ Describes (records.filter isUsable) (records.filterMap StoredBackup.fromDict) := by
  induction records with
  | nil => exact .nil
  | cons record rest ih =>
      cases usable : isUsable record with
      | true =>
          obtain ⟨backup, read, described⟩ := StoredBackup.fromDict_of_usable usable
          rw [List.filter_cons_of_pos usable, List.filterMap_cons_some read]
          exact .cons described ih
      | false =>
          rw [List.filter_cons_of_neg (by simp [usable]),
            List.filterMap_cons_none (StoredBackup.fromDict_of_not_usable usable)]
          exact ih

/-! ## Stores of copies that can be filed -/

/-- All copies of a store can be filed. -/
def AllFiled (store : BackupStore) : Prop := ∀ backup ∈ store.backups, backup.Filed

theorem allFiled_asyncLoad (store : BackupStore) : store.asyncLoad.AllFiled := by
  intro backup loaded
  obtain ⟨record, -, read⟩ := List.mem_filterMap.mp loaded
  cases usable : isUsable record with
  | true =>
      obtain ⟨described, made, describes⟩ := StoredBackup.fromDict_of_usable usable
      rw [made] at read
      cases read
      exact describes.filed
  | false =>
      rw [StoredBackup.fromDict_of_not_usable usable] at read
      cases read

theorem AllFiled.asyncAdd {store : BackupStore} (all : store.AllFiled) {backup : StoredBackup}
    (filed : backup.Filed) : (store.asyncAdd backup).AllFiled := by
  intro kept member
  rw [backups_asyncAdd] at member
  rcases mem_retain member with held | rfl
  · exact all kept held
  · exact filed

/-- The file of such a store is read back as its list. -/
theorem asyncLoad_document {store : BackupStore} (all : store.AllFiled)
    (written : store.saved = some (document store.backups)) :
    store.asyncLoad.backups = store.backups := by
  have named : ∀ backup ∈ store.backups, decide (backup.nodeId ≠ "") = true := by
    intro backup member
    exact decide_eq_true (all backup member).1
  rw [asyncLoad, written, filterMap_recordsOf_document _ fun backup member => (all backup member).2]
  exact List.filter_eq_self.mpr named

/-! ## From any file -/

/-- What holds of a store that was loaded with some copies and given others. -/
structure FollowsFile (keep : Nat) (loaded added : List StoredBackup) (store : BackupStore) :
    Prop where
  keep_eq : store.keep = keep
  filed : store.AllFiled
  ordered : store.backups.Sublist (loaded ++ added)

theorem FollowsFile.asyncAdd {keep : Nat} (keeps : 1 ≤ keep) {loaded added : List StoredBackup}
    {store : BackupStore} (follows : FollowsFile keep loaded added store) {backup : StoredBackup}
    (filed : backup.Filed) :
    FollowsFile keep loaded (added ++ [backup]) (store.asyncAdd backup) where
  keep_eq := follows.keep_eq
  filed := follows.filed.asyncAdd filed
  ordered := by
    obtain ⟨survivors, appended, kept⟩ := retain_eq_append StoredBackup.nodeId
      (follows.keep_eq ▸ keeps) store.backups backup
    rw [backups_asyncAdd, appended, ← List.append_assoc]
    exact (kept.trans follows.ordered).append_right [backup]

theorem followsFile_run {keep : Nat} (keeps : 1 ≤ keep) (content : Option Json)
    {added : List StoredBackup} (filed : ∀ backup ∈ added, backup.Filed) :
    FollowsFile keep (ofFile keep content).asyncLoad.backups added
      (run asyncAdd (ofFile keep content).asyncLoad added) := by
  induction added using List.reverseRecOn with
  | nil => exact ⟨rfl, allFiled_asyncLoad _, (List.append_nil _).symm ▸ List.Sublist.refl _⟩
  | append_singleton earlier backup ih =>
      rw [run_concat]
      exact (ih fun old member => filed old (List.mem_append_left _ member)).asyncAdd keeps
        (filed backup (List.mem_append_right _ List.mem_cons_self))

/-- Whatever is in the file, a load takes its usable records in order, and after each
addition the file holds what is in memory: what survives in its old order, then the
new copy, within the window of its node id; and it is read again as that list. -/
theorem stored_in_step {keep : Nat} (keeps : 1 ≤ keep) (content : Option Json)
    {added : List StoredBackup} (filed : ∀ backup ∈ added, backup.Filed) :
    let loaded := (ofFile keep content).asyncLoad
    List.Forall₂ Describes ((recordsOf (ofFile keep content).saved).filter isUsable)
      loaded.backups ∧
    ∀ before backup after, added = before ++ backup :: after →
      let store := run asyncAdd loaded before
      let next := run asyncAdd loaded (before ++ [backup])
      next.saved = some (document next.backups) ∧
      (∃ survivors, next.backups = survivors ++ [backup] ∧ survivors.Sublist store.backups) ∧
      next.backups.Sublist (loaded.backups ++ (before ++ [backup])) ∧
      (next.forNode backup.nodeId).length ≤ keep ∧
      ∀ other : Nat, ({ keep := other, saved := next.saved } : BackupStore).asyncLoad.backups =
        next.backups := by
  refine ⟨forall₂_filterMap_fromDict _, ?_⟩
  rintro before backup after rfl
  have earlier := followsFile_run keeps content fun old member =>
    filed old (List.mem_append_left (backup :: after) member)
  have later := earlier.asyncAdd keeps
    (filed backup (List.mem_append_right before List.mem_cons_self))
  dsimp only
  rw [run_concat]
  generalize run asyncAdd (ofFile keep content).asyncLoad before = store at earlier later
  refine ⟨rfl, ?_, later.ordered, ?_, ?_⟩
  · rw [backups_asyncAdd, earlier.keep_eq]
    exact retain_eq_append StoredBackup.nodeId keeps store.backups backup
  · rw [forNode, backups_asyncAdd, ofKey_retain_self, length_rtake, earlier.keep_eq]
    exact Nat.min_le_left _ _
  · intro other
    exact @asyncLoad_document
      { keep := other, backups := (store.asyncAdd backup).backups,
        saved := (store.asyncAdd backup).saved } later.filed rfl

/-- A file edited by hand: two copies, one with a boolean for a stamp, and what is
no record. -/
def editedFile : Json :=
  .obj [("backups", .arr
    [.obj [("node_id", .str "GATE-001"), ("blob", .str "01"), ("node_time", .bool true)], .null,
      .obj [("node_id", .str "GATE-001"), ("blob", .str "02")]])]

theorem editedFile_in_step :
    let next := run asyncAdd (ofFile 1 (some editedFile)).asyncLoad [gateCopy "HOME001" "03"]
    next.saved = some (document next.backups) ∧ (next.forNode "GATE-001").length ≤ 1 := by
  have copies : ∀ backup ∈ [gateCopy "HOME001" "03"], backup.Filed := by
    intro backup member
    rw [List.mem_singleton.mp member]
    exact ⟨by decide, by decide⟩
  obtain ⟨saved, -, -, bounded, -⟩ :=
    (stored_in_step (Nat.le_refl 1) (some editedFile) copies).2 [] _ [] rfl
  exact ⟨saved, bounded⟩

end BackupStore

end HomeKeyHousehold
