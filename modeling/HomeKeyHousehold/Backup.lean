import HomeKeyHousehold.Library.Retention
import HomeKeyHousehold.DirectPoller
import HomeKeyHousehold.OptionsFlow

/-!
# Backups

A node hands its encrypted backup over in the reply to a request and keeps none.
The store holds the newest few copies, files each under the id and the household
it is told, and writes all of them to a file that is read again after a restart.
-/

namespace HomeKeyHousehold

open Library

/-! ## Stored copies -/

/-- One backup, kept as the node produced it. -/
structure StoredBackup where
  nodeId : String
  householdId : String
  created : String
  nodeTime : Option PyInt
  blob : String
  includesCredentials : Bool := false
  deriving DecidableEq, Repr

namespace StoredBackup

/-- `as_dict`. -/
def asDict (backup : StoredBackup) : Json :=
  .obj [("node_id", .str backup.nodeId), ("household_id", .str backup.householdId),
    ("created", .str backup.created),
    ("node_time", (backup.nodeTime.map PyInt.toJson).getD .null), ("blob", .str backup.blob),
    ("includes_credentials", .bool backup.includesCredentials)]

/-- `from_dict`: a record without a blob or a node id is not usable. -/
def fromDict (raw : Json) : Option StoredBackup :=
  match raw with
  | .obj members =>
      match Json.get members "blob", Json.get members "node_id" with
      | .str blob, .str nodeId =>
          if blob = "" ∨ nodeId = "" then none
          else
            some
              { nodeId
                householdId := ((Json.get members "household_id").orElse (.str "")).text
                created := ((Json.get members "created").orElse (.str "")).text
                nodeTime := Json.asPyInt (Json.get members "node_time")
                blob
                includesCredentials :=
                  match Json.get members "includes_credentials" with
                  | .bool value => value
                  | _ => false }
      | _, _ => none
  | _ => none

theorem text_orElse_blank (text : String) : ((Json.str text).orElse (.str "")).text = text := by
  rw [Json.orElse]
  split
  · rfl
  · next blank =>
      have empty : text = "" := by simpa [Json.truthy] using blank
      rw [empty]
      rfl

/-- A record that is written is read again, if it can be filed. -/
theorem fromDict_asDict {backup : StoredBackup} (named : backup.nodeId ≠ "")
    (filled : backup.blob ≠ "") : fromDict backup.asDict = some backup := by
  obtain ⟨nodeId, householdId, created, nodeTime, blob, includesCredentials⟩ := backup
  have stamp : Json.asPyInt ((nodeTime.map PyInt.toJson).getD .null) = nodeTime := by
    cases nodeTime with
    | none => rfl
    | some value => exact Json.asPyInt_toJson value
  have household : ((Json.str householdId).orElse (.str "")).text = householdId :=
    text_orElse_blank householdId
  have stored : ((Json.str created).orElse (.str "")).text = created := text_orElse_blank created
  have usable : ¬ (blob = "" ∨ nodeId = "") := not_or.mpr ⟨filled, named⟩
  rw [asDict, fromDict]
  show (if blob = "" ∨ nodeId = "" then none else some _) = _
  rw [if_neg usable]
  exact congrArg some (by
    show StoredBackup.mk nodeId ((Json.str householdId).orElse (.str "")).text
      ((Json.str created).orElse (.str "")).text
      (Json.asPyInt ((nodeTime.map PyInt.toJson).getD .null)) blob includesCredentials = _
    rw [household, stored, stamp])

/-- A record without a node id is not read again. -/
theorem fromDict_asDict_unnamed {backup : StoredBackup} (unnamed : backup.nodeId = "") :
    fromDict backup.asDict = none := by
  obtain ⟨nodeId, householdId, created, nodeTime, blob, includesCredentials⟩ := backup
  rw [asDict, fromDict]
  exact if_pos (Or.inr unnamed)

end StoredBackup

/-! ## The store -/

def backupKeep : Nat := 7

/-- `BackupStore`, with the document in its file. -/
structure BackupStore where
  keep : Nat := backupKeep
  backups : List StoredBackup := []
  saved : Option Dict := none

namespace BackupStore

/-- The records of a document; anything but a list counts as none. -/
def recordsOf (document : Option Dict) : List Json :=
  match document.map fun members => Json.get members "backups" with
  | some (.arr records) => records
  | _ => []

/-- `async_load`: an unreadable record does not stop the others. -/
def asyncLoad (store : BackupStore) : BackupStore :=
  { store with backups := (recordsOf store.saved).filterMap StoredBackup.fromDict }

/-- `for_node`. -/
def forNode (store : BackupStore) (nodeId : String) : List StoredBackup :=
  ofKey StoredBackup.nodeId nodeId store.backups

/-- `latest`, for one node or across all of them. -/
def latest (store : BackupStore) (nodeId : Option String) : Option StoredBackup :=
  match nodeId with
  | none => store.backups.getLast?
  | some nodeId => (store.forNode nodeId).getLast?

/-- `_prune`.  The records are distinct objects, so that those to be dropped are
told apart from all others. -/
def prune (store : BackupStore) (nodeId : String) : BackupStore :=
  { store with
    backups := dropFirst (fun backup => backup.nodeId = nodeId)
      ((store.forNode nodeId).length - store.keep) store.backups }

/-- The document a store writes. -/
def document (backups : List StoredBackup) : Dict :=
  [("backups", .arr (backups.map StoredBackup.asDict))]

/-- `async_add`. -/
def asyncAdd (store : BackupStore) (backup : StoredBackup) : BackupStore :=
  let kept := { store with backups := store.backups ++ [backup] }.prune backup.nodeId
  { kept with saved := some (document kept.backups) }

/-- Adding a copy slides the window of its node id. -/
@[simp]
theorem backups_asyncAdd (store : BackupStore) (backup : StoredBackup) :
    (store.asyncAdd backup).backups =
      retain StoredBackup.nodeId store.keep store.backups backup := rfl

@[simp]
theorem keep_asyncAdd (store : BackupStore) (backup : StoredBackup) :
    (store.asyncAdd backup).keep = store.keep := rfl

/-- The records that can be filed are the ones that are read again. -/
theorem filterMap_recordsOf_document (backups : List StoredBackup)
    (filled : ∀ backup ∈ backups, backup.blob ≠ "") :
    (recordsOf (some (document backups))).filterMap StoredBackup.fromDict =
      backups.filter fun backup => backup.nodeId ≠ "" := by
  have records : recordsOf (some (document backups)) = backups.map StoredBackup.asDict := rfl
  rw [records, List.filterMap_map]
  clear records
  induction backups with
  | nil => rfl
  | cons backup rest ih =>
      have others := ih fun other member => filled other (List.mem_cons_of_mem backup member)
      by_cases named : backup.nodeId = ""
      · have dropped : (StoredBackup.fromDict ∘ StoredBackup.asDict) backup = none :=
          StoredBackup.fromDict_asDict_unnamed named
        rw [List.filterMap_cons_none dropped, others,
          List.filter_cons_of_neg (by simpa using named)]
      · have read : (StoredBackup.fromDict ∘ StoredBackup.asDict) backup = some backup :=
          StoredBackup.fromDict_asDict named (filled backup List.mem_cons_self)
        rw [List.filterMap_cons_some read, others, List.filter_cons_of_pos (by simpa using named)]

end BackupStore

end HomeKeyHousehold
