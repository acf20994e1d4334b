import HomeKeyHousehold.BackupButton
import HomeKeyHousehold.Restore

/-!
# What the backup sensor says about a restore

The sensor of a node announces what a restore has to work with, from the copies
filed under the id of its node.  The restore itself takes the newest copy of the
household of its entry.
-/

namespace HomeKeyHousehold

open Library

/-! ## The sensor -/

/-- The clock of a sensor, and how it reads a stamp. -/
structure SensorWorld where
  now : Int
  fromIsoformat : String → Option Datetime

/-- `_age_seconds(_parse_dt(value))`. -/
def ageSeconds (world : SensorWorld) (value : Option String) : Option Int :=
  ((unlessBlank value).bind world.fromIsoformat).map fun parsed =>
    max 0 ((world.now - parsed.instant) / microsPerSecond)

/-- The attributes every entity of a node has. -/
structure NodeAttributes where
  householdId : String
  nodeId : String
  nodeRole : String
  nodeState : String
  lastSeen : Option String

def nodeAttributes (node : Node) : NodeAttributes :=
  { householdId := node.householdId
    nodeId := node.nodeId
    nodeRole := node.nodeRole
    nodeState := node.nodeState
    lastSeen := node.lastSeen }

/-- One copy, without its contents. -/
structure StoredDetail where
  created : String
  ageSeconds : Option Int
  includesCredentials : Bool
  hexBytes : Nat
  nodeTime : Option PyInt

def storedDetail (world : SensorWorld) (backup : StoredBackup) : StoredDetail :=
  { created := backup.created
    ageSeconds := ageSeconds world (some backup.created)
    includesCredentials := backup.includesCredentials
    hexBytes := backup.blob.length / 2
    nodeTime := backup.nodeTime }

/-- `restore`: what a restore has, and what it still needs. -/
structure RestoreBlock where
  available : Bool
  fromCredentialsBackup : Option Bool
  recoverySecretRequired : Bool := true
  service : String := "homekey_household.restore_backup"
  deriving DecidableEq

/-- The block for the copies of a node. -/
def restoreBlock (stored : List StoredBackup) : RestoreBlock :=
  { available := !stored.isEmpty
    fromCredentialsBackup := stored.getLast?.map StoredBackup.includesCredentials }

/-- The attributes of `HomeKeyBackupSensor` that a known node adds. -/
structure BackupAttributes where
  node : NodeAttributes
  status : Option BackupOutcome
  backupTimestamp : Option String
  backupAgeSeconds : Option Int
  lastEvent : Option BackupOutcome
  storedBackups : Nat
  /-- The newest copy, if there is one. -/
  stored : Option StoredDetail
  storedBackupsDetail : List StoredDetail
  restore : RestoreBlock
  apiConfigured : Bool

/-- `_stored_backups`: the copies of a node, if there is a store. -/
def storedBackups (store : Option BackupStore) (nodeId : String) : List StoredBackup :=
  match store with
  | none => []
  | some store => store.forNode nodeId

/-- `extra_state_attributes` of the backup sensor; an unknown node has none. -/
def extraStateAttributes (world : SensorWorld) (coordinator : Coordinator)
    (runtime : Option Runtime) (store : Option BackupStore) (nodeId : String) :
    Option BackupAttributes :=
  (coordinator.getNode nodeId).map fun node =>
    let stored := storedBackups store nodeId
    { node := nodeAttributes node
      status := node.backup.map BackupRecord.status
      backupTimestamp := node.backup.bind BackupRecord.timestamp
      backupAgeSeconds := ageSeconds world (node.backup.bind BackupRecord.timestamp)
      lastEvent := node.backupStatus
      storedBackups := stored.length
      stored := stored.getLast?.map (storedDetail world)
      storedBackupsDetail := stored.map (storedDetail world)
      restore := restoreBlock stored
      apiConfigured := (runtime.map entryBackupSettings).any backupClientFor }

/-! ## The copy a restore uses -/

/-- The copy that is restored when no backup is passed. -/
def copyFor (store : BackupStore) (householdId : String) : Option StoredBackup :=
  (store.ofHousehold householdId).getLast?

theorem blobFor_none (store : BackupStore) (householdId : String) :
    blobFor store householdId none = (copyFor store householdId).map StoredBackup.blob := rfl

variable {store : BackupStore} {runtime : Runtime} {copy : StoredBackup}

/-- A restore that is passed no backup sends the copy that is selected for its
entry, if it gets to the node. -/
theorem asyncRestoreEntry_sends_copyFor {runtimes : Keyed Runtime.entryId}
    {entryId recoverySecret : String} (sha256 : Sha256) (world : RestoreWorld)
    (authorised : recoverySecret ≠ "") (running : runtimes.get? entryId = some runtime)
    (configured : backupClientFor (entryBackupSettings runtime) = true)
    (selected : copyFor store runtime.coordinator.householdId = some copy) :
    (asyncRestoreEntry sha256 runtimes store entryId recoverySecret none world).sent =
      if (restoreClient sha256 (entryBackupSettings runtime) runtime.transport world.connect).isOk &&
          world.restore.leaves then
        [restoreRequest recoverySecret copy.blob]
      else [] := by
  have chosen : blobFor store (entryBackupSettings runtime).householdId none = some copy.blob := by
    rw [blobFor_none]
    exact Option.map_eq_some_iff.mpr ⟨copy, selected, rfl⟩
  have restorable : Restorable runtimes store entryId recoverySecret none runtime copy.blob :=
    ⟨authorised, running, configured, chosen⟩
  rw [restorable.sent_eq, asyncRestoreOnNode_sent]

/-- What a node's sensor announces is what a restore of its entry would use. -/
structure AnnouncesRestore (store : BackupStore) (runtime : Runtime) (nodeId : String) : Prop where
  available : (restoreBlock (storedBackups (some store) nodeId)).available = true ↔
    ∃ copy, copyFor store runtime.coordinator.householdId = some copy
  credentials : (restoreBlock (storedBackups (some store) nodeId)).fromCredentialsBackup =
    (copyFor store runtime.coordinator.householdId).map StoredBackup.includesCredentials

/-- The copies a restore of a household selects from. -/
def selectable (householdId : String) (backup : StoredBackup) : Bool :=
  householdId = "" ∨ backup.householdId = householdId

/-- The newest copy that is filed under the node or selectable for the household
is both, or the newest of the other kind was taken like it. -/
def NewestServes (store : BackupStore) (householdId nodeId : String) : Prop :=
  NewestAlike (fun backup => decide (backup.nodeId = nodeId)) (selectable householdId)
    StoredBackup.includesCredentials store.backups.reverse

theorem available_restoreBlock (stored : List StoredBackup) :
    (restoreBlock stored).available = (restoreBlock stored).fromCredentialsBackup.isSome := by
  cases stored with
  | nil => rfl
  | cons first rest => simp [restoreBlock, List.getLast?_cons]

/-- The sensor announces what a restore would use exactly when the newest copy
serves both. -/
theorem announcesRestore_iff (store : BackupStore) (runtime : Runtime) (nodeId : String) :
    AnnouncesRestore store runtime nodeId ↔
      NewestServes store runtime.coordinator.householdId nodeId := by
  have filed : (restoreBlock (storedBackups (some store) nodeId)).fromCredentialsBackup =
      (store.backups.reverse.find? fun backup => decide (backup.nodeId = nodeId)).map
        StoredBackup.includesCredentials := by
    rw [restoreBlock, storedBackups, BackupStore.forNode, ofKey, ← List.head?_reverse,
      ← List.filter_reverse, List.head?_filter]
  have selected : copyFor store runtime.coordinator.householdId =
      store.backups.reverse.find? (selectable runtime.coordinator.householdId) := by
    rw [copyFor, BackupStore.ofHousehold, ← List.head?_reverse, ← List.filter_reverse,
      List.head?_filter]
    rfl
  rw [NewestServes, newestAlike_iff, ← filed, ← selected]
  constructor
  · intro announces
    exact announces.credentials
  · intro alike
    refine ⟨?_, alike⟩
    rw [available_restoreBlock, alike, Option.isSome_map, Option.isSome_iff_exists]

/-! ### A copy of another node -/

/-- A store that holds one copy, of the barn, with its credentials. -/
def barnStore : BackupStore :=
  { backups :=
      [{ nodeId := "BARN-002"
         householdId := "HOME001"
         created := "2026-01-01T00:00:00+00:00"
         nodeTime := none
         blob := "00"
         includesCredentials := true }] }

/-- The sensor of the gate says that there is nothing to restore, and a restore
of the entry it shares with the barn would send the copy of the barn. -/
theorem gate_restore_unannounced :
    (sharedRuntime.coordinator.getNode "GATE-001").isSome = true ∧
      (restoreBlock (storedBackups (some barnStore) "GATE-001")).available = false ∧
      copyFor barnStore sharedRuntime.coordinator.householdId = barnStore.backups.head? ∧
      ¬ AnnouncesRestore barnStore sharedRuntime "GATE-001" := by
  refine ⟨by decide +kernel, rfl, rfl, ?_⟩
  intro announces
  have announced := announces.available.mpr ⟨_, rfl⟩
  cases announced

end HomeKeyHousehold
