import HomeKeyHousehold.BackupEntry

/-!
# Restoring a node

A restore hands the node a backup and the secret it was sealed with.  Without a
running client the node is connected to first, by the routine that every poll of
a working node was made for.
-/

namespace HomeKeyHousehold

open Library

/-! ## Restoring an entry -/

/-- What the world contributes to one restore. -/
structure RestoreWorld where
  connect : ConnectWorld
  restore : Reply
  info : Reply

/-- What one restore leaves behind. -/
structure Restored where
  sent : List Request
  error : Option ServiceError

/-- The request that hands a backup over. -/
def restoreRequest (recoverySecret backup : String) : Request :=
  ⟨"/backup/restore", .obj [("secret", .str recoverySecret), ("backup", .str backup)]⟩

/-- `async_restore_backup`. -/
def DirectClient.asyncRestoreBackup (client : DirectClient) (recoverySecret backup : String)
    (reply : Reply) : Posted :=
  client.post (restoreRequest recoverySecret backup).path
    (restoreRequest recoverySecret backup).body reply

/-- The client a restore goes through. -/
def restoreClient (sha256 : Sha256) (settings : BackupSettings) (transport : Transport)
    (world : ConnectWorld) : Except Raised DirectClient :=
  match transport.runningClient with
  | some client => .ok client
  | none => (settings.connect sha256 world).map DirectProbe.client

/-- `_async_restore_on_node`; the answer is only looked at for the log. -/
def asyncRestoreOnNode (sha256 : Sha256) (settings : BackupSettings) (transport : Transport)
    (recoverySecret blob : String) (world : RestoreWorld) :
    List Request × Except Raised DirectClient :=
  match restoreClient sha256 settings transport world.connect with
  | .error raised => ([], .error raised)
  | .ok client =>
      let posted := client.asyncRestoreBackup recoverySecret blob world.restore
      (posted.sent, posted.result.map fun _ => client)

/-- What reading the identity back raises; a node that cannot be reached does not
matter. -/
def readBack (client : DirectClient) (reply : Reply) : Option ServiceError :=
  match client.request "/api/ha/info" reply with
  | .ok (.obj _) => none
  | .ok _ => some (.raised .other)
  | .error (.direct ..) => none
  | .error raised => some (.raised raised)

/-- The stored copies a restore may use: those of the household, if there is one. -/
def BackupStore.ofHousehold (store : BackupStore) (householdId : String) : List StoredBackup :=
  store.backups.filter fun backup => householdId = "" ∨ backup.householdId = householdId

/-- The blob of a restore: the one that is passed, or the newest stored one. -/
def blobFor (store : BackupStore) (householdId : String) (backupHex : Option String) :
    Option String :=
  (unlessBlank backupHex).or
    ((store.ofHousehold householdId).getLast?.map StoredBackup.blob)

/-- `async_restore_entry`. -/
def asyncRestoreEntry (sha256 : Sha256) (runtimes : Keyed Runtime.entryId) (store : BackupStore)
    (entryId recoverySecret : String) (backupHex : Option String) (world : RestoreWorld) :
    Restored :=
  if recoverySecret = "" then
    ⟨[], some (.validation
      ("A recovery secret is required to restore: it is the key the backup was sealed with."))⟩
  else
    match runtimes.get? entryId with
    | none => ⟨[], some (.validation ("Unknown HomeKey entry: " ++ entryId))⟩
    | some runtime =>
        let settings := entryBackupSettings runtime
        if backupClientFor settings then
          match blobFor store settings.householdId backupHex with
          | none =>
              ⟨[], some (.validation
                ("No stored backup to restore from: pass one with 'backup', or back the node " ++
                  "up first."))⟩
          | some blob =>
              let (sent, restored) :=
                asyncRestoreOnNode sha256 settings runtime.transport recoverySecret blob world
              match restored with
              | .error (.direct _ message) =>
                  ⟨sent, some (.validation
                    ("Could not restore the node for " ++ entryId ++ ": " ++ message))⟩
              | .error raised => ⟨sent, some (.raised raised)⟩
              | .ok client => ⟨sent, readBack client world.info⟩
        else
          ⟨[], some (.validation
            ("This node cannot be reached for a restore: its address, certificate fingerprint " ++
              "and Web UI credentials are not configured. Set them under Configure on the entry."))⟩

/-! ## What is sent -/

variable {sha256 : Sha256} {runtimes : Keyed Runtime.entryId} {store : BackupStore}
variable {entryId recoverySecret blob : String} {backupHex : Option String}
variable {world : RestoreWorld} {runtime : Runtime}

/-- An entry that a restore has a secret, settings and a blob for. -/
structure Restorable (runtimes : Keyed Runtime.entryId) (store : BackupStore)
    (entryId recoverySecret : String) (backupHex : Option String) (runtime : Runtime)
    (blob : String) : Prop where
  authorised : recoverySecret ≠ ""
  running : runtimes.get? entryId = some runtime
  configured : backupClientFor (entryBackupSettings runtime) = true
  chosen : blobFor store (entryBackupSettings runtime).householdId backupHex = some blob

/-- A restorable entry sends what its node is handed. -/
theorem Restorable.sent_eq
    (restorable : Restorable runtimes store entryId recoverySecret backupHex runtime blob)
    (sha256 : Sha256) (world : RestoreWorld) :
    (asyncRestoreEntry sha256 runtimes store entryId recoverySecret backupHex world).sent =
      (asyncRestoreOnNode sha256 (entryBackupSettings runtime) runtime.transport recoverySecret blob
        world).1 := by
  rw [asyncRestoreEntry, if_neg restorable.authorised, restorable.running]
  dsimp only
  rw [if_pos restorable.configured, restorable.chosen]
  dsimp only
  split
  · rfl
  · rfl
  · rfl

/-- Nothing else sends anything, or returns. -/
theorem asyncRestoreEntry_cases (sha256 : Sha256) (runtimes : Keyed Runtime.entryId)
    (store : BackupStore) (entryId recoverySecret : String) (backupHex : Option String)
    (world : RestoreWorld) :
    (∃ runtime blob, Restorable runtimes store entryId recoverySecret backupHex runtime blob) ∨
      ∃ error, asyncRestoreEntry sha256 runtimes store entryId recoverySecret backupHex world =
        ⟨[], some error⟩ := by
  by_cases authorised : recoverySecret = ""
  · exact Or.inr ⟨_, by rw [asyncRestoreEntry, if_pos authorised]⟩
  cases running : runtimes.get? entryId with
  | none => exact Or.inr ⟨_, by rw [asyncRestoreEntry, if_neg authorised, running]⟩
  | some runtime =>
      by_cases configured : backupClientFor (entryBackupSettings runtime) = true
      · cases chosen : blobFor store (entryBackupSettings runtime).householdId backupHex with
        | none =>
            right
            rw [asyncRestoreEntry, if_neg authorised, running]
            dsimp only
            rw [if_pos configured, chosen]
            exact ⟨_, rfl⟩
        | some blob => exact Or.inl ⟨runtime, blob, authorised, running, configured, chosen⟩
      · right
        rw [asyncRestoreEntry, if_neg authorised, running]
        dsimp only
        rw [if_neg configured]
        exact ⟨_, rfl⟩

/-- A node that is reached is handed the backup, if the request gets there. -/
theorem asyncRestoreOnNode_sent (settings : BackupSettings) (transport : Transport)
    (recoverySecret blob : String) (world : RestoreWorld) :
    (asyncRestoreOnNode sha256 settings transport recoverySecret blob world).1 =
      if (restoreClient sha256 settings transport world.connect).isOk && world.restore.leaves then
        [restoreRequest recoverySecret blob]
      else [] := by
  rw [asyncRestoreOnNode]
  cases restoreClient sha256 settings transport world.connect with
  | error raised => rfl
  | ok client =>
      cases leaves : world.restore.leaves with
      | false => simp [DirectClient.asyncRestoreBackup, DirectClient.post, leaves, Except.isOk]
      | true => simp [DirectClient.asyncRestoreBackup, DirectClient.post, leaves, Except.isOk]; rfl

/-! ## Replacement nodes -/

/-- Whether a node says which node it is. -/
def reportsNodeId (info state : Dict) : Bool :=
  (((Json.get state "node_id").orElse (Json.get (deviceOf info) "node_id")).orElse (.str "")).truthy

theorem truthy_orElse_blank (value : Json) : (value.orElse (.str "")).truthy = value.truthy := by
  rw [Json.truthy_orElse]
  exact Bool.or_false value.truthy

variable {info state : Dict}

/-- A node that says which node it is has an identity if it has a household. -/
theorem resolveIdentity_isOk (named : reportsNodeId info state = true) :
    (resolveIdentity (.obj state) (.obj info)).isOk = (Json.get state "household_id").truthy := by
  unfold reportsNodeId at named
  rw [resolveIdentity]
  simp only [membersOf, bind, Except.bind, named, if_true, truthy_orElse_blank]
  cases household : (Json.get state "household_id").truthy with
  | false => rfl
  | true => rfl

/-- Without a running client, a node that serves is connected to if it has a
household. -/
theorem restoreClient_isOk {settings : BackupSettings} {transport : Transport}
    {connect : ConnectWorld} (idle : transport.runningClient = none)
    (serves : connect.Serves sha256 (settings.host.getD "") (settings.port.getD defaultHttpsPort)
      (settings.fingerprint.getD "") info state)
    (named : reportsNodeId info state = true) :
    (restoreClient sha256 settings transport connect).isOk =
      (Json.get state "household_id").truthy := by
  obtain ⟨fingerprint, connected⟩ := asyncConnectNode_of_serves serves
  rw [restoreClient, idle, BackupSettings.connect, connected, ← resolveIdentity_isOk named]
  cases resolveIdentity (.obj state) (.obj info) with
  | error raised => rfl
  | ok identity => rfl

/-- Of the nodes that serve and say which node they are, a restore reaches those
that have a household. -/
theorem restore_sent_iff (running : runtimes.get? entryId = some runtime)
    (idle : runtime.transport.runningClient = none)
    (configured : backupClientFor (entryBackupSettings runtime) = true)
    (authorised : recoverySecret ≠ "") (filled : blob ≠ "")
    (serves : world.connect.Serves sha256 ((entryBackupSettings runtime).host.getD "")
      ((entryBackupSettings runtime).port.getD defaultHttpsPort)
      ((entryBackupSettings runtime).fingerprint.getD "") info state)
    (named : reportsNodeId info state = true) (reachable : world.restore.leaves = true) :
    (asyncRestoreEntry sha256 runtimes store entryId recoverySecret (some blob) world).sent =
        [restoreRequest recoverySecret blob] ↔
      (Json.get state "household_id").truthy = true := by
  have chosen : blobFor store (entryBackupSettings runtime).householdId (some blob) = some blob := by
    have passed : unlessBlank (some blob) = some blob := by simp [unlessBlank, filled]
    rw [blobFor, passed]
    rfl
  have restorable : Restorable runtimes store entryId recoverySecret (some blob) runtime blob :=
    ⟨authorised, running, configured, chosen⟩
  rw [restorable.sent_eq, asyncRestoreOnNode_sent, restoreClient_isOk idle serves named, reachable]
  cases (Json.get state "household_id").truthy with
  | false => simp
  | true => simp

/-! ### A replacement -/

/-- A node that answers a restore and cannot be read afterwards. -/
def restoreOf (connect : ConnectWorld) : RestoreWorld :=
  { connect
    restore := .answer (.obj [("success", .bool true)])
    info := .timedOut true }

/-- The node of another household is restored. -/
theorem joined_node_restored :
    (asyncRestoreEntry sampleSha256 (.put .empty (mqttRuntime "home" "HOME001")) { } "home" "secret"
        (some "00") (restoreOf (sampleConnect "HOME002" "GATE-001"))).sent =
      [restoreRequest "secret" "00"] :=
  (restore_sent_iff (mqttRuntime_running .empty "home" "HOME001") rfl rfl (by decide) (by decide)
    (sampleConnect_serves _ _ "HOME002" "GATE-001") rfl rfl).mpr rfl

/-- A freshly flashed node has no household, and is not. -/
theorem fresh_node_refused :
    (sampleConnect "" "GATE-001").Serves sampleSha256
        ((entryBackupSettings (mqttRuntime "home" "HOME001")).host.getD "")
        ((entryBackupSettings (mqttRuntime "home" "HOME001")).port.getD defaultHttpsPort)
        ((entryBackupSettings (mqttRuntime "home" "HOME001")).fingerprint.getD "") sampleInfo
        (sampleState "" "GATE-001") ∧
      reportsNodeId sampleInfo (sampleState "" "GATE-001") = true ∧
      (asyncRestoreEntry sampleSha256 (.put .empty (mqttRuntime "home" "HOME001")) { } "home"
        "secret" (some "00") (restoreOf (sampleConnect "" "GATE-001"))).sent = [] := by
  have serves := sampleConnect_serves "192.0.2.1" defaultHttpsPort "" "GATE-001"
  refine ⟨serves, rfl, ?_⟩
  have restorable : Restorable (.put .empty (mqttRuntime "home" "HOME001")) { } "home" "secret"
      (some "00") (mqttRuntime "home" "HOME001") "00" :=
    ⟨by decide, mqttRuntime_running .empty "home" "HOME001", rfl, rfl⟩
  have unreached : (restoreClient sampleSha256 (entryBackupSettings (mqttRuntime "home" "HOME001"))
      (mqttRuntime "home" "HOME001").transport (sampleConnect "" "GATE-001")).isOk = false :=
    (restoreClient_isOk rfl serves rfl).trans rfl
  rw [restorable.sent_eq, asyncRestoreOnNode_sent, restoreOf, unreached]
  rfl

end HomeKeyHousehold
