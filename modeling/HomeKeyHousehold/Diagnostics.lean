import HomeKeyHousehold.Credential
import HomeKeyHousehold.GuestViews
import HomeKeyHousehold.Library.Redaction

/-!
# Diagnostics

The report that is attached to bug reports.  It is assembled from the entry, the
coordinator, the command keys and the backup store, and then everything under the
name of a secret is replaced.
-/

namespace HomeKeyHousehold

open Library

/-! ## Redaction -/

/-- `_REDACT_KEYS`. -/
def redactKeys : List String :=
  ["password", "passwd", "mqtt_password", "web_password", "access_point_password",
    "private_key", "client_key", "recovery_key", "recovery_secret", "recovery_metadata",
    "command_key", "key", "mac", "token", "provisioning_token", "session_token", "backup",
    "data"]

def redacted : Json := .str "[redacted]"

/-- Whether a key names a secret, in any case. -/
def isRedacted (key : String) : Bool := redactKeys.contains (lower key)

/-- `_redact` of a whole structure. -/
def redactAll (value : Json) : Json := Json.redact isRedacted redacted "" value

/-! ## What the report reads -/

/-- A config entry with its mappings as they are. -/
structure EntryMappings where
  title : String
  data : Dict
  options : Dict

/-- The runtime of an entry, as far as the report reads it. -/
structure LoadedRuntime where
  configEntry : EntryMappings
  coordinator : Coordinator
  /-- `coordinator.direct is not None`. -/
  direct : Bool
  /-- Whether the coordinator was handed a command key provider. -/
  keyProvider : Bool
  credentialStore : CommandKeyStore

/-- What Home Assistant holds of the integration. -/
structure LoadedData where
  runtime : Option LoadedRuntime
  backupStore : Option BackupStore

/-- `key_fingerprint`: the first eight digits of a hash. -/
def keyFingerprint (sha256 : Sha256) (key : Bytes) : String :=
  String.ofList ((hexText (sha256 key)).toList.take 8)

namespace LoadedRuntime

def credential (runtime : LoadedRuntime) : Option CommandCredential :=
  runtime.credentialStore.get runtime.coordinator.householdId

/-- `coordinator.command_key`; a stored key is never empty. -/
def commandKey (runtime : LoadedRuntime) : Option Bytes :=
  if runtime.keyProvider then runtime.credential.map CommandCredential.key else none

/-- `coordinator.command_control_enabled`. -/
def commandControlEnabled (runtime : LoadedRuntime) : Bool :=
  runtime.direct || runtime.commandKey.isSome

/-- `entry_backup_settings`: options win over data. -/
def entryBackupSettings (runtime : LoadedRuntime) : Dict :=
  runtime.configEntry.data ++ runtime.configEntry.options ++
    [("household_id", .str runtime.coordinator.householdId)]

end LoadedRuntime

/-- The settings the API of a node needs. -/
def requiredSettings : List String := ["host", "fingerprint", "username", "password"]

/-- `backup_client_for`. -/
def hasBackupClient (settings : Dict) : Bool :=
  requiredSettings.all fun key => (Json.get settings key).truthy

/-! ## The report -/

/-- One stored copy, without its contents. -/
def copySummary (backup : StoredBackup) : Json :=
  .obj [("node_id", .str backup.nodeId), ("household_id", .str backup.householdId),
    ("created", .str backup.created),
    ("includes_credentials", .bool backup.includesCredentials),
    ("hex_bytes", .int (backup.blob.length / 2)),
    ("node_time", ofOptional PyInt.toJson backup.nodeTime)]

/-- `_backup_store_summary`. -/
def backupStoreSummary (store : Option BackupStore) (householdId : String) : Json :=
  match store with
  | none => .obj [("available", .bool false)]
  | some store =>
      let kept := store.backups.filter fun backup =>
        householdId = "" ∨ backup.householdId = householdId
      .obj [("available", .bool true), ("count", .int kept.length),
        ("newest_created", ofOptional .str (kept.getLast?.map StoredBackup.created)),
        ("any_includes_credentials", .bool (kept.any StoredBackup.includesCredentials)),
        ("copies", .arr (kept.map copySummary))]

def backupSummary (backup : BackupRecord) : Json :=
  .obj [("status", .str backup.status.spelling), ("timestamp", ofOptional .str backup.timestamp)]

def lastAuthSummary (auth : LastAuth) : Json :=
  .obj [("type", .str auth.authType), ("result", .str auth.result.spelling),
    ("timestamp", ofOptional .str auth.timestamp)]

def healthSummary (health : NodeHealth) : Json :=
  .obj [("network", .str health.network), ("mqtt", .str health.mqtt),
    ("mqtt_error", ofOptional .int health.mqttError), ("nfc", .str health.nfc),
    ("lock_current", ofOptional .int health.lockCurrent),
    ("lock_target", ofOptional .int health.lockTarget),
    ("backup", ofOptional .str health.backup), ("certificate", .str health.certificate),
    ("firmware_version", ofOptional .str health.firmwareVersion),
    ("uptime", ofOptional .int health.uptime), ("free_heap", ofOptional .int health.freeHeap),
    ("reset_reason", ofOptional .str health.resetReason),
    ("security_all_ok", ofOptional .bool health.securityAllOk),
    ("security_warnings", ofOptional .str health.securityWarnings)]

/-- One node; its guest block may raise. -/
def nodeSummary (node : Node) : Except Raised Json := do
  let guest ← guestDiagnostics node.guest
  pure (.obj [("node_id", .str node.nodeId), ("node_name", .str node.nodeName),
    ("node_role", .str node.nodeRole), ("node_state", .str node.nodeState),
    ("generation", ofOptional .int node.generation),
    ("firmware_version", ofOptional .str node.firmware), ("online", .bool node.online),
    ("lwt_online", ofOptional .bool node.lwtOnline), ("available", .bool node.available),
    ("last_seen", ofOptional .str node.lastSeen),
    ("security", ofOptional (fun value => .str (SecurityState.spelling value)) node.security),
    ("backup_status",
      ofOptional (fun outcome => .str (BackupOutcome.spelling outcome)) node.backupStatus),
    ("backup", ofOptional backupSummary node.backup),
    ("last_auth", ofOptional lastAuthSummary node.lastAuth), ("guest", guest),
    ("health", ofOptional healthSummary node.health)])

/-- The options that are reported with the entry. -/
def reportedOptions : List String := ["command_control", "backup_include_credentials"]

def entrySummary (entry : EntryMappings) : Json :=
  .obj [("title", .str entry.title), ("data", .obj entry.data),
    ("options", .obj (reportedOptions.map fun key => (key, Json.get entry.options key)))]

def subscriptionSummary (entry : EntryMappings) : Json :=
  .obj [("household", .str topicSubscribeAll),
    ("legacy_availability_prefix", Json.get entry.options "legacy_client_id_prefix")]

/-- The report before it is redacted. -/
def diagnosticsOf (sha256 : Sha256) (store : Option BackupStore) (runtime : LoadedRuntime)
    (entry : EntryMappings) (nodes : List Json) : Json :=
  .obj [("entry", entrySummary entry), ("household_id", .str runtime.coordinator.householdId),
    ("command_control_enabled", .bool runtime.commandControlEnabled),
    ("command_key_present", .bool runtime.credential.isSome),
    ("command_key_fingerprint",
      ofOptional (fun credential => .str (keyFingerprint sha256 (CommandCredential.key credential)))
        runtime.credential),
    ("backup_api_configured", .bool (hasBackupClient runtime.entryBackupSettings)),
    ("backup_store", backupStoreSummary store runtime.coordinator.householdId),
    ("node_count", .int nodes.length), ("nodes", .arr nodes),
    ("subscriptions", subscriptionSummary entry), ("reserved_topics_consumed", .arr [])]

/-- `async_get_config_entry_diagnostics`. -/
def asyncGetConfigEntryDiagnostics (sha256 : Sha256) (loaded : LoadedData)
    (entry : EntryMappings) : Except Raised Json :=
  match loaded.runtime with
  | none => .ok (.obj [("configured", .bool false), ("error", .str "runtime not loaded")])
  | some runtime => do
      let nodes ← runtime.coordinator.nodes.entries.mapM nodeSummary
      pure (redactAll (diagnosticsOf sha256 loaded.backupStore runtime entry nodes))

/-! ## What may differ -/

/-- Copies that differ in their blobs, which are of one length. -/
structure AlikeCopies (copy other : StoredBackup) : Prop where
  nodeId : copy.nodeId = other.nodeId
  householdId : copy.householdId = other.householdId
  created : copy.created = other.created
  nodeTime : copy.nodeTime = other.nodeTime
  includesCredentials : copy.includesCredentials = other.includesCredentials
  length : copy.blob.length = other.blob.length

/-- Entries that differ in their data, and in options that are not reported. -/
structure AlikeEntries (entry other : EntryMappings) : Prop where
  title : entry.title = other.title
  options : ∀ key ∈ "legacy_client_id_prefix" :: reportedOptions,
    Json.get entry.options key = Json.get other.options key

/-- Runtimes that differ in the command key, which has one fingerprint, and in the
values of settings, of which the same are empty. -/
structure AlikeRuntimes (sha256 : Sha256) (runtime other : LoadedRuntime) : Prop where
  householdId : runtime.coordinator.householdId = other.coordinator.householdId
  nodes : runtime.coordinator.nodes = other.coordinator.nodes
  direct : runtime.direct = other.direct
  keyProvider : runtime.keyProvider = other.keyProvider
  fingerprint : runtime.credential.map (fun credential => keyFingerprint sha256 credential.key) =
    other.credential.map fun credential => keyFingerprint sha256 credential.key
  settings : ∀ key ∈ requiredSettings, (Json.get runtime.entryBackupSettings key).truthy =
    (Json.get other.entryBackupSettings key).truthy

/-- What Home Assistant holds differs in secrets only. -/
structure OnlySecretsDiffer (sha256 : Sha256) (loaded other : LoadedData)
    (entry otherEntry : EntryMappings) : Prop where
  entries : AlikeEntries entry otherEntry
  runtimes : Option.Rel (AlikeRuntimes sha256) loaded.runtime other.runtime
  stores : Option.Rel (fun store kept => List.Forall₂ AlikeCopies store.backups kept.backups)
    loaded.backupStore other.backupStore

/-! ## What the report shows of them -/

theorem copySummary_congr {copy other : StoredBackup} (alike : AlikeCopies copy other) :
    copySummary copy = copySummary other := by
  rw [copySummary, copySummary, alike.nodeId, alike.householdId, alike.created, alike.nodeTime,
    alike.includesCredentials, alike.length]

/-- What is kept of alike copies for a household is summed up alike. -/
theorem kept_congr {copies others : List StoredBackup}
    (alike : List.Forall₂ AlikeCopies copies others) {kept : StoredBackup → Bool}
    (same : ∀ copy other, AlikeCopies copy other → kept copy = kept other) :
    List.Forall₂ AlikeCopies (copies.filter kept) (others.filter kept) := by
  induction alike with
  | nil => exact .nil
  | @cons copy other rest later first _ ih =>
      cases keeps : kept copy with
      | true =>
          rw [List.filter_cons_of_pos keeps,
            List.filter_cons_of_pos ((same copy other first).symm.trans keeps)]
          exact .cons first ih
      | false =>
          have drops := (same copy other first).symm.trans keeps
          rw [List.filter_cons_of_neg (by rw [keeps]; decide),
            List.filter_cons_of_neg (by rw [drops]; decide)]
          exact ih

/-- A function of the parts that are shown has one value on alike copies. -/
theorem map_congr_of_alike {α : Type} {copies others : List StoredBackup}
    (alike : List.Forall₂ AlikeCopies copies others) {view : StoredBackup → α}
    (same : ∀ copy other, AlikeCopies copy other → view copy = view other) :
    copies.map view = others.map view := by
  induction alike with
  | nil => rfl
  | @cons copy other rest later first _ ih =>
      rw [List.map_cons, List.map_cons, same copy other first, ih]

theorem any_congr_of_alike {copies others : List StoredBackup}
    (alike : List.Forall₂ AlikeCopies copies others) {view : StoredBackup → Bool}
    (same : ∀ copy other, AlikeCopies copy other → view copy = view other) :
    copies.any view = others.any view := by
  have views := congrArg (List.any · id) (map_congr_of_alike alike same)
  simpa only [List.any_map, Function.id_comp] using views

theorem backupStoreSummary_congr {store other : Option BackupStore}
    (alike : Option.Rel (fun store kept => List.Forall₂ AlikeCopies store.backups kept.backups)
      store other) (householdId : String) :
    backupStoreSummary store householdId = backupStoreSummary other householdId := by
  cases alike with
  | none => rfl
  | @some store other copies =>
      have kept := @kept_congr _ _ copies
        (fun backup => householdId = "" ∨ backup.householdId = householdId)
        fun copy other alike => by rw [alike.householdId]
      have created := map_congr_of_alike kept fun _ _ alike => alike.created
      rw [backupStoreSummary, backupStoreSummary, kept.length_eq, ← List.getLast?_map, created,
        List.getLast?_map, map_congr_of_alike kept fun _ _ alike => copySummary_congr alike,
        any_congr_of_alike kept fun _ _ alike => alike.includesCredentials]

theorem entrySummary_alike {entry other : EntryMappings} (alike : AlikeEntries entry other) :
    Json.Alike isRedacted redacted "entry" (entrySummary entry) (entrySummary other) := by
  have reported : reportedOptions.map (fun key => (key, Json.get entry.options key)) =
      reportedOptions.map fun key => (key, Json.get other.options key) :=
    List.map_congr_left fun key member => by
      rw [alike.options key (List.mem_cons_of_mem _ member)]
  rw [entrySummary, entrySummary, alike.title, reported]
  -- What was entered to reach the node stands under the name of a secret.
  have data : Json.Alike isRedacted redacted "data" (.obj entry.data) (.obj other.data) :=
    Json.alike_of_secret (by decide) _ _
  exact Json.alike_obj
    (.cons ⟨rfl, Json.alike_refl _ _⟩ (.cons ⟨rfl, data⟩ (.cons ⟨rfl, Json.alike_refl _ _⟩ .nil)))

theorem subscriptionSummary_congr {entry other : EntryMappings}
    (alike : AlikeEntries entry other) :
    subscriptionSummary entry = subscriptionSummary other := by
  rw [subscriptionSummary, subscriptionSummary,
    alike.options "legacy_client_id_prefix" List.mem_cons_self]

theorem hasBackupClient_congr {settings others : Dict}
    (same : ∀ key ∈ requiredSettings,
      (Json.get settings key).truthy = (Json.get others key).truthy) :
    hasBackupClient settings = hasBackupClient others := by
  rw [hasBackupClient, hasBackupClient, Bool.eq_iff_iff, List.all_eq_true, List.all_eq_true]
  exact forall₂_congr fun key member => by rw [same key member]

namespace AlikeRuntimes

variable {sha256 : Sha256} {runtime other : LoadedRuntime}

theorem credential_isSome (alike : AlikeRuntimes sha256 runtime other) :
    runtime.credential.isSome = other.credential.isSome := by
  simpa using congrArg Option.isSome alike.fingerprint

theorem shownFingerprint (alike : AlikeRuntimes sha256 runtime other) :
    ofOptional (fun credential => .str (keyFingerprint sha256 (CommandCredential.key credential)))
        runtime.credential =
      ofOptional
        (fun credential => .str (keyFingerprint sha256 (CommandCredential.key credential)))
        other.credential := by
  have shown := congrArg (ofOptional Json.str) alike.fingerprint
  rw [ofOptional, ofOptional, Option.map_map, Option.map_map] at shown
  exact shown

theorem commandControlEnabled (alike : AlikeRuntimes sha256 runtime other) :
    runtime.commandControlEnabled = other.commandControlEnabled := by
  rw [LoadedRuntime.commandControlEnabled, LoadedRuntime.commandControlEnabled,
    LoadedRuntime.commandKey, LoadedRuntime.commandKey, alike.direct, alike.keyProvider]
  cases other.keyProvider with
  | false => rfl
  | true => simpa using congrArg (other.direct || ·) alike.credential_isSome

theorem diagnosticsOf_alike (alike : AlikeRuntimes sha256 runtime other)
    {store kept : Option BackupStore} {entry otherEntry : EntryMappings}
    (stores : Option.Rel (fun store kept => List.Forall₂ AlikeCopies store.backups kept.backups)
      store kept) (entries : AlikeEntries entry otherEntry) (nodes : List Json) :
    Json.Alike isRedacted redacted "" (diagnosticsOf sha256 store runtime entry nodes)
      (diagnosticsOf sha256 kept other otherEntry nodes) := by
  rw [diagnosticsOf, diagnosticsOf, alike.householdId, alike.commandControlEnabled,
    alike.credential_isSome, alike.shownFingerprint, hasBackupClient_congr alike.settings,
    backupStoreSummary_congr stores, subscriptionSummary_congr entries]
  -- Only the entry is still another one.
  refine Json.alike_obj (.cons ⟨rfl, entrySummary_alike entries⟩ ?_)
  exact List.forall₂_same.mpr fun member _ => ⟨rfl, Json.alike_refl _ _⟩

end AlikeRuntimes

/-- The report is the same whatever the secrets are. -/
theorem asyncGetConfigEntryDiagnostics_congr {sha256 : Sha256} {loaded other : LoadedData}
    {entry otherEntry : EntryMappings}
    (alike : OnlySecretsDiffer sha256 loaded other entry otherEntry) :
    asyncGetConfigEntryDiagnostics sha256 loaded entry =
      asyncGetConfigEntryDiagnostics sha256 other otherEntry := by
  obtain ⟨runtime, store⟩ := loaded
  obtain ⟨otherRuntime, otherStore⟩ := other
  obtain ⟨entries, runtimes, stores⟩ := alike
  cases runtimes with
  | none => rfl
  | @some runtime other runtimes =>
      rw [asyncGetConfigEntryDiagnostics, asyncGetConfigEntryDiagnostics]
      dsimp only
      rw [runtimes.nodes]
      refine bind_congr fun nodes => ?_
      have reports : redactAll _ = redactAll _ := runtimes.diagnosticsOf_alike stores entries nodes
      rw [reports]

/-! ## Two keys of one fingerprint -/

/-- `hashlib.sha256` on two keys whose hashes start alike. -/
def collidingSha256 (key : Bytes) : Bytes :=
  if key = [0, 79, 88] then
    [50, 116, 58, 235, 109, 103, 109, 231, 139, 51, 205, 15, 43, 250, 62, 209, 212, 80, 125, 24,
      0, 13, 166, 166, 69, 115, 39, 22, 200, 140, 113, 201]
  else
    [50, 116, 58, 235, 161, 234, 15, 25, 56, 63, 17, 237, 250, 222, 34, 76, 0, 56, 98, 32, 154,
      118, 114, 3, 229, 215, 210, 44, 102, 127, 104, 7]

/-- An entry over MQTT, whose options reach the API of the node. -/
def entryWithPassword (password : String) : EntryMappings :=
  { title := "Gate"
    data := [("household_id", .str "HOME001"), ("transport", .str "mqtt")]
    options := [("command_control", .bool true), ("host", .str "192.0.2.7"),
      ("fingerprint", .str "aa"), ("username", .str "admin"), ("password", .str password)] }

/-- What is held with one key, password and blob. -/
def loadedWith (credential : CommandCredential) (password blob : String) : LoadedData :=
  { runtime := some
      { configEntry := entryWithPassword password
        coordinator := ((Coordinator.new "HOME001").ensureNode "GATE-001").1
        direct := false
        keyProvider := true
        credentialStore := ⟨[("HOME001", credential)], List.nodup_singleton _⟩ }
    backupStore := some
      { backups := [⟨"GATE-001", "HOME001", "2026-01-01T00:00:00+00:00", none, blob, true⟩] } }

def firstCredential : CommandCredential := ⟨[0, 79, 88], by decide, none⟩

def secondCredential : CommandCredential := ⟨[1, 112, 62], by decide, some "5a"⟩

theorem twoKeys_fingerprint :
    keyFingerprint collidingSha256 firstCredential.key =
      keyFingerprint collidingSha256 secondCredential.key := by
  rw [keyFingerprint, keyFingerprint, hexText, hexText, String.toList_ofList, String.toList_ofList]
  rfl

theorem twoKeys_differ :
    OnlySecretsDiffer collidingSha256 (loadedWith firstCredential "first" "00ff")
      (loadedWith secondCredential "second" "8041") (entryWithPassword "first")
      (entryWithPassword "second") where
  entries := ⟨rfl, by simp [reportedOptions, entryWithPassword, Json.get, Json.lookup]⟩
  runtimes := .some ⟨rfl, rfl, rfl, rfl, congrArg some twoKeys_fingerprint,
    by simp [requiredSettings, LoadedRuntime.entryBackupSettings, entryWithPassword, Json.get,
      Json.lookup, Json.truthy]⟩
  stores := .some (.cons ⟨rfl, rfl, rfl, rfl, rfl, rfl⟩ .nil)

theorem twoKeys_reported_alike :
    firstCredential.key ≠ secondCredential.key ∧
      asyncGetConfigEntryDiagnostics collidingSha256 (loadedWith firstCredential "first" "00ff")
          (entryWithPassword "first") =
        asyncGetConfigEntryDiagnostics collidingSha256
          (loadedWith secondCredential "second" "8041") (entryWithPassword "second") :=
  ⟨by decide, asyncGetConfigEntryDiagnostics_congr twoKeys_differ⟩

end HomeKeyHousehold
