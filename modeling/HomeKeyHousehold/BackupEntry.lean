import HomeKeyHousehold.Backup

/-!
# Backing an entry up

A direct entry is asked through its running client, any other entry over a
connection made for the purpose.  The household of a copy is that of the entry;
the node id is what the poller knows or what the new connection reported.
-/

namespace HomeKeyHousehold

open Library

/-! ## Runtimes -/

/-- The transport of a runtime. -/
inductive Transport where
  | mqtt (client : HomeKeyMqttClient)
  | direct (poller : DirectPoller)

namespace Transport

/-- The client of a live direct entry. -/
def runningClient : Transport → Option DirectClient
  | .mqtt _ => none
  | .direct poller => some poller.client

/-- `getattr(transport, "node_id", None)`. -/
def nodeId : Transport → Option String
  | .mqtt _ => none
  | .direct poller => poller.nodeId

end Transport

/-- `HomeKeyRuntime`, with the id of its entry. -/
structure Runtime where
  entryId : String
  entry : ConfigEntry
  options : Option EntryOptions
  coordinator : Coordinator
  transport : Transport

/-- The settings of the API of a node, as far as they are there. -/
structure BackupSettings where
  host : Option String
  port : Option Nat
  fingerprint : Option String
  username : Option String
  password : Option String
  includeCredentials : Option Bool
  householdId : String

/-- `entry_backup_settings`: options win over data. -/
def entryBackupSettings (runtime : Runtime) : BackupSettings :=
  { host := (runtime.options.map EntryOptions.host).or runtime.entry.host
    port := (runtime.options.map EntryOptions.port).or runtime.entry.port
    fingerprint := (runtime.options.map EntryOptions.fingerprint).or runtime.entry.fingerprint
    username := (runtime.options.map EntryOptions.username).or runtime.entry.username
    password := (runtime.options.map EntryOptions.password).or runtime.entry.password
    includeCredentials := runtime.options.map EntryOptions.includeCredentials
    householdId := runtime.coordinator.householdId }

/-- `backup_client_for`: the address, the fingerprint and the credentials. -/
def backupClientFor (settings : BackupSettings) : Bool :=
  (unlessBlank settings.host).isSome && (unlessBlank settings.fingerprint).isSome &&
    (unlessBlank settings.username).isSome && (unlessBlank settings.password).isSome

/-- The connection that is made with settings. -/
def BackupSettings.connect (sha256 : Sha256) (settings : BackupSettings) (world : ConnectWorld) :
    Except Raised DirectProbe :=
  asyncConnectNode sha256 (settings.host.getD "") (settings.port.getD defaultHttpsPort)
    (settings.fingerprint.getD "") world

/-- An exception of a service. -/
inductive ServiceError where
  | validation (message : String)
  | raised (raised : Raised)
  deriving DecidableEq, Repr

/-! ## Asking a node -/

/-- Who a device is. -/
structure DeviceIdentity where
  nodeId : String
  householdId : String
  deriving DecidableEq, Repr

/-- What the world contributes to one backup.  The device that answers a running
client has an identity too, although no answer names it. -/
structure BackupWorld where
  connect : ConnectWorld
  producer : DeviceIdentity
  create : Reply
  summary : Reply
  now : Int

namespace DirectClient

/-- `async_create_backup`: the request, which has a body only when credentials
are asked for, and the blob with what the node says it sealed in. -/
def asyncCreateBackup (client : DirectClient) (includeCredentials : Bool) (reply : Reply) :
    List Request × Except Raised (String × Bool) :=
  let body : Json :=
    if includeCredentials then .obj [("include_credentials", .bool true)] else .null
  let posted := client.post "/backup/create" body reply
  (posted.sent, do
    let result ← membersOf (← posted.result)
    let included :=
      match Json.get result "includes_credentials" with
      | .bool value => value
      | _ => false
    match Json.get result "backup" with
    | .str blob =>
        if blob = "" then .error (.direct .protocol "The node did not return a backup")
        else pure (blob, included)
    | _ => .error (.direct .protocol "The node did not return a backup"))

/-- `_async_node_backup_time`. -/
def asyncNodeBackupTime (client : DirectClient) (reply : Reply) :
    Except Raised (Option PyInt) :=
  match client.request "/backup" reply with
  | .error (.direct ..) => .ok none
  | .error raised => .error raised
  | .ok answer => do
      let info ← membersOf answer
      pure ((Json.asPyInt (Json.get info "last_backup_time")).filter fun stamp => 0 < stamp.value)

end DirectClient

/-- The client a backup is asked through, and the node id it is filed under. -/
def backupClient (sha256 : Sha256) (settings : BackupSettings) (transport : Transport)
    (world : ConnectWorld) : Except Raised (DirectClient × Option String) :=
  match transport.runningClient with
  | some client => .ok (client, transport.nodeId)
  | none => do
      let probe ← settings.connect sha256 world
      pure (probe.client, some probe.nodeId)

/-- `async_fetch_backup`. -/
def asyncFetchBackup (sha256 : Sha256) (settings : BackupSettings) (transport : Transport)
    (includeCredentials : Bool) (world : BackupWorld) : Except Raised StoredBackup := do
  let (client, nodeId) ← backupClient sha256 settings transport world.connect
  let (blob, includesCredentials) ← (client.asyncCreateBackup includeCredentials world.create).2
  let nodeTime ← client.asyncNodeBackupTime world.summary
  pure
    { nodeId := nodeId.getD ""
      householdId := settings.householdId
      created := isoformat world.now
      nodeTime
      blob
      includesCredentials }

/-- What one backup leaves behind. -/
structure BackedUp where
  store : BackupStore
  stored : Option StoredBackup
  error : Option ServiceError

/-- A failure is reported when somebody asked for the backup. -/
def BackedUp.failed (store : BackupStore) (explicit : Bool) (message : String) : BackedUp :=
  ⟨store, none, if explicit then some (.validation message) else none⟩

/-- `async_back_up_entry`. -/
def asyncBackUpEntry (sha256 : Sha256) (runtimes : Keyed Runtime.entryId) (store : BackupStore)
    (entryId : String) (explicit : Bool) (includeCredentials : Option Bool) (world : BackupWorld) :
    BackedUp :=
  match runtimes.get? entryId with
  | none =>
      .failed store explicit
        ("Entry " ++ entryId ++ " is not set up, so there is nothing to back up")
  | some runtime =>
      let settings := entryBackupSettings runtime
      if backupClientFor settings then
        let included := (includeCredentials.or settings.includeCredentials).getD false
        match asyncFetchBackup sha256 settings runtime.transport included world with
        | .ok backup => ⟨store.asyncAdd backup, some backup, none⟩
        | .error (.direct _ message) =>
            .failed store explicit
              ("Could not back up the node for " ++ entryId ++ ": " ++ message)
        | .error raised => ⟨store, none, some (.raised raised)⟩
      else
        .failed store explicit
          ("This node cannot be reached for a backup: its address, certificate fingerprint and " ++
            "Web UI credentials are not configured. Set them under Configure on the entry.")

/-! ## What is fetched -/

variable {sha256 : Sha256} {settings : BackupSettings} {transport : Transport}
variable {includeCredentials : Bool} {world : BackupWorld} {backup : StoredBackup}

/-- A node hands a backup over through a client. -/
def HandsOver (client : DirectClient) (includeCredentials : Bool) (world : BackupWorld) : Prop :=
  (∃ copy, (client.asyncCreateBackup includeCredentials world.create).2 = .ok copy) ∧
    ∃ stamp, client.asyncNodeBackupTime world.summary = .ok stamp

/-- A blob that is handed over is not empty. -/
theorem asyncCreateBackup_filled {client : DirectClient} {reply : Reply} {copy : String × Bool}
    (created : (client.asyncCreateBackup includeCredentials reply).2 = .ok copy) :
    copy.1 ≠ "" := by
  obtain ⟨answer, -, created⟩ := bind_eq_ok.mp created
  obtain ⟨result, -, created⟩ := bind_eq_ok.mp created
  dsimp only at created
  split at created
  · split at created
    · cases created
    · next filled =>
        cases created
        exact filled
  · cases created

/-- A fetched copy is what the client handed over, under the node id that came
with the client and the household of the settings. -/
theorem asyncFetchBackup_ok
    (fetched : asyncFetchBackup sha256 settings transport includeCredentials world = .ok backup) :
    ∃ client nodeId, backupClient sha256 settings transport world.connect = .ok (client, nodeId) ∧
      HandsOver client includeCredentials world ∧ backup.nodeId = nodeId.getD "" ∧
      backup.householdId = settings.householdId ∧ backup.blob ≠ "" := by
  obtain ⟨⟨client, nodeId⟩, reached, fetched⟩ := bind_eq_ok.mp fetched
  obtain ⟨⟨blob, includes⟩, created, fetched⟩ := bind_eq_ok.mp fetched
  obtain ⟨stamp, dated, fetched⟩ := bind_eq_ok.mp fetched
  cases fetched
  exact ⟨client, nodeId, reached, ⟨⟨_, created⟩, stamp, dated⟩, rfl, rfl,
    asyncCreateBackup_filled created⟩

/-- A backup that is not fetched changes nothing. -/
theorem asyncBackUpEntry_cases (sha256 : Sha256) (runtimes : Keyed Runtime.entryId)
    (store : BackupStore) (entryId : String) (explicit : Bool) (includeCredentials : Option Bool)
    (world : BackupWorld) :
    (∃ runtime backup, runtimes.get? entryId = some runtime ∧
        backupClientFor (entryBackupSettings runtime) = true ∧
        asyncFetchBackup sha256 (entryBackupSettings runtime) runtime.transport
          ((includeCredentials.or (entryBackupSettings runtime).includeCredentials).getD false)
          world = .ok backup) ∨
      ∃ error, asyncBackUpEntry sha256 runtimes store entryId explicit includeCredentials world =
        ⟨store, none, error⟩ := by
  unfold asyncBackUpEntry
  split
  · exact Or.inr ⟨_, rfl⟩
  · next runtime running =>
      dsimp only
      split
      · next configured =>
          split
          · next backup fetched => exact Or.inl ⟨runtime, backup, running, configured, fetched⟩
          · exact Or.inr ⟨_, rfl⟩
          · exact Or.inr ⟨_, rfl⟩
      · exact Or.inr ⟨_, rfl⟩

/-- A backup that is fetched is stored. -/
theorem asyncBackUpEntry_of_fetched {runtimes : Keyed Runtime.entryId} {runtime : Runtime}
    {entryId : String} {included : Option Bool} (store : BackupStore) (explicit : Bool)
    (running : runtimes.get? entryId = some runtime)
    (configured : backupClientFor (entryBackupSettings runtime) = true)
    (fetched : asyncFetchBackup sha256 (entryBackupSettings runtime) runtime.transport
      ((included.or (entryBackupSettings runtime).includeCredentials).getD false) world =
        .ok backup) :
    asyncBackUpEntry sha256 runtimes store entryId explicit included world =
      ⟨store.asyncAdd backup, some backup, none⟩ := by
  rw [asyncBackUpEntry, running]
  dsimp only
  rw [if_pos configured, fetched]

/-- A backup that somebody asked for is stored or raises. -/
theorem asyncBackUpEntry_explicit {runtimes : Keyed Runtime.entryId} {store : BackupStore}
    {entryId : String} {included : Option Bool}
    (returned : (asyncBackUpEntry sha256 runtimes store entryId true included world).error = none) :
    ∃ runtime backup, runtimes.get? entryId = some runtime ∧
      backupClientFor (entryBackupSettings runtime) = true ∧
      asyncFetchBackup sha256 (entryBackupSettings runtime) runtime.transport
        ((included.or (entryBackupSettings runtime).includeCredentials).getD false) world =
          .ok backup := by
  unfold asyncBackUpEntry at returned
  split at returned
  · cases returned
  · next runtime running =>
      dsimp only at returned
      split at returned
      · next configured =>
          split at returned
          · next backup fetched => exact ⟨runtime, backup, running, configured, fetched⟩
          · cases returned
          · cases returned
      · cases returned

/-- A client that a backup is handed over through is all that is needed. -/
theorem asyncFetchBackup_of_handsOver {client : DirectClient} {nodeId : Option String}
    (reached : backupClient sha256 settings transport world.connect = .ok (client, nodeId))
    (handed : HandsOver client includeCredentials world) :
    ∃ backup, asyncFetchBackup sha256 settings transport includeCredentials world = .ok backup := by
  obtain ⟨⟨⟨blob, includes⟩, created⟩, stamp, dated⟩ := handed
  refine ⟨_, bind_eq_ok.mpr ⟨(client, nodeId), reached, bind_eq_ok.mpr ⟨(blob, includes), created,
    bind_eq_ok.mpr ⟨stamp, dated, rfl⟩⟩⟩⟩

/-! ### A sample copy -/

/-- A node that hands a backup over and does not say when it made it. -/
def sampleBackup (connect : ConnectWorld) (producer : DeviceIdentity) : BackupWorld :=
  { connect
    producer
    create := .answer (.obj [("backup", .str "00")])
    summary := .timedOut true
    now := 0 }

theorem sampleBackup_handsOver (client : DirectClient) (includeCredentials : Bool)
    (connect : ConnectWorld) (producer : DeviceIdentity) :
    HandsOver client includeCredentials (sampleBackup connect producer) := by
  refine ⟨⟨("00", false), ?_⟩, none, rfl⟩
  refine bind_eq_ok.mpr ⟨_, request_answer client "/backup/create" [("backup", .str "00")], ?_⟩
  rfl

/-! ### A sample entry -/

/-- An entry over MQTT that says where its node is. -/
def homeOptions : EntryOptions :=
  { legacyClientIdPrefix := defaultLegacyClientIdPrefix
    commandControl := true
    host := "192.0.2.1"
    port := defaultHttpsPort
    username := "admin"
    password := "admin"
    fingerprint := "AB"
    includeCredentials := false }

def mqttRuntime (entryId householdId : String) : Runtime :=
  { entryId
    entry :=
      { uniqueId := uniqueIdOf householdId
        title := householdId
        transport := .mqtt
        householdId
        householdName := householdId
        commandControl := some true }
    options := some homeOptions
    coordinator := .new householdId
    transport := .mqtt (.new householdId defaultLegacyClientIdPrefix) }

theorem mqttRuntime_running (runtimes : Keyed Runtime.entryId) (entryId householdId : String) :
    (runtimes.put (mqttRuntime entryId householdId)).get? entryId =
      some (mqttRuntime entryId householdId) :=
  Keyed.get?_put_self runtimes (mqttRuntime entryId householdId)

/-- The sample device is connected to with the settings of the sample entry. -/
theorem connect_mqttRuntime (entryId : String) (home : String) {householdId nodeId : String}
    (joined : householdId ≠ "") (named : nodeId ≠ "") :
    ∃ probe, (entryBackupSettings (mqttRuntime entryId home)).connect sampleSha256
        (sampleConnect householdId nodeId) = .ok probe ∧
      probe.client = ⟨"192.0.2.1", defaultHttpsPort⟩ ∧ probe.householdId = householdId ∧
        probe.nodeId = nodeId :=
  asyncConnectNode_sample "192.0.2.1" defaultHttpsPort joined named

end HomeKeyHousehold
