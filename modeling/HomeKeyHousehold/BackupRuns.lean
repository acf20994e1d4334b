import HomeKeyHousehold.BackupEntry
import HomeKeyHousehold.Library.Run

/-!
# Copies through polls and restarts

A copy is filed under the node id its entry knows at that moment: the one of the
new connection, or the one of the last poll that named a node, if there was one.
The file is written with whatever was filed and read again after a restart.
-/

namespace HomeKeyHousehold

open Library

/-! ## The system -/

/-- A config entry under its id, with its options. -/
structure ConfiguredEntry where
  entryId : String
  entry : ConfigEntry
  options : Option EntryOptions

/-- What the world contributes while an entry is set up. -/
structure SetupWorld where
  connect : ConnectWorld
  poll : PollWorld
  /-- Whether the MQTT client starts. -/
  mqttStarts : Bool

/-- `_async_start_direct`: verify the node and take a first reading. -/
def asyncStartDirect (sha256 : Sha256) (entry : ConfigEntry) (coordinator : Coordinator)
    (world : SetupWorld) : Option (Coordinator × DirectPoller) :=
  match asyncConnectNode sha256 (entry.host.getD "") (entry.port.getD defaultHttpsPort)
    (entry.fingerprint.getD "") world.connect with
  | .error _ => none
  | .ok probe =>
      if probe.householdId = coordinator.householdId then
        let poller := DirectPoller.new probe.client coordinator.householdId
        let polled := poller.asyncPollSafely coordinator world.poll
        match polled.raised with
        | none => some (polled.coordinator, polled.poller)
        | some _ => none
      else none

/-- The runtime `async_setup_entry` makes, if it succeeds. -/
def setUpRuntime (sha256 : Sha256) (configured : ConfiguredEntry) (world : SetupWorld) :
    Option Runtime :=
  let coordinator := Coordinator.new configured.entry.householdId
  match configured.entry.transport with
  | .direct =>
      (asyncStartDirect sha256 configured.entry coordinator world).map fun started =>
        { entryId := configured.entryId
          entry := configured.entry
          options := configured.options
          coordinator := started.1
          transport := .direct started.2 }
  | .mqtt =>
      if world.mqttStarts then
        some
          { entryId := configured.entryId
            entry := configured.entry
            options := configured.options
            coordinator
            transport :=
              .mqtt (.new configured.entry.householdId
                ((configured.options.map EntryOptions.legacyClientIdPrefix).getD
                  defaultLegacyClientIdPrefix)) }
      else none

/-- What is running after an entry is unloaded and set up again. -/
def reload (sha256 : Sha256) (configured : ConfiguredEntry) (runtimes : Keyed Runtime.entryId)
    (world : SetupWorld) : Keyed Runtime.entryId :=
  let unloaded := runtimes.erase configured.entryId
  match setUpRuntime sha256 configured world with
  | none => unloaded
  | some runtime => unloaded.put runtime

/-- Where a copy came from: the device that answered a running client, or the
node a connection was made to. -/
inductive Source where
  | running (device : DeviceIdentity)
  | connected (probe : DirectProbe)

namespace Source

/-- The id of the node that produced a copy. -/
def nodeId : Source → String
  | .running device => device.nodeId
  | .connected probe => probe.nodeId

/-- The household of the node that produced a copy. -/
def householdId : Source → String
  | .running device => device.householdId
  | .connected probe => probe.householdId

end Source

/-- A copy that was added to the store, with where it came from. -/
structure Copy where
  record : StoredBackup
  source : Source

/-- What is running for the entries, and the store; the history has every copy that
was added to it. -/
structure BackupSystem where
  runtimes : Keyed Runtime.entryId
  store : BackupStore
  history : List Copy

/-- What happens next; an entry is set up as it is configured at the time. -/
inductive BackupEvent where
  | setUp (configured : ConfiguredEntry) (world : SetupWorld)
  | poll (entryId : String) (world : PollWorld)
  | backUp (entryId : String) (explicit : Bool) (includeCredentials : Option Bool)
      (world : BackupWorld)
  | restart

namespace Runtime

/-- Where a runtime gets its copy from. -/
def sourceOf (sha256 : Sha256) (runtime : Runtime) (world : BackupWorld) : Option Source :=
  match runtime.transport.runningClient with
  | some _ => some (.running world.producer)
  | none =>
      (((entryBackupSettings runtime).connect sha256 world.connect).toOption).map .connected

/-- A poll of a direct entry. -/
def poll (runtime : Runtime) (world : PollWorld) : Runtime :=
  match runtime.transport with
  | .mqtt _ => runtime
  | .direct poller =>
      let polled := poller.asyncPollSafely runtime.coordinator world
      { runtime with coordinator := polled.coordinator, transport := .direct polled.poller }

end Runtime

namespace BackupSystem

/-- Backing up, with the copy that is added. -/
def backUp (sha256 : Sha256) (state : BackupSystem) (entryId : String) (explicit : Bool)
    (includeCredentials : Option Bool) (world : BackupWorld) : BackupSystem :=
  let backedUp := asyncBackUpEntry sha256 state.runtimes state.store entryId explicit
    includeCredentials world
  { state with
    store := backedUp.store
    history := state.history ++
      (match backedUp.stored, (state.runtimes.get? entryId).bind (Runtime.sourceOf sha256 · world) with
        | some record, some source => [⟨record, source⟩]
        | _, _ => []) }

/-- The state after an event; a restart keeps the file only. -/
def step (sha256 : Sha256) (state : BackupSystem) : BackupEvent → BackupSystem
  | .setUp configured world =>
      { state with runtimes := reload sha256 configured state.runtimes world }
  | .poll entryId world =>
      match state.runtimes.get? entryId with
      | none => state
      | some runtime => { state with runtimes := state.runtimes.put (runtime.poll world) }
  | .backUp entryId explicit includeCredentials world =>
      state.backUp sha256 entryId explicit includeCredentials world
  | .restart => { state with runtimes := .empty, store := state.store.asyncLoad }

/-- Nothing is running and nothing is stored. -/
def start (keep : Nat) : BackupSystem := { runtimes := .empty, store := { keep }, history := [] }

end BackupSystem

/-! ## The copy a runtime gets -/

namespace Runtime

variable {sha256 : Sha256} {runtime : Runtime} {includeCredentials : Option Bool}
variable {world : BackupWorld} {copy : Copy}

/-- Whether credentials are asked for: as the call says, else as configured. -/
def included (runtime : Runtime) (includeCredentials : Option Bool) : Bool :=
  (includeCredentials.or (entryBackupSettings runtime).includeCredentials).getD false

/-- The API is configured and a node hands a backup over through a client. -/
def Yields (runtime : Runtime) (includeCredentials : Option Bool) (world : BackupWorld)
    (client : DirectClient) : Prop :=
  backupClientFor (entryBackupSettings runtime) = true ∧
    HandsOver client (runtime.included includeCredentials) world

/-- A copy that a backup of a runtime adds. -/
structure Produces (sha256 : Sha256) (runtime : Runtime) (includeCredentials : Option Bool)
    (world : BackupWorld) (copy : Copy) : Prop where
  configured : backupClientFor (entryBackupSettings runtime) = true
  fetched : asyncFetchBackup sha256 (entryBackupSettings runtime) runtime.transport
    (runtime.included includeCredentials) world = .ok copy.record
  source : runtime.sourceOf sha256 world = some copy.source

theorem Produces.filled (produces : runtime.Produces sha256 includeCredentials world copy) :
    copy.record.blob ≠ "" := by
  obtain ⟨client, nodeId, -, -, -, -, filled⟩ := asyncFetchBackup_ok produces.fetched
  exact filled

/-- A copy is of the household of its entry. -/
theorem Produces.householdId (produces : runtime.Produces sha256 includeCredentials world copy) :
    copy.record.householdId = runtime.coordinator.householdId := by
  obtain ⟨client, nodeId, -, -, -, household, -⟩ := asyncFetchBackup_ok produces.fetched
  exact household

/-- A copy of a direct entry is filed under what its poller knows. -/
theorem Produces.of_direct (produces : runtime.Produces sha256 includeCredentials world copy)
    {poller : DirectPoller} (direct : runtime.transport = .direct poller) :
    runtime.Yields includeCredentials world poller.client ∧
      copy.source = .running world.producer ∧ copy.record.nodeId = poller.nodeId.getD "" := by
  obtain ⟨client, nodeId, reached, handed, filed, -, -⟩ := asyncFetchBackup_ok produces.fetched
  have source := produces.source
  rw [sourceOf, direct] at source
  rw [backupClient, direct] at reached
  cases reached
  exact ⟨⟨produces.configured, handed⟩, (Option.some.inj source).symm, filed⟩

/-- A copy of any other entry is filed under what the connection reported. -/
theorem Produces.of_mqtt (produces : runtime.Produces sha256 includeCredentials world copy)
    {client : HomeKeyMqttClient} (mqtt : runtime.transport = .mqtt client) :
    ∃ probe, (entryBackupSettings runtime).connect sha256 world.connect = .ok probe ∧
      runtime.Yields includeCredentials world probe.client ∧
      copy.source = .connected probe ∧ copy.record.nodeId = probe.nodeId := by
  obtain ⟨reachedClient, nodeId, reached, handed, filed, -, -⟩ :=
    asyncFetchBackup_ok produces.fetched
  rw [backupClient, mqtt] at reached
  obtain ⟨probe, connected, reached⟩ := bind_eq_ok.mp reached
  cases reached
  have source := produces.source
  rw [sourceOf, mqtt] at source
  dsimp only [Transport.runningClient] at source
  rw [connected] at source
  exact ⟨probe, connected, ⟨produces.configured, handed⟩, (Option.some.inj source).symm, filed⟩

/-- A copy that was fetched over a new connection has the node id it reported. -/
theorem Produces.nodeId_of_connected
    (produces : runtime.Produces sha256 includeCredentials world copy) {probe : DirectProbe}
    (fresh : copy.source = .connected probe) : copy.record.nodeId = probe.nodeId := by
  cases transport : runtime.transport with
  | direct poller =>
      obtain ⟨-, running, -⟩ := produces.of_direct transport
      cases running.symm.trans fresh
  | mqtt client =>
      obtain ⟨other, -, -, reached, filed⟩ := produces.of_mqtt transport
      cases reached.symm.trans fresh
      exact filed

/-- What was fetched came from somewhere. -/
theorem sourceOf_of_fetched {includes : Bool} {record : StoredBackup}
    (fetched : asyncFetchBackup sha256 (entryBackupSettings runtime) runtime.transport includes
      world = .ok record) :
    ∃ source, runtime.sourceOf sha256 world = some source := by
  obtain ⟨client, nodeId, reached, -, -, -, -⟩ := asyncFetchBackup_ok fetched
  unfold sourceOf
  unfold backupClient at reached
  cases running : runtime.transport.runningClient with
  | some client => exact ⟨.running world.producer, rfl⟩
  | none =>
      rw [running] at reached
      obtain ⟨probe, connected, -⟩ := bind_eq_ok.mp reached
      rw [connected]
      exact ⟨.connected probe, rfl⟩

theorem exists_produces_of_direct {poller : DirectPoller} (direct : runtime.transport = .direct poller)
    (yields : runtime.Yields includeCredentials world poller.client) :
    ∃ copy, runtime.Produces sha256 includeCredentials world copy := by
  have reached : backupClient sha256 (entryBackupSettings runtime) runtime.transport world.connect =
      .ok (poller.client, poller.nodeId) := by
    rw [backupClient, direct]
    rfl
  obtain ⟨record, fetched⟩ := asyncFetchBackup_of_handsOver reached yields.2
  refine ⟨⟨record, .running world.producer⟩, yields.1, fetched, ?_⟩
  rw [sourceOf, direct]
  rfl

theorem exists_produces_of_mqtt {client : HomeKeyMqttClient} {probe : DirectProbe}
    (mqtt : runtime.transport = .mqtt client)
    (connected : (entryBackupSettings runtime).connect sha256 world.connect = .ok probe)
    (yields : runtime.Yields includeCredentials world probe.client) :
    ∃ copy, runtime.Produces sha256 includeCredentials world copy := by
  have reached : backupClient sha256 (entryBackupSettings runtime) runtime.transport world.connect =
      .ok (probe.client, some probe.nodeId) := by
    rw [backupClient, mqtt]
    exact bind_eq_ok.mpr ⟨probe, connected, rfl⟩
  obtain ⟨record, fetched⟩ := asyncFetchBackup_of_handsOver reached yields.2
  refine ⟨⟨record, .connected probe⟩, yields.1, fetched, ?_⟩
  rw [sourceOf, mqtt]
  dsimp only [Transport.runningClient]
  rw [connected]
  rfl

end Runtime

/-! ## What a step does to the copies -/

namespace BackupSystem

variable {sha256 : Sha256} {state : BackupSystem} {entryId : String} {explicit : Bool}
variable {includeCredentials : Option Bool} {world : BackupWorld} {copy : Copy}

/-- An event adds a copy. -/
def Adds (sha256 : Sha256) (state : BackupSystem) (event : BackupEvent) (copy : Copy) : Prop :=
  match event with
  | .backUp entryId _ includeCredentials world =>
      ∃ runtime, state.runtimes.get? entryId = some runtime ∧
        runtime.Produces sha256 includeCredentials world copy
  | .setUp .. => False
  | .poll .. => False
  | .restart => False

theorem backUp_of_adds {event : BackupEvent} (adds : Adds sha256 state event copy) :
    step sha256 state event =
      { state with
        store := state.store.asyncAdd copy.record
        history := state.history ++ [copy] } := by
  cases event with
  | backUp entryId explicit includeCredentials world =>
      obtain ⟨runtime, running, produces⟩ := adds
      have backedUp : asyncBackUpEntry sha256 state.runtimes state.store entryId explicit
          includeCredentials world = ⟨state.store.asyncAdd copy.record, some copy.record, none⟩ :=
        asyncBackUpEntry_of_fetched state.store explicit running produces.configured
          produces.fetched
      have source : (state.runtimes.get? entryId).bind (Runtime.sourceOf sha256 · world) =
          some copy.source := by
        rw [running]
        exact produces.source
      rw [step, backUp, backedUp]
      dsimp only
      rw [source]
  | setUp configured world => exact adds.elim
  | poll entryId world => exact adds.elim
  | restart => exact adds.elim

/-- One backup adds one copy. -/
theorem Adds.unique {event : BackupEvent} {other : Copy} (adds : Adds sha256 state event copy)
    (others : Adds sha256 state event other) : copy = other := by
  have same := (backUp_of_adds adds).symm.trans (backUp_of_adds others)
  have histories := congrArg history same
  exact List.singleton_injective (List.append_cancel_left histories)

/-- A backup adds a copy or changes nothing. -/
theorem backUp_cases (sha256 : Sha256) (state : BackupSystem) (entryId : String) (explicit : Bool)
    (includeCredentials : Option Bool) (world : BackupWorld) :
    (∃ copy, Adds sha256 state (.backUp entryId explicit includeCredentials world) copy) ∨
      step sha256 state (.backUp entryId explicit includeCredentials world) = state := by
  rcases asyncBackUpEntry_cases sha256 state.runtimes state.store entryId explicit
      includeCredentials world with
    ⟨runtime, record, running, configured, fetched⟩ | ⟨error, nothing⟩
  · obtain ⟨source, told⟩ := Runtime.sourceOf_of_fetched fetched
    exact Or.inl ⟨⟨record, source⟩, runtime, running, configured, fetched, told⟩
  · right
    rw [step, backUp, nothing]
    dsimp only
    rw [List.append_nil]

/-- The history grows by what an event adds. -/
theorem mem_history_step {event : BackupEvent} :
    copy ∈ (step sha256 state event).history ↔
      copy ∈ state.history ∨ Adds sha256 state event copy := by
  cases event with
  | backUp entryId explicit includeCredentials world =>
      rcases backUp_cases sha256 state entryId explicit includeCredentials world with
        ⟨added, adds⟩ | unchanged
      · rw [backUp_of_adds adds, List.mem_append, List.mem_singleton]
        refine or_congr_right ?_
        constructor
        · rintro rfl
          exact adds
        · intro other
          exact Adds.unique other adds
      · have none : ¬ Adds sha256 state (.backUp entryId explicit includeCredentials world) copy := by
          intro adds
          have grown := congrArg (fun after => after.history.length)
            ((backUp_of_adds adds).symm.trans unchanged)
          simp at grown
        rw [unchanged]
        exact (or_iff_left none).symm
  | setUp configured world => exact (or_iff_left id).symm
  | poll entryId world =>
      have same : (step sha256 state (.poll entryId world)).history = state.history := by
        rw [step]
        split <;> rfl
      rw [same]
      exact (or_iff_left id).symm
  | restart => exact (or_iff_left id).symm

/-- Every copy of a run is as it should be exactly when every event added such
copies only. -/
theorem history_run_iff {Invariant : BackupSystem → Prop} {Right : Copy → Prop}
    {Condition : BackupSystem → BackupEvent → Prop}
    (keeps : ∀ state event, Invariant state → Invariant (step sha256 state event))
    (agree : ∀ state event, Invariant state →
      ((∀ copy, Adds sha256 state event copy → Right copy) ↔ Condition state event))
    {start : BackupSystem} (initially : Invariant start) (fresh : start.history = [])
    (events : List BackupEvent) :
    (∀ copy ∈ (run (step sha256) start events).history, Right copy) ↔
      Along (step sha256) Condition start events := by
  refine @run_iff_along _ _ (step sha256) Condition Invariant
    (fun state => ∀ copy ∈ state.history, Right copy) keeps ?_ ?_ start events initially ?_
  · intro state event right copy member
    exact right copy (mem_history_step.mpr (Or.inl member))
  · intro state event sound right
    rw [← agree state event sound]
    constructor
    · intro after copy adds
      exact after copy (mem_history_step.mpr (Or.inr adds))
    · intro added copy member
      rcases mem_history_step.mp member with old | adds
      · exact right copy old
      · exact added copy adds
  · intro copy member
    rw [fresh] at member
    cases member

end BackupSystem

/-! ### A sample entry -/

/-- A node that does not answer a poll. -/
def silentPoll : PollWorld :=
  { info := .timedOut true
    state := .timedOut true
    guest := .timedOut true
    env := fun _ => ⟨0, fun _ => .ok none, false, fun _ => none, false⟩ }

/-- A node that is verified and then does not answer, while the broker does. -/
def silentAfterwards : SetupWorld :=
  { connect := sampleConnect "HOME001" "GATE-001"
    poll := silentPoll
    mqttStarts := true }

def mqttConfigured (entryId householdId : String) : ConfiguredEntry :=
  { entryId
    entry := (mqttRuntime entryId householdId).entry
    options := some homeOptions }

/-- An entry over MQTT is set up as it is described. -/
theorem setUpRuntime_mqtt (sha256 : Sha256) (entryId householdId : String) {world : SetupWorld}
    (starts : world.mqttStarts = true) :
    setUpRuntime sha256 (mqttConfigured entryId householdId) world =
      some (mqttRuntime entryId householdId) := by
  have transport : (mqttConfigured entryId householdId).entry.transport = .mqtt := rfl
  rw [setUpRuntime, transport]
  dsimp only
  rw [if_pos starts]
  rfl

end HomeKeyHousehold
