import HomeKeyHousehold.BackupRuns
import HomeKeyHousehold.Record
import HomeKeyHousehold.Rejection

/-!
# The backup button

Every node of an entry has a button of its own.  A press backs the entry up; who
answers at the address of the entry is not compared with the node of the button.
-/

namespace HomeKeyHousehold

open Library

/-- `HomeKeyBackupButton`: its node, and the entry of its coordinator. -/
structure HomeKeyBackupButton where
  configEntry : Option String
  nodeId : String
  deriving DecidableEq

/-- The backup buttons of an entry, one for every node it has. -/
def Runtime.backupButtons (runtime : Runtime) : List HomeKeyBackupButton :=
  runtime.coordinator.nodes.keys.map fun nodeId => ⟨some runtime.entryId, nodeId⟩

/-- What a press raises. -/
inductive PressError where
  | homeAssistant (message : String)
  | service (error : ServiceError)
  deriving DecidableEq

/-- What a press leaves behind. -/
structure Pressed where
  store : Option BackupStore
  stored : Option StoredBackup
  error : Option PressError

namespace HomeKeyBackupButton

/-- `async_press`. -/
def asyncPress (sha256 : Sha256) (runtimes : Keyed Runtime.entryId) (store : Option BackupStore)
    (button : HomeKeyBackupButton) (world : BackupWorld) : Pressed :=
  match store, button.configEntry with
  | some store, some entryId =>
      let backedUp := asyncBackUpEntry sha256 runtimes store entryId true none world
      ⟨some backedUp.store, backedUp.stored, backedUp.error.map .service⟩
  | store, _ => ⟨store, none, some (.homeAssistant "Backup storage is not available")⟩

/-- Who answers a press. -/
def source (sha256 : Sha256) (runtimes : Keyed Runtime.entryId) (button : HomeKeyBackupButton)
    (world : BackupWorld) : Option Source :=
  (button.configEntry.bind runtimes.get?).bind (Runtime.sourceOf sha256 · world)

/-- A press raises, or adds a copy that the node of the button produced. -/
def BacksUpItsNode (sha256 : Sha256) (runtimes : Keyed Runtime.entryId)
    (store : Option BackupStore) (button : HomeKeyBackupButton) (world : BackupWorld) : Prop :=
  (button.asyncPress sha256 runtimes store world).error ≠ none ∨
    ∃ record source, (button.asyncPress sha256 runtimes store world).stored = some record ∧
      (button.asyncPress sha256 runtimes store world).store =
        store.map (BackupStore.asyncAdd · record) ∧
      button.source sha256 runtimes world = some source ∧ source.nodeId = button.nodeId

/-- A node that hands a backup over to a press is the node of the button. -/
def AnsweredByItsNode (sha256 : Sha256) (runtimes : Keyed Runtime.entryId)
    (store : Option BackupStore) (button : HomeKeyBackupButton) (world : BackupWorld) : Prop :=
  ∀ entryId runtime client nodeId source, store.isSome = true →
    button.configEntry = some entryId → runtimes.get? entryId = some runtime →
      backupClient sha256 (entryBackupSettings runtime) runtime.transport world.connect =
          .ok (client, nodeId) →
        runtime.Yields none world client → runtime.sourceOf sha256 world = some source →
          source.nodeId = button.nodeId

variable {sha256 : Sha256} {runtimes : Keyed Runtime.entryId} {store : BackupStore}
variable {button : HomeKeyBackupButton} {world : BackupWorld} {entryId : String}

theorem asyncPress_of_store (addressed : button.configEntry = some entryId) :
    button.asyncPress sha256 runtimes (some store) world =
      ⟨some (asyncBackUpEntry sha256 runtimes store entryId true none world).store,
        (asyncBackUpEntry sha256 runtimes store entryId true none world).stored,
        (asyncBackUpEntry sha256 runtimes store entryId true none world).error.map .service⟩ := by
  unfold asyncPress
  rw [addressed]

/-- A press of which a copy comes adds that copy. -/
theorem asyncPress_of_produces {runtime : Runtime} {copy : Copy}
    (addressed : button.configEntry = some entryId)
    (running : runtimes.get? entryId = some runtime)
    (produces : runtime.Produces sha256 none world copy) :
    button.asyncPress sha256 runtimes (some store) world =
        ⟨some (store.asyncAdd copy.record), some copy.record, none⟩ ∧
      button.source sha256 runtimes world = some copy.source := by
  constructor
  · rw [asyncPress_of_store addressed, asyncBackUpEntry_of_fetched store true running
      produces.configured produces.fetched]
    rfl
  · rw [source, addressed]
    simpa [running] using produces.source

/-- A press that returns has added a copy. -/
theorem produces_of_asyncPress
    (returned : (button.asyncPress sha256 runtimes (some store) world).error = none) :
    ∃ entryId runtime copy, button.configEntry = some entryId ∧
      runtimes.get? entryId = some runtime ∧ runtime.Produces sha256 none world copy := by
  cases addressed : button.configEntry with
  | none =>
      unfold asyncPress at returned
      rw [addressed] at returned
      cases returned
  | some entryId =>
      rw [asyncPress_of_store addressed] at returned
      obtain ⟨runtime, record, running, configured, fetched⟩ :=
        asyncBackUpEntry_explicit (Option.map_eq_none_iff.mp returned)
      obtain ⟨source, told⟩ := Runtime.sourceOf_of_fetched fetched
      exact ⟨entryId, runtime, ⟨record, source⟩, rfl, running, configured, fetched, told⟩

/-- A press raises or adds a copy of its node exactly when a node that hands it a
backup is its node. -/
theorem backsUpItsNode_iff (sha256 : Sha256) (runtimes : Keyed Runtime.entryId)
    (store : Option BackupStore) (button : HomeKeyBackupButton) (world : BackupWorld) :
    button.BacksUpItsNode sha256 runtimes store world ↔
      button.AnsweredByItsNode sha256 runtimes store world := by
  cases store with
  | none =>
      have raised : (button.asyncPress sha256 runtimes none world).error ≠ none :=
        Option.some_ne_none _
      refine iff_of_true (Or.inl raised) ?_
      intro entryId runtime client nodeId source stored
      cases stored
  | some store =>
      constructor
      · intro backsUp entryId runtime client nodeId source _ addressed running reached yields told
        obtain ⟨record, fetched⟩ := asyncFetchBackup_of_handsOver reached yields.2
        have produces : runtime.Produces sha256 none world ⟨record, source⟩ :=
          ⟨yields.1, fetched, told⟩
        obtain ⟨pressed, answered⟩ := @asyncPress_of_produces _ _ store _ _ _ _ _ addressed running
          produces
        rcases backsUp with raised | ⟨_, other, -, -, answeredBy, own⟩
        · rw [pressed] at raised
          exact absurd rfl raised
        · cases Option.some.inj (answered.symm.trans answeredBy)
          exact own
      · intro answered
        by_cases returned : (button.asyncPress sha256 runtimes (some store) world).error = none
        · right
          obtain ⟨entryId, runtime, copy, addressed, running, produces⟩ :=
            produces_of_asyncPress returned
          obtain ⟨client, nodeId, reached, handed, -, -, -⟩ := asyncFetchBackup_ok produces.fetched
          obtain ⟨pressed, told⟩ := @asyncPress_of_produces _ _ store _ _ _ _ _ addressed running
            produces
          refine ⟨copy.record, copy.source, ?_, ?_, told, ?_⟩
          · rw [pressed]
          · rw [pressed]
            rfl
          · exact answered entryId runtime client nodeId copy.source rfl addressed running reached
              ⟨produces.configured, handed⟩ produces.source
        · exact Or.inl returned

end HomeKeyBackupButton

/-! ### Two nodes under one entry -/

/-- An entry over MQTT that has heard from two nodes. -/
def sharedRuntime : Runtime :=
  { mqttRuntime "home" "HOME001" with
    coordinator :=
      (Coordinator.new "HOME001").ingest (fun _ => Coordinator.sampleEnv)
        [.online "HOME001" "GATE-001", .online "HOME001" "BARN-002"] }

def barnButton : HomeKeyBackupButton := ⟨some "home", "BARN-002"⟩

/-- The gate answers at the address of the entry. -/
def gateAnswers : BackupWorld :=
  sampleBackup (sampleConnect "HOME001" "GATE-001") ⟨"GATE-001", "HOME001"⟩

/-- A press of the button of the barn stores a copy of the gate. -/
theorem barn_press_backs_up_gate :
    barnButton ∈ sharedRuntime.backupButtons ∧
      ¬ barnButton.BacksUpItsNode sampleSha256 (.put .empty sharedRuntime) (some { })
        gateAnswers := by
  refine ⟨by decide +kernel, ?_⟩
  obtain ⟨probe, connected, -, -, named⟩ :=
    @connect_mqttRuntime "home" "HOME001" "HOME001" "GATE-001" (by decide) (by decide)
  have running : (Keyed.empty.put sharedRuntime).get? "home" = some sharedRuntime :=
    @Keyed.get?_put_self _ _ _ Runtime.entryId .empty sharedRuntime
  have yields : sharedRuntime.Yields none gateAnswers probe.client :=
    ⟨rfl, sampleBackup_handsOver _ _ _ _⟩
  obtain ⟨copy, produces⟩ := @Runtime.exists_produces_of_mqtt _ sharedRuntime none gateAnswers _ _
    rfl connected yields
  obtain ⟨other, again, -, fresh, -⟩ := produces.of_mqtt rfl
  cases Except.ok.inj (connected.symm.trans again)
  obtain ⟨pressed, told⟩ :=
    @HomeKeyBackupButton.asyncPress_of_produces _ _ { } barnButton _ _ _ _ rfl running produces
  rintro (raised | ⟨record, source, -, -, answered, own⟩)
  · rw [pressed] at raised
    exact raised rfl
  · cases Option.some.inj (told.symm.trans answered)
    rw [fresh] at own
    have barn : "GATE-001" = "BARN-002" := named.symm.trans own
    exact absurd barn (by decide)

end HomeKeyHousehold
