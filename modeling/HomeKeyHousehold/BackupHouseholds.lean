import HomeKeyHousehold.BackupFiling
import HomeKeyHousehold.Restore

/-!
# Whose copies they are

A copy is recorded under the household of its entry, and a restore selects by
what was recorded.  The address of an entry over MQTT is free, and nothing
compares the household of the node that answers there with that of the entry.
-/

namespace HomeKeyHousehold

open Library

/-- A copy is recorded under the household of the node that produced it. -/
def Copy.AtHome (copy : Copy) : Prop := copy.record.householdId = copy.source.householdId

namespace BackupSystem

variable {sha256 : Sha256} {state : BackupSystem} {copy : Copy}

/-- What was fetched over a new connection says who answered, and a restore that
selects by household hands out what a node of the household sealed. -/
structure Truthful (sha256 : Sha256) (state : BackupSystem) : Prop where
  reported : ∀ copy ∈ state.history, ∀ probe, copy.source = .connected probe →
    copy.record.householdId = probe.householdId ∧ copy.record.nodeId = probe.nodeId
  restored : ∀ entryId runtime recoverySecret world,
    state.runtimes.get? entryId = some runtime → runtime.coordinator.householdId ≠ "" →
      ∀ request ∈ (asyncRestoreEntry sha256 state.runtimes state.store entryId recoverySecret none
          world).sent,
        ∃ copy ∈ state.history, request = restoreRequest recoverySecret copy.record.blob ∧
          copy.source.householdId = runtime.coordinator.householdId

/-- A node that hands a backup over is of the household of the entry. -/
def SealedAtHome (sha256 : Sha256) (state : BackupSystem) : BackupEvent → Prop
  | .backUp entryId _ includeCredentials world =>
      ∀ runtime client nodeId source, state.runtimes.get? entryId = some runtime →
        backupClient sha256 (entryBackupSettings runtime) runtime.transport world.connect =
            .ok (client, nodeId) →
          runtime.Yields includeCredentials world client →
            runtime.sourceOf sha256 world = some source →
              source.householdId = runtime.coordinator.householdId
  | .setUp .. => True
  | .poll .. => True
  | .restart => True

/-- A backup is recorded at home exactly when its node is of the household. -/
theorem atHome_iff_sealedAtHome (state : BackupSystem) (event : BackupEvent) :
    (∀ copy, Adds sha256 state event copy → copy.AtHome) ↔ SealedAtHome sha256 state event := by
  cases event with
  | backUp entryId explicit includeCredentials world =>
      constructor
      · intro atHome runtime client nodeId source running reached yields told
        obtain ⟨record, fetched⟩ := asyncFetchBackup_of_handsOver reached yields.2
        have produces : runtime.Produces sha256 includeCredentials world ⟨record, source⟩ :=
          ⟨yields.1, fetched, told⟩
        have home := atHome ⟨record, source⟩ ⟨runtime, running, produces⟩
        exact home.symm.trans produces.householdId
      · rintro sealed copy ⟨runtime, running, produces⟩
        obtain ⟨client, nodeId, reached, handed, -, -, -⟩ := asyncFetchBackup_ok produces.fetched
        have household := sealed runtime client nodeId copy.source running reached
          ⟨produces.configured, handed⟩ produces.source
        exact produces.householdId.trans household.symm
  | setUp configured world => exact ⟨fun _ => trivial, fun _ copy adds => adds.elim⟩
  | poll entryId world => exact ⟨fun _ => trivial, fun _ copy adds => adds.elim⟩
  | restart => exact ⟨fun _ => trivial, fun _ copy adds => adds.elim⟩

/-- Copies are recorded at home through a run exactly when the nodes that hand
them over are. -/
theorem atHome_iff (sha256 : Sha256) (keep : Nat)
    (events : List BackupEvent) :
    (∀ copy ∈ (run (step sha256) (start keep) events).history, copy.AtHome) ↔
      Along (step sha256) (SealedAtHome sha256) (start keep) events :=
  @history_run_iff sha256 Sound Copy.AtHome (SealedAtHome sha256)
    (fun _ event sound => sound_step event sound)
    (fun state event _ => atHome_iff_sealedAtHome state event) (start keep)
    (sound_start keep) rfl events

/-- A stored copy that a restore hands out is the newest of a household. -/
theorem blobFor_stored {store : BackupStore} {householdId blob : String} (named : householdId ≠ "")
    (chosen : blobFor store householdId none = some blob) :
    ∃ backup ∈ store.backups, backup.householdId = householdId ∧ backup.blob = blob := by
  have stored : (store.ofHousehold householdId).getLast?.map StoredBackup.blob = some blob := chosen
  obtain ⟨backup, newest, same⟩ := Option.map_eq_some_iff.mp stored
  obtain ⟨member, selected⟩ := List.mem_filter.mp (List.mem_of_getLast? newest)
  have household := of_decide_eq_true selected
  exact ⟨backup, member, household.resolve_left named, same⟩

/-- What is held and recorded at home is handed out at home. -/
theorem Sound.restored (sound : state.Sound) (atHome : ∀ copy ∈ state.history, copy.AtHome)
    {entryId recoverySecret : String} {runtime : Runtime} {world : RestoreWorld} {request : Request}
    (running : state.runtimes.get? entryId = some runtime)
    (named : runtime.coordinator.householdId ≠ "")
    (sent : request ∈ (asyncRestoreEntry sha256 state.runtimes state.store entryId recoverySecret
      none world).sent) :
    ∃ copy ∈ state.history, request = restoreRequest recoverySecret copy.record.blob ∧
      copy.source.householdId = runtime.coordinator.householdId := by
  rcases asyncRestoreEntry_cases sha256 state.runtimes state.store entryId recoverySecret none
      world with ⟨other, blob, restorable⟩ | ⟨error, refused⟩
  · have same : other = runtime := Option.some.inj (restorable.running.symm.trans running)
    subst same
    obtain ⟨backup, member, household, rfl⟩ := blobFor_stored named restorable.chosen
    obtain ⟨copy, added, rfl⟩ := sound.held backup member
    refine ⟨copy, added, ?_, (atHome copy added).symm.trans household⟩
    rw [restorable.sent_eq, asyncRestoreOnNode_sent] at sent
    split at sent
    · exact List.mem_singleton.mp sent
    · cases sent
  · rw [refused] at sent
    cases sent

theorem connected_named (sha256 : Sha256) (keep : Nat)
    (events : List BackupEvent) :
    ∀ copy ∈ (run (step sha256) (start keep) events).history, ∀ probe,
      copy.source = .connected probe → copy.record.nodeId = probe.nodeId := by
  refine (@history_run_iff sha256 Sound
    (fun copy => ∀ probe, copy.source = .connected probe → copy.record.nodeId = probe.nodeId)
    (fun _ _ => True) (fun _ event sound => sound_step event sound) ?_ (start keep)
    (sound_start keep) rfl events).mpr ?_
  · intro state event _
    refine iff_of_true (fun copy adds probe fresh => ?_) trivial
    cases event with
    | backUp entryId explicit includeCredentials world =>
        obtain ⟨runtime, -, produces⟩ := adds
        exact produces.nodeId_of_connected fresh
    | setUp configured world => exact adds.elim
    | poll entryId world => exact adds.elim
    | restart => exact adds.elim
  · exact along_of_forall (fun _ _ => trivial : ∀ event ∈ events, True) _

/-- In every run in which the nodes that hand copies over are of the household of
their entry, copies say who produced them and are restored within a household. -/
theorem truthful_of_sealedAtHome {keep : Nat}
    {events : List BackupEvent}
    (sealed : Along (step sha256) (SealedAtHome sha256) (start keep) events) :
    (run (step sha256) (start keep) events).Truthful sha256 := by
  have atHome := (atHome_iff sha256 keep events).mpr sealed
  have sound := sound_run sha256 keep events
  refine ⟨?_, ?_⟩
  · intro copy added probe fresh
    have home := atHome copy added
    rw [Copy.AtHome, fresh] at home
    exact ⟨home, connected_named sha256 keep events copy added probe fresh⟩
  · intro entryId runtime recoverySecret world running named request sent
    exact sound.restored atHome running named sent

/-! ### The node of another household -/

/-- An entry of HOME001 over MQTT once it was set up. -/
def homeRunning : BackupSystem :=
  step sampleSha256 (start backupKeep) (.setUp (mqttConfigured "home" "HOME001") silentAfterwards)

/-- A backup of the entry that is answered by a node of a household. -/
def homeBackup (householdId : String) : BackupWorld :=
  sampleBackup (sampleConnect householdId "GATE-001") ⟨"GATE-001", householdId⟩

theorem homeRunning_get? :
    homeRunning.runtimes.get? "home" = some (mqttRuntime "home" "HOME001") := by
  rw [homeRunning, step, reload, setUpRuntime_mqtt sampleSha256 "home" "HOME001" rfl]
  exact mqttRuntime_running _ "home" "HOME001"

theorem home_truthful :
    (run (step sampleSha256) (start backupKeep)
      [.setUp (mqttConfigured "home" "HOME001") silentAfterwards,
        .backUp "home" true none (homeBackup "HOME001")]).Truthful
        sampleSha256 := by
  refine truthful_of_sealedAtHome ⟨trivial, ?_, trivial⟩
  intro runtime client nodeId source running _ _ told
  cases (homeRunning_get?.symm.trans running)
  obtain ⟨probe, connected, -, household, -⟩ :=
    @connect_mqttRuntime "home" "HOME001" "HOME001" "GATE-001" (by decide) (by decide)
  have reached : (mqttRuntime "home" "HOME001").sourceOf sampleSha256 (homeBackup "HOME001") =
      some (.connected probe) := by
    rw [Runtime.sourceOf, homeBackup, sampleBackup]
    dsimp only
    rw [connected]
    rfl
  cases reached.symm.trans told
  exact household

/-- The copy of a node of HOME002 is recorded, and restored, as one of HOME001. -/
theorem other_household_recorded :
    ¬ (run (step sampleSha256) (start backupKeep)
      [.setUp (mqttConfigured "home" "HOME001") silentAfterwards,
        .backUp "home" true none (homeBackup "HOME002")]).Truthful
        sampleSha256 := by
  intro truthful
  obtain ⟨probe, connected, -, household, -⟩ :=
    @connect_mqttRuntime "home" "HOME001" "HOME002" "GATE-001" (by decide) (by decide)
  have yields : (mqttRuntime "home" "HOME001").Yields none (homeBackup "HOME002") probe.client :=
    ⟨rfl, sampleBackup_handsOver _ _ _ _⟩
  obtain ⟨copy, produces⟩ := Runtime.exists_produces_of_mqtt rfl connected yields
  obtain ⟨other, again, -, fresh, -⟩ := produces.of_mqtt rfl
  cases Except.ok.inj (connected.symm.trans again)
  have adds : Adds sampleSha256 homeRunning (.backUp "home" true none (homeBackup "HOME002")) copy :=
    ⟨_, homeRunning_get?, produces⟩
  have reported := (truthful.reported copy (mem_history_step.mpr (Or.inr adds)) probe fresh).1
  rw [produces.householdId, household] at reported
  exact absurd reported (by decide)

end BackupSystem

end HomeKeyHousehold
