import HomeKeyHousehold.BackupRuns

/-!
# Filing copies

The store is written with whatever was added to it and reads back what has a
node id.  A copy of a direct entry has the node id its poller knows, so it is
filed under the node that produced it only after a poll that named that node.
-/

namespace HomeKeyHousehold

open Library

/-- A copy has the id of the node that produced it. -/
def Copy.Filed (copy : Copy) : Prop :=
  copy.record.nodeId = copy.source.nodeId ∧ copy.record.nodeId ≠ ""

namespace BackupSystem

variable {sha256 : Sha256} {state : BackupSystem} {copy : Copy}

/-! ## What holds in every run -/

/-- What the store owes to the copies that were added to it. -/
structure Sound (state : BackupSystem) : Prop where
  known : ∀ entryId runtime poller, state.runtimes.get? entryId = some runtime →
    runtime.transport = .direct poller → poller.nodeId ≠ some ""
  filled : ∀ copy ∈ state.history, copy.record.blob ≠ ""
  held : ∀ backup ∈ state.store.backups, ∃ copy ∈ state.history, copy.record = backup
  windows : ∀ nodeId, nodeId ≠ "" → state.store.forNode nodeId =
    (ofKey StoredBackup.nodeId nodeId (state.history.map Copy.record)).rtake state.store.keep
  reads : state.store.asyncLoad.backups =
    state.store.backups.filter fun backup => backup.nodeId ≠ ""

/-- A poll never makes an id blank. -/
theorem asyncPollSafely_known {poller : DirectPoller} (known : poller.nodeId ≠ some "")
    (coordinator : Coordinator) (world : PollWorld) :
    (poller.asyncPollSafely coordinator world).poller.nodeId ≠ some "" := by
  rw [DirectPoller.asyncPollSafely_poller_nodeId]
  rcases poller.asyncPollOnce_nodeId coordinator world with same | ⟨nodeId, named, learned⟩
  · rw [same]
    exact known
  · rw [learned]
    exact fun blank => named (Option.some.inj blank)

theorem poll_known {runtime : Runtime} {world : PollWorld} {poller : DirectPoller}
    (known : ∀ poller, runtime.transport = .direct poller → poller.nodeId ≠ some "")
    (direct : (runtime.poll world).transport = .direct poller) : poller.nodeId ≠ some "" := by
  unfold Runtime.poll at direct
  cases transport : runtime.transport with
  | mqtt client =>
      rw [transport] at direct
      dsimp only at direct
      rw [transport] at direct
      cases direct
  | direct old =>
      rw [transport] at direct
      cases direct
      exact asyncPollSafely_known (known old transport) runtime.coordinator world

/-- A poller that was just started knows no blank id. -/
theorem setUpRuntime_known {configured : ConfiguredEntry} {world : SetupWorld} {runtime : Runtime}
    (started : setUpRuntime sha256 configured world = some runtime) {poller : DirectPoller}
    (direct : runtime.transport = .direct poller) : poller.nodeId ≠ some "" := by
  unfold setUpRuntime at started
  dsimp only at started
  split at started
  · obtain ⟨⟨coordinator, polled⟩, verified, rfl⟩ := Option.map_eq_some_iff.mp started
    cases direct
    unfold asyncStartDirect at verified
    split at verified
    · cases verified
    · next probe connected =>
        split at verified
        · dsimp only at verified
          split at verified
          · cases verified
            exact asyncPollSafely_known (fun blank => by cases blank) _ world.poll
          · cases verified
        · cases verified
  · split at started
    · cases started
      cases direct
    · cases started

/-- After a reload an entry is what it was, or has just been set up. -/
theorem reload_get? {configured : ConfiguredEntry} {runtimes : Keyed Runtime.entryId}
    {wanted : String} {world : SetupWorld} {runtime : Runtime}
    (running : (reload sha256 configured runtimes world).get? wanted = some runtime) :
    runtimes.get? wanted = some runtime ∨ setUpRuntime sha256 configured world = some runtime := by
  have unloaded (kept : (runtimes.erase configured.entryId).get? wanted = some runtime) :
      runtimes.get? wanted = some runtime := by
    rw [Keyed.get?_erase] at kept
    split at kept
    · cases kept
    · exact kept
  unfold reload at running
  dsimp only at running
  split at running
  · exact Or.inl (unloaded running)
  · next fresh started =>
      rw [Keyed.get?_put] at running
      split at running
      · cases running
        exact Or.inr started
      · exact Or.inl (unloaded running)

/-- A change of what is running concerns the pollers alone. -/
theorem Sound.of_runtimes (sound : state.Sound) (runtimes : Keyed Runtime.entryId)
    (known : ∀ entryId runtime poller, runtimes.get? entryId = some runtime →
      runtime.transport = .direct poller → poller.nodeId ≠ some "") :
    Sound { state with runtimes } :=
  ⟨known, sound.filled, sound.held, sound.windows, sound.reads⟩

/-- What is filed under a node id is read back. -/
theorem Sound.forNode_asyncLoad (sound : state.Sound) {nodeId : String} (named : nodeId ≠ "") :
    state.store.asyncLoad.forNode nodeId = state.store.forNode nodeId := by
  rw [BackupStore.forNode, sound.reads, BackupStore.forNode, ofKey, List.filter_filter]
  refine List.filter_congr fun backup _ => ?_
  by_cases filed : backup.nodeId = nodeId
  · simp [filed, named]
  · simp [filed]

/-- Reading the file back drops what has no node id. -/
theorem Sound.restart (sound : state.Sound) :
    Sound { state with runtimes := .empty, store := state.store.asyncLoad } := by
  refine ⟨?_, sound.filled, ?_, ?_, ?_⟩
  · intro entryId runtime poller running
    cases running
  · intro backup member
    rw [sound.reads] at member
    exact sound.held backup (List.mem_of_mem_filter member)
  · intro nodeId named
    exact (sound.forNode_asyncLoad named).trans (sound.windows nodeId named)
  · show state.store.asyncLoad.backups = _
    rw [sound.reads, List.filter_filter]
    simp only [Bool.and_self]

/-- Adding a copy slides the window of its node id and writes the file. -/
theorem Sound.add (sound : state.Sound) (filled : copy.record.blob ≠ "") :
    Sound { state with
      store := state.store.asyncAdd copy.record
      history := state.history ++ [copy] } := by
  have still : ∀ old ∈ state.history ++ [copy], old.record.blob ≠ "" := by
    intro old member
    rcases List.mem_append.mp member with earlier | new
    · exact sound.filled old earlier
    · rw [List.mem_singleton.mp new]
      exact filled
  have held : ∀ backup ∈ (state.store.asyncAdd copy.record).backups,
      ∃ old ∈ state.history ++ [copy], old.record = backup := by
    intro backup member
    rcases mem_retain member with earlier | rfl
    · obtain ⟨old, stored, same⟩ := sound.held backup earlier
      exact ⟨old, List.mem_append_left _ stored, same⟩
    · exact ⟨copy, List.mem_append_right _ (List.mem_singleton_self copy), rfl⟩
  refine ⟨sound.known, still, held, ?_, ?_⟩
  · intro nodeId named
    have window := sound.windows nodeId named
    rw [BackupStore.forNode] at window
    rw [BackupStore.forNode, BackupStore.backups_asyncAdd, BackupStore.keep_asyncAdd,
      List.map_append, ofKey.eq_def _ _ (_ ++ _), List.filter_append, List.map_singleton, ← ofKey]
    by_cases same : copy.record.nodeId = nodeId
    · subst same
      rw [ofKey_retain_self, window, rtake_rtake_append, List.filter_cons_of_pos (by simp),
        List.filter_nil]
    · rw [ofKey_retain_of_ne _ _ _ same, window, List.filter_cons_of_neg (by simpa using same),
        List.filter_nil, List.append_nil]
  · refine BackupStore.filterMap_recordsOf_document _ fun backup member => ?_
    obtain ⟨old, stored, rfl⟩ := held backup member
    exact still old stored

theorem sound_step (event : BackupEvent) (sound : state.Sound) :
    (step sha256 state event).Sound := by
  cases event with
  | setUp configured world =>
      refine sound.of_runtimes _ fun wanted runtime poller running direct => ?_
      rcases reload_get? running with old | started
      · exact sound.known wanted runtime poller old direct
      · exact setUpRuntime_known started direct
  | poll entryId world =>
      rw [step]
      split
      · exact sound
      · next polled found =>
          refine sound.of_runtimes _ fun wanted runtime poller running direct => ?_
          rw [Keyed.get?_put] at running
          split at running
          · cases running
            exact poll_known (fun old => sound.known entryId polled old found) direct
          · exact sound.known wanted runtime poller running direct
  | backUp entryId explicit includeCredentials world =>
      rcases backUp_cases sha256 state entryId explicit includeCredentials world with
        ⟨copy, adds⟩ | unchanged
      · rw [backUp_of_adds adds]
        obtain ⟨runtime, -, produces⟩ := adds
        exact sound.add produces.filled
      · rw [unchanged]
        exact sound
  | restart => exact sound.restart

theorem sound_start (keep : Nat) :
    (start keep).Sound := by
  refine ⟨?_, ?_, ?_, ?_, rfl⟩
  · intro entryId runtime poller running
    cases running
  · intro copy member
    cases member
  · intro backup member
    cases member
  · intro nodeId named
    exact (rtake_eq_self (Nat.zero_le _)).symm

theorem sound_run (sha256 : Sha256) (keep : Nat)
    (events : List BackupEvent) : (run (step sha256) (start keep) events).Sound :=
  run_keeps (fun _ event sound => sound_step event sound) (sound_start keep) events

/-! ## Where the copies are -/

/-- The copies a node produced, as they were stored. -/
def producedBy (state : BackupSystem) (nodeId : String) : List StoredBackup :=
  (ofKey (fun copy => copy.source.nodeId) nodeId state.history).map Copy.record

/-- Every copy is filed under the node that produced it, where it is found until
newer ones fill the window, and a restart finds it there too. -/
structure KeepsCopies (state : BackupSystem) : Prop where
  filed : ∀ copy ∈ state.history, copy.Filed
  found : ∀ nodeId,
    state.store.forNode nodeId = (state.producedBy nodeId).rtake state.store.keep
  reloaded : ∀ nodeId, state.store.asyncLoad.forNode nodeId = state.store.forNode nodeId

/-- A direct entry that hands a backup over was told by a poll which node it is
that does. -/
def KnownWhenAsked (state : BackupSystem) : BackupEvent → Prop
  | .backUp entryId _ includeCredentials world =>
      ∀ runtime poller, state.runtimes.get? entryId = some runtime →
        runtime.transport = .direct poller →
          runtime.Yields includeCredentials world poller.client →
            poller.nodeId = some world.producer.nodeId
  | .setUp .. => True
  | .poll .. => True
  | .restart => True

/-- Copies that are filed right are where they belong. -/
theorem Sound.keepsCopies (sound : state.Sound) (filed : ∀ copy ∈ state.history, copy.Filed) :
    state.KeepsCopies := by
  have named : ∀ backup ∈ state.store.backups, backup.nodeId ≠ "" := by
    intro backup member
    obtain ⟨copy, stored, rfl⟩ := sound.held backup member
    exact (filed copy stored).2
  have unnamed : state.store.forNode "" = [] :=
    List.filter_eq_nil_iff.mpr fun backup member =>
      by simpa using named backup member
  have produced (nodeId : String) : state.producedBy nodeId =
      ofKey StoredBackup.nodeId nodeId (state.history.map Copy.record) := by
    rw [producedBy, ofKey, ofKey, List.filter_map]
    refine congrArg (List.map Copy.record) (List.filter_congr fun copy member => ?_)
    rw [Function.comp_apply, (filed copy member).1]
  refine ⟨filed, ?_, ?_⟩
  · intro nodeId
    by_cases blank : nodeId = ""
    · subst blank
      have none : state.producedBy "" = [] := by
        rw [produced]
        refine List.filter_eq_nil_iff.mpr fun backup member => ?_
        obtain ⟨copy, stored, rfl⟩ := List.mem_map.mp member
        simpa using (filed copy stored).2
      rw [unnamed, none]
      exact (rtake_eq_self (Nat.zero_le _)).symm
    · rw [produced]
      exact sound.windows nodeId blank
  · intro nodeId
    rw [BackupStore.forNode, sound.reads, List.filter_eq_self.mpr
      fun backup member => decide_eq_true (named backup member), BackupStore.forNode]

/-- A copy of a direct entry is filed right exactly when its poller knows the node
that hands it over. -/
theorem filed_direct_iff {runtime : Runtime} {includeCredentials : Option Bool}
    {world : BackupWorld} {poller : DirectPoller}
    (produces : runtime.Produces sha256 includeCredentials world copy)
    (direct : runtime.transport = .direct poller) (known : poller.nodeId ≠ some "") :
    copy.Filed ↔ poller.nodeId = some world.producer.nodeId := by
  obtain ⟨-, source, filed⟩ := produces.of_direct direct
  rw [Copy.Filed, source, filed]
  cases nodeId : poller.nodeId with
  | none =>
      refine iff_of_false (fun right => right.2 rfl) ?_
      intro found
      cases found
  | some learned =>
      constructor
      · rintro ⟨same, -⟩
        exact congrArg some same
      · intro same
        refine ⟨Option.some.inj same, ?_⟩
        intro blank
        exact known (nodeId.trans (congrArg some blank))

/-- A copy that was fetched over a new connection is always filed right. -/
theorem filed_mqtt {runtime : Runtime} {includeCredentials : Option Bool} {world : BackupWorld}
    {client : HomeKeyMqttClient} (produces : runtime.Produces sha256 includeCredentials world copy)
    (mqtt : runtime.transport = .mqtt client) : copy.Filed := by
  obtain ⟨probe, connected, -, source, filed⟩ := produces.of_mqtt mqtt
  rw [Copy.Filed, source, filed]
  exact ⟨rfl, asyncConnectNode_named connected⟩

/-- A backup files right exactly when its entry knows the node it asks. -/
theorem filed_iff_knownWhenAsked (event : BackupEvent) (sound : state.Sound) :
    (∀ copy, Adds sha256 state event copy → copy.Filed) ↔ KnownWhenAsked state event := by
  cases event with
  | backUp entryId explicit includeCredentials world =>
      constructor
      · intro filed runtime poller running direct yields
        have known := sound.known entryId runtime poller running direct
        obtain ⟨copy, produces⟩ := Runtime.exists_produces_of_direct direct yields
        exact (filed_direct_iff produces direct known).mp (filed copy ⟨runtime, running, produces⟩)
      · rintro asked copy ⟨runtime, running, produces⟩
        cases transport : runtime.transport with
        | mqtt client => exact filed_mqtt produces transport
        | direct poller =>
            have known := sound.known entryId runtime poller running transport
            obtain ⟨yields, -, -⟩ := produces.of_direct transport
            exact (filed_direct_iff produces transport known).mpr
              (asked runtime poller running transport yields)
  | setUp configured world => exact ⟨fun _ => trivial, fun _ copy adds => adds.elim⟩
  | poll entryId world => exact ⟨fun _ => trivial, fun _ copy adds => adds.elim⟩
  | restart => exact ⟨fun _ => trivial, fun _ copy adds => adds.elim⟩

/-- Every run of polls, backups and restarts keeps its copies exactly when no
direct entry hands one over before a poll named the node that does. -/
theorem keepsCopies_iff (sha256 : Sha256) (keep : Nat)
    (events : List BackupEvent) :
    (run (step sha256) (start keep) events).KeepsCopies ↔
      Along (step sha256) KnownWhenAsked (start keep) events := by
  have history := @history_run_iff sha256 Sound Copy.Filed KnownWhenAsked
    (fun _ event sound => sound_step event sound)
    (fun _ event sound => filed_iff_knownWhenAsked event sound) (start keep)
    (sound_start keep) rfl events
  rw [← history]
  exact ⟨KeepsCopies.filed, (sound_run sha256 keep events).keepsCopies⟩

/-! ### A copy before the first poll -/

def gateConfigured : ConfiguredEntry :=
  { entryId := "gate"
    entry :=
      { uniqueId := "homekey_household_AB"
        title := "Gate"
        transport := .direct
        householdId := "HOME001"
        householdName := "Home"
        host := some "192.0.2.1"
        fingerprint := some "AB"
        username := some "admin"
        password := some "admin" }
    options := none }

def gatePoller : DirectPoller :=
  { client := ⟨"192.0.2.1", defaultHttpsPort⟩, householdId := "HOME001", failures := 1 }

def gateRuntime : Runtime :=
  { entryId := "gate"
    entry := gateConfigured.entry
    options := none
    coordinator := .new "HOME001"
    transport := .direct gatePoller }

theorem setUpRuntime_gate :
    setUpRuntime sampleSha256 gateConfigured silentAfterwards = some gateRuntime := by
  obtain ⟨probe, connected, client, household, -⟩ := asyncConnectNode_sample "192.0.2.1"
    defaultHttpsPort (by decide : "HOME001" ≠ "") (by decide : "GATE-001" ≠ "")
  have started : asyncStartDirect sampleSha256 gateConfigured.entry (.new "HOME001")
      silentAfterwards = some (.new "HOME001", gatePoller) := by
    rw [asyncStartDirect]
    have reached : asyncConnectNode sampleSha256 (gateConfigured.entry.host.getD "")
        (gateConfigured.entry.port.getD defaultHttpsPort)
        (gateConfigured.entry.fingerprint.getD "") silentAfterwards.connect = _ := connected
    rw [reached]
    dsimp only
    rw [household, client]
    rfl
  have transport : gateConfigured.entry.transport = .direct := rfl
  rw [setUpRuntime, transport]
  have home : gateConfigured.entry.householdId = "HOME001" := rfl
  dsimp only
  rw [home, started]
  rfl

/-- A backup of the gate, which answers it. -/
def gateBackup : BackupWorld :=
  sampleBackup (sampleConnect "HOME001" "GATE-001") ⟨"GATE-001", "HOME001"⟩

/-- The gate once it was set up. -/
def gateRunning : BackupSystem :=
  step sampleSha256 (start backupKeep) (.setUp gateConfigured silentAfterwards)

theorem gateRunning_get? : gateRunning.runtimes.get? "gate" = some gateRuntime := by
  rw [gateRunning, step, reload, setUpRuntime_gate]
  exact @Keyed.get?_put_self _ _ _ Runtime.entryId _ gateRuntime

/-- The copy of a direct entry is filed under no node. -/
theorem gate_unfiled :
    ¬ (run (step sampleSha256) (start backupKeep)
        [.setUp gateConfigured silentAfterwards,
          .backUp "gate" true none gateBackup]).KeepsCopies := by
  intro kept
  have yields : gateRuntime.Yields none gateBackup gatePoller.client :=
    ⟨by decide, sampleBackup_handsOver _ _ _ _⟩
  obtain ⟨copy, produces⟩ := @Runtime.exists_produces_of_direct sampleSha256 _ _ _ _ rfl yields
  have adds : Adds sampleSha256 gateRunning (.backUp "gate" true none gateBackup) copy :=
    ⟨gateRuntime, gateRunning_get?, produces⟩
  have filed := kept.filed copy (mem_history_step.mpr (Or.inr adds))
  obtain ⟨-, -, unnamed⟩ := produces.of_direct rfl
  exact filed.2 unnamed

end BackupSystem

end HomeKeyHousehold
