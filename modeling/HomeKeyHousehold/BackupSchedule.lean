import HomeKeyHousehold.BackupService

/-!
# The daily backup

The scheduled run goes through all entries and survives the exceptions of the
direct transport.  The replies it looks something up in can raise others, also
after the blob is there.
-/

namespace HomeKeyHousehold

open Library

/-- `_scheduled`. -/
def scheduled (sha256 : Sha256) (runtimes : Keyed Runtime.entryId) (store : BackupStore)
    (world : String → BackupWorld) : BackedUpAll :=
  backUpTargets sha256 runtimes false none world store (targetEntryIds runtimes none)

/-- The blob of an answer to `/backup/create`, unless it is missing or empty. -/
def Reply.blob (reply : Reply) : Option String :=
  match reply.reading with
  | .document (.obj answer) =>
      match Json.get answer "backup" with
      | .str blob => if blob = "" then none else some blob
      | _ => none
  | _ => none

/-! ## What a fetch raises -/

variable {sha256 : Sha256} {settings : BackupSettings} {transport : Transport}
variable {allowed : Raised → Bool} {client : DirectClient} {included : Bool}

theorem blob_eq_some {reply : Reply} {blob : String} (found : reply.blob = some blob) :
    ∃ answer, reply.reading = .document (.obj answer) ∧
      Json.get answer "backup" = .str blob ∧ blob ≠ "" := by
  unfold Reply.blob at found
  split at found
  · next answer read =>
      split at found
      · next text held =>
          split at found
          · cases found
          · next filled =>
              cases found
              exact ⟨answer, read, held, filled⟩
      · cases found
  · cases found

theorem asyncCreateBackup_eq_ok_iff {reply : Reply} {copy : String × Bool} :
    (client.asyncCreateBackup included reply).2 = .ok copy ↔
      reply.blob = some copy.1 ∧ copy.2 = sealedIn reply := by
  constructor
  · intro created
    refine ⟨?_, asyncCreateBackup_sealedIn created⟩
    obtain ⟨answer, posted, created⟩ := bind_eq_ok.mp created
    obtain ⟨members, object, made⟩ := bind_eq_ok.mp created
    have read : reply.reading = .document answer := request_eq_ok_iff.mp posted
    cases answer with
    | obj told =>
        cases object
        rw [Reply.blob, read]
        dsimp only at made ⊢
        cases held : Json.get members "backup" with
        | str blob =>
            rw [held] at made
            dsimp only at made ⊢
            by_cases blank : blob = ""
            · rw [if_pos blank] at made
              cases made
            · rw [if_neg blank] at made ⊢
              cases made
              rfl
        | null | bool _ | int _ | float _ | arr _ | obj _ =>
            rw [held] at made
            cases made
    | null | bool _ | int _ | float _ | str _ | arr _ => cases object
  · rintro ⟨blob, same⟩
    obtain ⟨content, includes⟩ := copy
    obtain ⟨answer, read, held, filled⟩ := blob_eq_some blob
    have posted : client.request "/backup/create" reply = .ok (.obj answer) :=
      request_eq_ok_iff.mpr read
    refine bind_eq_ok.mpr ⟨.obj answer, posted, bind_eq_ok.mpr ⟨answer, rfl, ?_⟩⟩
    rw [sealedIn, read] at same
    rw [held]
    dsimp only at same ⊢
    rw [if_neg filled, same]
    rfl

variable (allows : AllowsDirect allowed)

include allows

theorem raisesOnly_asyncCreateBackup (client : DirectClient) (included : Bool) (reply : Reply) :
    RaisesOnly allowed (client.asyncCreateBackup included reply).2 ↔ reply.Legible := by
  rw [← raisesOnly_object allows client "/backup/create", DirectClient.asyncCreateBackup]
  dsimp only [DirectClient.post]
  rw [raisesOnly_bind, raisesOnly_bind]
  refine and_congr_right fun _ => forall₂_congr fun answer _ => ?_
  rw [raisesOnly_bind]
  refine and_iff_left fun result _ => ?_
  split
  · split
    · exact (raisesOnly_error _).mpr (allows.direct _ _)
    · exact raisesOnly_ok _
  · exact (raisesOnly_error _).mpr (allows.direct _ _)

theorem raisesOnly_backupClient (world : ConnectWorld) :
    RaisesOnly allowed (backupClient sha256 settings transport world) ↔
      (transport.runningClient = none → world.Legible sha256 (settings.fingerprint.getD "")) := by
  unfold backupClient
  cases transport.runningClient with
  | some client => exact iff_of_true (raisesOnly_ok _) (by simp)
  | none =>
      dsimp only
      rw [raisesOnly_bind, BackupSettings.connect, raisesOnly_asyncConnectNode allows]
      constructor
      · intro only _
        exact only.1
      · intro legible
        exact ⟨legible rfl, fun probe _ => raisesOnly_ok _⟩

omit allows

/-- A legible summary does not cost the copy its stamp, and any other costs the
copy. -/
theorem asyncNodeBackupTime_isOk_iff (client : DirectClient) (reply : Reply) :
    (∃ stamp, client.asyncNodeBackupTime reply = .ok stamp) ↔ reply.Legible := by
  have answers := request_answers client "/backup" reply
  rw [DirectClient.asyncNodeBackupTime, Reply.Legible]
  generalize client.request "/backup" reply = result at answers ⊢
  generalize reply.reading = reading at answers ⊢
  cases answers with
  | refused error message => exact iff_of_true ⟨none, rfl⟩ trivial
  | undecodable => simp
  | document value =>
      dsimp only
      simp only [bind_eq_ok]
      constructor
      · rintro ⟨stamp, members, object, -⟩
        cases value with
        | obj info => exact ⟨info, rfl⟩
        | null | bool _ | int _ | float _ | str _ | arr _ => cases object
      · rintro ⟨members, rfl⟩
        exact ⟨_, members, rfl, rfl⟩

theorem raisesOnly_asyncNodeBackupTime (client : DirectClient) (reply : Reply) :
    RaisesOnly Raised.isDirect (client.asyncNodeBackupTime reply) ↔ reply.Legible := by
  rw [← asyncNodeBackupTime_isOk_iff client]
  have answers := request_answers client "/backup" reply
  rw [DirectClient.asyncNodeBackupTime]
  generalize client.request "/backup" reply = result at answers ⊢
  generalize reply.reading = reading at answers
  cases answers with
  | refused error message => exact iff_of_true (raisesOnly_ok none) ⟨none, rfl⟩
  | undecodable => simp [raisesOnly_error, Raised.isDirect]
  | document value =>
      dsimp only
      rw [raisesOnly_bind, raisesOnly_membersOf allowsDirect_isDirect.other]
      simp only [bind_eq_ok]
      constructor
      · rintro ⟨⟨members, rfl⟩, -⟩
        exact ⟨_, members, rfl, rfl⟩
      · rintro ⟨stamp, members, object, -⟩
        cases value with
        | obj info => exact ⟨⟨info, rfl⟩, fun told _ => raisesOnly_ok _⟩
        | null | bool _ | int _ | float _ | str _ | arr _ => cases object

/-! ## One entry -/

variable {runtime : Runtime}

/-- A client is there or can be connected. -/
def Reached (sha256 : Sha256) (runtime : Runtime) (world : BackupWorld) : Prop :=
  ∃ client nodeId, backupClient sha256 (entryBackupSettings runtime) runtime.transport
    world.connect = .ok (client, nodeId)

/-- The replies of a node are legible, as far as a backup asks for them. -/
structure LegibleTo (sha256 : Sha256) (runtime : Runtime) (world : BackupWorld) : Prop where
  connect : runtime.transport.runningClient = none →
    world.connect.Legible sha256 ((entryBackupSettings runtime).fingerprint.getD "")
  create : Reached sha256 runtime world → world.create.Legible
  summary : Reached sha256 runtime world → world.create.blob.isSome = true → world.summary.Legible

/-- Fetching a copy fails as expected exactly when the replies are legible. -/
theorem raisesOnly_asyncFetchBackup (runtime : Runtime) (included : Bool) (world : BackupWorld) :
    RaisesOnly Raised.isDirect
        (asyncFetchBackup sha256 (entryBackupSettings runtime) runtime.transport included world) ↔
      LegibleTo sha256 runtime world := by
  have stamped (client : DirectClient) (nodeId : Option String) (copy : String × Bool) :
      RaisesOnly Raised.isDirect (do
        let nodeTime ← client.asyncNodeBackupTime world.summary
        pure
          ({ nodeId := nodeId.getD ""
             householdId := (entryBackupSettings runtime).householdId
             created := isoformat world.now
             nodeTime
             blob := copy.1
             includesCredentials := copy.2 } : StoredBackup)) ↔ world.summary.Legible := by
    rw [raisesOnly_bind, raisesOnly_asyncNodeBackupTime]
    exact and_iff_left fun nodeTime _ => raisesOnly_ok _
  have created (client : DirectClient) (nodeId : Option String) :
      RaisesOnly Raised.isDirect (do
        let copy ← (client.asyncCreateBackup included world.create).2
        let nodeTime ← client.asyncNodeBackupTime world.summary
        pure
          ({ nodeId := nodeId.getD ""
             householdId := (entryBackupSettings runtime).householdId
             created := isoformat world.now
             nodeTime
             blob := copy.1
             includesCredentials := copy.2 } : StoredBackup)) ↔
        world.create.Legible ∧ (world.create.blob.isSome = true → world.summary.Legible) := by
    rw [raisesOnly_bind, raisesOnly_asyncCreateBackup allowsDirect_isDirect]
    refine and_congr_right fun _ => ?_
    constructor
    · intro only blob
      obtain ⟨content, held⟩ := Option.isSome_iff_exists.mp blob
      exact (stamped client nodeId (content, sealedIn world.create)).mp
        (only _ (asyncCreateBackup_eq_ok_iff.mpr ⟨held, rfl⟩))
    · intro legible copy made
      have held := (asyncCreateBackup_eq_ok_iff.mp made).1
      exact (stamped client nodeId copy).mpr (legible (Option.isSome_iff_exists.mpr ⟨_, held⟩))
  rw [asyncFetchBackup, raisesOnly_bind, raisesOnly_backupClient allowsDirect_isDirect]
  constructor
  · rintro ⟨connect, only⟩
    have asked (reached : Reached sha256 runtime world) : world.create.Legible ∧
        (world.create.blob.isSome = true → world.summary.Legible) := by
      obtain ⟨client, nodeId, connected⟩ := reached
      exact (created client nodeId).mp (only (client, nodeId) connected)
    exact ⟨connect, fun reached => (asked reached).1, fun reached => (asked reached).2⟩
  · intro legible
    refine ⟨legible.connect, ?_⟩
    rintro ⟨client, nodeId⟩ connected
    have reached : Reached sha256 runtime world := ⟨client, nodeId, connected⟩
    exact (created client nodeId).mpr ⟨legible.create reached, legible.summary reached⟩

/-- A blob is stored exactly when the summary that follows it is legible. -/
theorem asyncFetchBackup_blob_iff {world : BackupWorld} {blob : String}
    (reached : Reached sha256 runtime world) (returned : world.create.blob = some blob) :
    (∃ record, asyncFetchBackup sha256 (entryBackupSettings runtime) runtime.transport included
        world = .ok record ∧ record.blob = blob) ↔ world.summary.Legible := by
  obtain ⟨client, nodeId, connected⟩ := reached
  rw [← asyncNodeBackupTime_isOk_iff client]
  constructor
  · rintro ⟨record, fetched, -⟩
    obtain ⟨⟨other, filed⟩, again, fetched⟩ := bind_eq_ok.mp fetched
    obtain ⟨copy, -, fetched⟩ := bind_eq_ok.mp fetched
    obtain ⟨stamp, dated, -⟩ := bind_eq_ok.mp fetched
    cases Except.ok.inj (connected.symm.trans again)
    exact ⟨stamp, dated⟩
  · rintro ⟨stamp, dated⟩
    have created : (client.asyncCreateBackup included world.create).2 =
        .ok (blob, sealedIn world.create) :=
      asyncCreateBackup_eq_ok_iff.mpr ⟨returned, rfl⟩
    exact ⟨_, bind_eq_ok.mpr ⟨(client, nodeId), connected, bind_eq_ok.mpr ⟨_, created,
      bind_eq_ok.mpr ⟨stamp, dated, rfl⟩⟩⟩, rfl⟩

/-- A scheduled backup raises nothing exactly when its fetch fails as expected, if
it does. -/
theorem asyncBackUpEntry_quiet_iff {runtimes : Keyed Runtime.entryId} {entryId : String}
    {choice : Option Bool} {world : BackupWorld} (store : BackupStore)
    (running : runtimes.get? entryId = some runtime)
    (configured : backupClientFor (entryBackupSettings runtime) = true) :
    (asyncBackUpEntry sha256 runtimes store entryId false choice world).error = none ↔
      LegibleTo sha256 runtime world := by
  rw [← raisesOnly_asyncFetchBackup runtime
    ((choice.or (entryBackupSettings runtime).includeCredentials).getD false) world]
  unfold asyncBackUpEntry
  rw [running]
  dsimp only
  rw [if_pos configured]
  cases asyncFetchBackup sha256 (entryBackupSettings runtime) runtime.transport
      ((choice.or (entryBackupSettings runtime).includeCredentials).getD false) world with
  | ok backup => exact iff_of_true rfl (raisesOnly_ok backup)
  | error raised =>
      rw [raisesOnly_error]
      cases raised with
      | direct error message => exact iff_of_true rfl rfl
      | validation error => exact iff_of_false (Option.some_ne_none _) Bool.false_ne_true
      | other => exact iff_of_false (Option.some_ne_none _) Bool.false_ne_true

/-! ## A run over all entries -/

variable {runtimes : Keyed Runtime.entryId} {store : BackupStore}
variable {world : String → BackupWorld} {entryId : String}

/-- A run visits every entry and stores every blob that a node returned. -/
structure RunsThrough (sha256 : Sha256) (runtimes : Keyed Runtime.entryId) (store : BackupStore)
    (world : String → BackupWorld) : Prop where
  visits : (scheduled sha256 runtimes store world).visited = targetEntryIds runtimes none
  stores : ∀ entryId ∈ targetEntryIds runtimes none, ∀ runtime blob,
    runtimes.get? entryId = some runtime → Reached sha256 runtime (world entryId) →
      (world entryId).create.blob = some blob →
        ∃ record, (entryId, record) ∈ (scheduled sha256 runtimes store world).stored ∧
          record.blob = blob

/-- The replies for an entry are legible. -/
def Spares (sha256 : Sha256) (runtimes : Keyed Runtime.entryId) (world : String → BackupWorld)
    (entryId : String) : Prop :=
  ∀ runtime, runtimes.get? entryId = some runtime → LegibleTo sha256 runtime (world entryId)

/-- The summary that follows a blob of an entry is legible. -/
def KeepsBlob (sha256 : Sha256) (runtimes : Keyed Runtime.entryId)
    (world : String → BackupWorld) (entryId : String) : Prop :=
  ∀ runtime, runtimes.get? entryId = some runtime → Reached sha256 runtime (world entryId) →
    (world entryId).create.blob.isSome = true → (world entryId).summary.Legible

/-- The targets of a run have settings. -/
theorem configured_of_target (member : entryId ∈ targetEntryIds runtimes none) :
    ∃ runtime, runtimes.get? entryId = some runtime ∧
      backupClientFor (entryBackupSettings runtime) = true := by
  obtain ⟨runtime, kept, rfl⟩ := List.mem_map.mp member
  obtain ⟨stored, selected⟩ := List.mem_filter.mp kept
  refine ⟨runtime, Keyed.get?_of_mem stored, ?_⟩
  exact (Bool.and_eq_true_iff.mp selected).2

theorem stopsAt_scheduled_iff (member : entryId ∈ targetEntryIds runtimes none) :
    stopsAt sha256 runtimes false none world entryId = false ↔
      Spares sha256 runtimes world entryId := by
  obtain ⟨runtime, running, configured⟩ := configured_of_target member
  rw [stopsAt, Option.isSome_eq_false_iff, Option.isNone_iff_eq_none, attempt,
    asyncBackUpEntry_quiet_iff { } running configured]
  constructor
  · intro legible other same
    cases Option.some.inj (running.symm.trans same)
    exact legible
  · intro spares
    exact spares runtime running

/-- The copies of a run are those of the entries it gets to. -/
theorem mem_stored_scheduled {record : StoredBackup} :
    (entryId, record) ∈ (scheduled sha256 runtimes store world).stored ↔
      entryId ∈ visited (stopsAt sha256 runtimes false none world)
          (targetEntryIds runtimes none) ∧
        (attempt sha256 runtimes false none world entryId).stored = some record := by
  rw [scheduled, (backUpTargets_observed sha256 runtimes false none world store _).2.2,
    List.mem_flatMap]
  constructor
  · rintro ⟨other, reached, copied⟩
    obtain ⟨copy, kept, same⟩ := List.mem_map.mp copied
    cases same
    exact ⟨reached, Option.mem_toList.mp kept⟩
  · rintro ⟨reached, stored⟩
    exact ⟨entryId, reached, List.mem_map.mpr ⟨record, Option.mem_toList.mpr stored, rfl⟩⟩

/-- A run goes through exactly when no entry but the last has a reply that is
illegible, and no summary after a blob is. -/
theorem runsThrough_iff (sha256 : Sha256) (runtimes : Keyed Runtime.entryId) (store : BackupStore)
    (world : String → BackupWorld) :
    RunsThrough sha256 runtimes store world ↔
      ∀ before entryId after, targetEntryIds runtimes none = before ++ entryId :: after →
        (after ≠ [] → Spares sha256 runtimes world entryId) ∧
          KeepsBlob sha256 runtimes world entryId := by
  have visits : (scheduled sha256 runtimes store world).visited =
      visited (stopsAt sha256 runtimes false none world) (targetEntryIds runtimes none) :=
    (backUpTargets_observed sha256 runtimes false none world store _).1
  have among {before after : List String} {entryId : String}
      (split : targetEntryIds runtimes none = before ++ entryId :: after) :
      entryId ∈ targetEntryIds runtimes none := by
    rw [split]
    simp
  constructor
  · intro through before entryId after split
    have member := among split
    refine ⟨?_, ?_⟩
    · intro more
      have passed := visited_eq_self_iff.mp (visits.symm.trans through.visits) before entryId after
        split more
      exact (stopsAt_scheduled_iff member).mp passed
    · intro runtime running reached returned
      obtain ⟨blob, returned⟩ := Option.isSome_iff_exists.mp returned
      obtain ⟨record, stored, same⟩ := through.stores entryId member runtime blob running reached
        returned
      obtain ⟨other, again, -, fetched⟩ := fetched_of_attempt (mem_stored_scheduled.mp stored).2
      cases Option.some.inj (running.symm.trans again)
      exact (asyncFetchBackup_blob_iff reached returned).mp ⟨record, fetched, same⟩
  · intro spared
    have all : visited (stopsAt sha256 runtimes false none world) (targetEntryIds runtimes none) =
        targetEntryIds runtimes none :=
      visited_eq_self_iff.mpr fun before entryId after split more =>
        (stopsAt_scheduled_iff (among split)).mpr ((spared before entryId after split).1 more)
    refine ⟨visits.trans all, ?_⟩
    intro entryId member runtime blob running reached returned
    obtain ⟨before, after, split⟩ := List.append_of_mem member
    have legible := (spared before entryId after split).2 runtime running reached (by
      rw [returned]
      rfl)
    obtain ⟨other, again, configured⟩ := configured_of_target member
    cases Option.some.inj (running.symm.trans again)
    obtain ⟨record, fetched, same⟩ := (asyncFetchBackup_blob_iff reached returned).mpr legible
    refine ⟨record, mem_stored_scheduled.mpr ⟨all.symm ▸ member, ?_⟩, same⟩
    rw [attempt, asyncBackUpEntry_of_fetched { } false running configured fetched]

/-! ### An empty summary -/

/-- The node of the home hands its blob over and answers the request for the summary
with an empty body; the node of the barn would answer as it should. -/
def emptySummary (entryId : String) : BackupWorld :=
  if entryId = "home" then { gateDelivers "home" with summary := .response 200 (some "") }
  else gateDelivers entryId

/-- The blob is lost, and the barn is not backed up. -/
theorem empty_summary_ends_run :
    (emptySummary "home").create.blob = some "00" ∧
      (scheduled sampleSha256 bothRuntimes { } emptySummary).visited = ["home"] ∧
      (scheduled sampleSha256 bothRuntimes { } emptySummary).stored = [] ∧
      ¬ RunsThrough sampleSha256 bothRuntimes { } emptySummary := by
  have targets : targetEntryIds bothRuntimes none = ["home", "barn"] := rfl
  have running : bothRuntimes.get? "home" = some (mqttRuntime "home" "HOME001") := rfl
  obtain ⟨probe, connected, -, -, -⟩ :=
    @connect_mqttRuntime "home" "HOME001" "HOME001" "GATE-001" (by decide) (by decide)
  have reached : Reached sampleSha256 (mqttRuntime "home" "HOME001") (emptySummary "home") :=
    ⟨_, _, bind_eq_ok.mpr ⟨probe, connected, rfl⟩⟩
  have answered : (emptySummary "home").create.reading = .document (.obj [("backup", .str "00")]) :=
    request_eq_ok_iff.mp (request_answer probe.client "/backup/create" [("backup", .str "00")])
  have returned : (emptySummary "home").create.blob = some "00" := by
    rw [Reply.blob, answered]
    rfl
  have stopped : stopsAt sampleSha256 bothRuntimes false none emptySummary "home" = true := by
    by_contra passed
    have spares := (stopsAt_scheduled_iff (by rw [targets]; simp)).mp (Bool.not_eq_true _ ▸ passed)
    obtain ⟨members, object⟩ := (spares _ running).summary reached (by rw [returned]; rfl)
    cases object
  have only : visited (stopsAt sampleSha256 bothRuntimes false none emptySummary)
      (targetEntryIds bothRuntimes none) = ["home"] := by
    rw [targets, visited_cons_of_stops stopped]
  obtain ⟨visits, -, stores⟩ := backUpTargets_observed sampleSha256 bothRuntimes false none
    emptySummary { } (targetEntryIds bothRuntimes none)
  have lost : (attempt sampleSha256 bothRuntimes false none emptySummary "home").stored = none := by
    rcases asyncBackUpEntry_cases sampleSha256 bothRuntimes { } "home" false none
        (emptySummary "home") with ⟨runtime, record, known, configured, fetched⟩ | ⟨error, nothing⟩
    · rw [stopsAt, attempt, asyncBackUpEntry_of_fetched { } false known configured fetched]
        at stopped
      cases stopped
    · rw [attempt, nothing]
  have visitedOnly : (scheduled sampleSha256 bothRuntimes { } emptySummary).visited = ["home"] :=
    visits.trans only
  refine ⟨returned, visitedOnly, ?_, ?_⟩
  · rw [scheduled, stores, only, List.flatMap_singleton, lost]
    rfl
  · intro through
    have all := visitedOnly.symm.trans through.visits
    rw [targets] at all
    exact absurd all (by decide)

end HomeKeyHousehold
