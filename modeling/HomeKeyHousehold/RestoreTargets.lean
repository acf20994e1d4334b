import HomeKeyHousehold.BackupRuns
import HomeKeyHousehold.Restore

/-!
# Which nodes a restore reaches

The service for restoring resolves its targets as the one for backing up does:
every entry with API settings, or the one that is named.  It hands the backup to
one target after the other and stops at the first that fails.
-/

namespace HomeKeyHousehold

open Library

/-! ## The service -/

/-- `_target_entry_ids`. -/
def targetEntryIds (runtimes : Keyed Runtime.entryId) (configEntryId : Option String) :
    List String :=
  (runtimes.entries.filter fun runtime =>
      ((unlessBlank configEntryId).all fun requested => runtime.entryId = requested) &&
        backupClientFor (entryBackupSettings runtime)).map Runtime.entryId

/-- The data of a call of `restore_backup`. -/
structure RestoreCall where
  configEntryId : Option String
  recoverySecret : Option String
  backup : Option String

/-- What the world contributes to one call: for every entry its restore, its
setup afterwards and whether reloading it raises. -/
structure RestoreCallWorld where
  restore : String → RestoreWorld
  setUp : String → SetupWorld
  reloadRaises : String → Bool

/-- What one call leaves behind; a request is recorded with the entry it was
sent for. -/
structure Served where
  runtimes : Keyed Runtime.entryId
  sent : List (String × Request)
  error : Option ServiceError

/-- The loop of `_restore_now`: an entry is reloaded once it is restored. -/
def restoreTargets (sha256 : Sha256) (entries : Keyed ConfiguredEntry.entryId)
    (store : BackupStore) (call : RestoreCall) (world : RestoreCallWorld)
    (runtimes : Keyed Runtime.entryId) : List String → Served
  | [] => ⟨runtimes, [], none⟩
  | entryId :: rest =>
      let restored := asyncRestoreEntry sha256 runtimes store entryId
        (call.recoverySecret.getD "") call.backup (world.restore entryId)
      let sent := restored.sent.map fun request => (entryId, request)
      match restored.error with
      | some error => ⟨runtimes, sent, some error⟩
      | none =>
          match entries.get? entryId with
          | some configured =>
              let reloaded := reload sha256 configured runtimes (world.setUp entryId)
              if world.reloadRaises entryId then ⟨reloaded, sent, some (.raised .other)⟩
              else
                let later := restoreTargets sha256 entries store call world reloaded rest
                { later with sent := sent ++ later.sent }
          | none =>
              let later := restoreTargets sha256 entries store call world runtimes rest
              { later with sent := sent ++ later.sent }

/-- `_restore_now`. -/
def restoreNow (sha256 : Sha256) (entries : Keyed ConfiguredEntry.entryId)
    (runtimes : Keyed Runtime.entryId) (store : BackupStore) (call : RestoreCall)
    (world : RestoreCallWorld) : Served :=
  match targetEntryIds runtimes call.configEntryId with
  | [] =>
      ⟨runtimes, [], some (.validation
        ("No HomeKey entry can be restored: a node needs its address, its certificate " ++
          "fingerprint and its Web UI credentials. Set them under Configure on the entry."))⟩
  | entryId :: rest => restoreTargets sha256 entries store call world runtimes (entryId :: rest)

/-! ## One restore -/

variable {sha256 : Sha256} {entries : Keyed ConfiguredEntry.entryId}
variable {runtimes : Keyed Runtime.entryId} {store : BackupStore}
variable {entryId recoverySecret : String} {backupHex : Option String} {world : RestoreWorld}

/-- A restore of an entry gets to its node: there is a secret and a blob, the
node is connected to and the request leaves. -/
def Reaches (sha256 : Sha256) (runtimes : Keyed Runtime.entryId) (store : BackupStore)
    (entryId recoverySecret : String) (backupHex : Option String) (world : RestoreWorld) : Prop :=
  ∃ runtime blob, Restorable runtimes store entryId recoverySecret backupHex runtime blob ∧
    (restoreClient sha256 (entryBackupSettings runtime) runtime.transport world.connect).isOk =
      true ∧ world.restore.leaves = true

/-- A request that does not leave has no answer. -/
theorem request_of_stays (client : DirectClient) (path : String) {reply : Reply}
    (stays : reply.leaves = false) : ∃ raised, client.request path reply = .error raised := by
  cases reply with
  | response status body => cases stays
  | certificateMismatch => exact ⟨_, rfl⟩
  | tlsFailed reason => exact ⟨_, rfl⟩
  | unreachable reason left => exact ⟨_, rfl⟩
  | timedOut left => exact ⟨_, rfl⟩

theorem Reaches.sent (reaches : Reaches sha256 runtimes store entryId recoverySecret backupHex world) :
    (asyncRestoreEntry sha256 runtimes store entryId recoverySecret backupHex world).sent.length =
      1 := by
  obtain ⟨runtime, blob, restorable, connected, leaves⟩ := reaches
  rw [restorable.sent_eq, asyncRestoreOnNode_sent, connected, leaves]
  rfl

/-- A restore that does not get to its node raises. -/
theorem asyncRestoreOnNode_of_unsent (settings : BackupSettings) (transport : Transport)
    (recoverySecret blob : String) (world : RestoreWorld)
    (unsent : ((restoreClient sha256 settings transport world.connect).isOk && world.restore.leaves) =
      false) :
    ∃ raised, (asyncRestoreOnNode sha256 settings transport recoverySecret blob world).2 =
      .error raised := by
  rw [asyncRestoreOnNode]
  cases connected : restoreClient sha256 settings transport world.connect with
  | error raised => exact ⟨raised, rfl⟩
  | ok client =>
      rw [connected] at unsent
      have stays : world.restore.leaves = false := by simpa [Except.isOk, Except.toBool] using unsent
      obtain ⟨raised, failed⟩ := request_of_stays client "/backup/restore" stays
      refine ⟨raised, ?_⟩
      have posted : (client.asyncRestoreBackup recoverySecret blob world.restore).result =
          .error raised := failed
      dsimp only
      rw [posted]
      rfl

theorem Restorable.error_of_unsent {runtime : Runtime} {blob : String}
    (restorable : Restorable runtimes store entryId recoverySecret backupHex runtime blob)
    (unsent : ((restoreClient sha256 (entryBackupSettings runtime) runtime.transport
      world.connect).isOk && world.restore.leaves) = false) :
    (asyncRestoreEntry sha256 runtimes store entryId recoverySecret backupHex world).error ≠
      none := by
  obtain ⟨raised, failed⟩ := asyncRestoreOnNode_of_unsent (entryBackupSettings runtime)
    runtime.transport recoverySecret blob world unsent
  rw [asyncRestoreEntry, if_neg restorable.authorised, restorable.running]
  dsimp only
  rw [if_pos restorable.configured, restorable.chosen]
  dsimp only
  rw [failed]
  cases raised with
  | validation error => exact Option.some_ne_none _
  | direct error message => exact Option.some_ne_none _
  | other => exact Option.some_ne_none _

/-- A restore sends one request if it gets to its node; else it sends none and
raises. -/
theorem asyncRestoreEntry_sent (sha256 : Sha256) (runtimes : Keyed Runtime.entryId)
    (store : BackupStore) (entryId recoverySecret : String) (backupHex : Option String)
    (world : RestoreWorld) :
    Reaches sha256 runtimes store entryId recoverySecret backupHex world ∨
      ((asyncRestoreEntry sha256 runtimes store entryId recoverySecret backupHex world).sent = [] ∧
        (asyncRestoreEntry sha256 runtimes store entryId recoverySecret backupHex world).error ≠
          none) := by
  rcases asyncRestoreEntry_cases sha256 runtimes store entryId recoverySecret backupHex world with
    ⟨runtime, blob, restorable⟩ | ⟨error, refused⟩
  · cases sends : (restoreClient sha256 (entryBackupSettings runtime) runtime.transport
        world.connect).isOk && world.restore.leaves with
    | true =>
        obtain ⟨connected, leaves⟩ := Bool.and_eq_true_iff.mp sends
        exact Or.inl ⟨runtime, blob, restorable, connected, leaves⟩
    | false =>
        refine Or.inr ⟨?_, restorable.error_of_unsent sends⟩
        rw [restorable.sent_eq, asyncRestoreOnNode_sent, sends]
        rfl
  · rw [refused]
    exact Or.inr ⟨rfl, Option.some_ne_none error⟩

/-! ## One call -/

variable {call : RestoreCall} {calls : RestoreCallWorld}

/-- A named entry is the only target. -/
theorem targetEntryIds_named {requested : String}
    (named : unlessBlank call.configEntryId = some requested) :
    (targetEntryIds runtimes call.configEntryId).length ≤ 1 := by
  have distinct : (targetEntryIds runtimes call.configEntryId).Nodup :=
    runtimes.nodup.sublist (List.filter_sublist.map Runtime.entryId)
  have only : ∀ target ∈ targetEntryIds runtimes call.configEntryId, target = requested := by
    intro target member
    obtain ⟨runtime, kept, rfl⟩ := List.mem_map.mp member
    obtain ⟨matched, -⟩ := Bool.and_eq_true_iff.mp (List.mem_filter.mp kept).2
    rw [named] at matched
    exact of_decide_eq_true matched
  cases targets : targetEntryIds runtimes call.configEntryId with
  | nil => exact Nat.zero_le 1
  | cons first rest =>
      cases rest with
      | nil => exact Nat.le_refl 1
      | cons second rest =>
          rw [targets] at distinct only
          have same : first = second :=
            (only first List.mem_cons_self).trans (only second (by simp)).symm
          exact absurd (same ▸ List.mem_cons_self) (List.nodup_cons.mp distinct).1

/-- What the first target sends is sent; it is all there is if the restore raises
or there is no other target. -/
theorem restoreTargets_cons (sha256 : Sha256) (entries : Keyed ConfiguredEntry.entryId)
    (store : BackupStore) (call : RestoreCall) (calls : RestoreCallWorld)
    (runtimes : Keyed Runtime.entryId) (entryId : String) (rest : List String) :
    ∃ later, (restoreTargets sha256 entries store call calls runtimes (entryId :: rest)).sent =
        (asyncRestoreEntry sha256 runtimes store entryId (call.recoverySecret.getD "") call.backup
          (calls.restore entryId)).sent.map (fun request => (entryId, request)) ++ later ∧
      ((asyncRestoreEntry sha256 runtimes store entryId (call.recoverySecret.getD "") call.backup
          (calls.restore entryId)).error ≠ none → later = []) ∧ (rest = [] → later = []) := by
  rw [restoreTargets]
  dsimp only
  cases (asyncRestoreEntry sha256 runtimes store entryId (call.recoverySecret.getD "") call.backup
    (calls.restore entryId)).error with
  | some error => exact ⟨[], (List.append_nil _).symm, fun _ => rfl, fun _ => rfl⟩
  | none =>
      dsimp only
      split
      · split
        · exact ⟨[], (List.append_nil _).symm, fun _ => rfl, fun _ => rfl⟩
        · refine ⟨_, rfl, fun raised => absurd rfl raised, ?_⟩
          rintro rfl
          rfl
      · refine ⟨_, rfl, fun raised => absurd rfl raised, ?_⟩
        rintro rfl
        rfl

/-- At most one node is restored, and none by a call that leaves open which. -/
structure RestoresOne (sha256 : Sha256) (entries : Keyed ConfiguredEntry.entryId)
    (runtimes : Keyed Runtime.entryId) (store : BackupStore) (call : RestoreCall)
    (calls : RestoreCallWorld) : Prop where
  single : (restoreNow sha256 entries runtimes store call calls).sent.length ≤ 1
  refused : unlessBlank call.configEntryId = none → 1 < (targetEntryIds runtimes none).length →
    (restoreNow sha256 entries runtimes store call calls).sent = []

/-- The restore of the first target gets to its node. -/
def ReachesFirst (sha256 : Sha256) (runtimes : Keyed Runtime.entryId) (store : BackupStore)
    (call : RestoreCall) (calls : RestoreCallWorld) : Prop :=
  ∃ entryId ∈ (targetEntryIds runtimes none).head?, Reaches sha256 runtimes store entryId
    (call.recoverySecret.getD "") call.backup (calls.restore entryId)

theorem targetEntryIds_unnamed (unnamed : unlessBlank call.configEntryId = none) :
    targetEntryIds runtimes call.configEntryId = targetEntryIds runtimes none := by
  rw [targetEntryIds, unnamed]
  rfl

/-- With one target at most one request is sent. -/
theorem restoreNow_single (entries : Keyed ConfiguredEntry.entryId) (calls : RestoreCallWorld)
    (one : (targetEntryIds runtimes call.configEntryId).length ≤ 1) :
    (restoreNow sha256 entries runtimes store call calls).sent.length ≤ 1 := by
  rw [restoreNow]
  cases targets : targetEntryIds runtimes call.configEntryId with
  | nil => exact Nat.zero_le 1
  | cons first rest =>
      rw [targets] at one
      have none : rest = [] :=
        List.eq_nil_of_length_eq_zero (Nat.le_zero.mp (Nat.le_of_succ_le_succ one))
      obtain ⟨later, sent, -, last⟩ :=
        restoreTargets_cons sha256 entries store call calls runtimes first rest
      dsimp only
      rw [sent, last none, List.append_nil, List.length_map]
      rcases asyncRestoreEntry_sent sha256 runtimes store first (call.recoverySecret.getD "")
        call.backup (calls.restore first) with reaches | ⟨unsent, -⟩
      · exact Nat.le_of_eq reaches.sent
      · rw [unsent]
        exact Nat.zero_le 1

/-- A call that names no entry sends something exactly when its first target is
restored. -/
theorem restoreNow_unnamed (entries : Keyed ConfiguredEntry.entryId) (calls : RestoreCallWorld)
    (unnamed : unlessBlank call.configEntryId = none) :
    (restoreNow sha256 entries runtimes store call calls).sent = [] ↔
      ¬ ReachesFirst sha256 runtimes store call calls := by
  rw [restoreNow, targetEntryIds_unnamed unnamed, ReachesFirst]
  cases targetEntryIds runtimes none with
  | nil => simp
  | cons first rest =>
      obtain ⟨later, sent, stopped, -⟩ :=
        restoreTargets_cons sha256 entries store call calls runtimes first rest
      have only (reached : ∃ entryId ∈ (first :: rest).head?, Reaches sha256 runtimes store entryId
          (call.recoverySecret.getD "") call.backup (calls.restore entryId)) :
          Reaches sha256 runtimes store first (call.recoverySecret.getD "") call.backup
            (calls.restore first) := by
        obtain ⟨entryId, head, reaches⟩ := reached
        cases head
        exact reaches
      dsimp only
      rw [sent]
      constructor
      · intro silent reached
        have counted := (only reached).sent
        rw [List.map_eq_nil_iff.mp (List.append_eq_nil_iff.mp silent).1] at counted
        cases counted
      · intro unreached
        rcases asyncRestoreEntry_sent sha256 runtimes store first (call.recoverySecret.getD "")
          call.backup (calls.restore first) with reaches | ⟨unsent, raised⟩
        · exact absurd ⟨first, rfl, reaches⟩ unreached
        · rw [unsent, stopped raised]
          rfl

/-- A call restores at most one node and guesses none exactly when it names its
entry, has one to choose from, or cannot restore the first. -/
theorem restoresOne_iff (sha256 : Sha256) (entries : Keyed ConfiguredEntry.entryId)
    (runtimes : Keyed Runtime.entryId) (store : BackupStore) (call : RestoreCall)
    (calls : RestoreCallWorld) :
    RestoresOne sha256 entries runtimes store call calls ↔
      (unlessBlank call.configEntryId).isSome = true ∨ (targetEntryIds runtimes none).length ≤ 1 ∨
        ¬ ReachesFirst sha256 runtimes store call calls := by
  constructor
  · intro restores
    cases unnamed : unlessBlank call.configEntryId with
    | some requested => exact Or.inl rfl
    | none =>
        rcases Nat.lt_or_ge 1 (targetEntryIds runtimes none).length with several | one
        · right
          right
          exact (restoreNow_unnamed entries calls unnamed).mp (restores.refused unnamed several)
        · exact Or.inr (Or.inl one)
  · intro clear
    cases unnamed : unlessBlank call.configEntryId with
    | some requested =>
        refine ⟨restoreNow_single entries calls (targetEntryIds_named unnamed), ?_⟩
        intro absent
        rw [unnamed] at absent
        cases absent
    | none =>
        rw [unnamed] at clear
        rcases clear with named | one | unreached
        · cases named
        · refine ⟨restoreNow_single entries calls ?_, ?_⟩
          · rw [targetEntryIds_unnamed unnamed]
            exact one
          · intro _ several
            omega
        · have silent := (restoreNow_unnamed entries calls unnamed).mpr unreached
          refine ⟨?_, fun _ _ => silent⟩
          rw [silent]
          exact Nat.zero_le 1

/-! ### Two doors -/

/-- A node that is connected to answers a restore. -/
theorem restored_mqtt (store : BackupStore) {runtime : Runtime} {connect : ConnectWorld}
    {probe : DirectProbe} (running : runtimes.get? entryId = some runtime)
    (idle : runtime.transport.runningClient = none)
    (configured : backupClientFor (entryBackupSettings runtime) = true)
    (connected : (entryBackupSettings runtime).connect sampleSha256 connect = .ok probe) :
    asyncRestoreEntry sampleSha256 runtimes store entryId "secret" (some "00")
        (restoreOf connect) =
      ⟨[restoreRequest "secret" "00"], none⟩ := by
  have client : restoreClient sampleSha256 (entryBackupSettings runtime) runtime.transport connect =
      .ok probe.client := by
    rw [restoreClient, idle]
    dsimp only
    rw [connected]
    rfl
  have chosen : blobFor store (entryBackupSettings runtime).householdId (some "00") = some "00" :=
    rfl
  have answered := request_answer probe.client "/backup/restore" [("success", .bool true)]
  rw [asyncRestoreEntry, if_neg (by decide), running]
  dsimp only
  rw [if_pos configured, chosen]
  dsimp only
  rw [asyncRestoreOnNode, restoreOf, client]
  dsimp only [DirectClient.asyncRestoreBackup, DirectClient.post, restoreRequest]
  rw [answered]
  rfl

/-- The second entry has an address of its own. -/
def barnOptions : EntryOptions := { homeOptions with host := "192.0.2.2" }

def barnRuntime : Runtime := { mqttRuntime "barn" "HOME002" with options := some barnOptions }

def barnConfigured : ConfiguredEntry :=
  { mqttConfigured "barn" "HOME002" with options := some barnOptions }

def bothEntries : Keyed ConfiguredEntry.entryId :=
  (Keyed.empty.put (mqttConfigured "home" "HOME001")).put barnConfigured

def bothRuntimes : Keyed Runtime.entryId :=
  (Keyed.empty.put (mqttRuntime "home" "HOME001")).put barnRuntime

/-- A call that names no entry and hands a backup over. -/
def restoreAny : RestoreCall :=
  { configEntryId := none, recoverySecret := some "secret", backup := some "00" }

def nodesAnswer : RestoreCallWorld :=
  { restore := fun entryId =>
      restoreOf (if entryId = "home" then sampleConnect "HOME001" "GATE-001"
        else sampleConnect "HOME002" "BARN-002")
    setUp := fun _ => silentAfterwards
    reloadRaises := fun _ => false }

/-- After a target that is restored and reloaded comes the next one. -/
theorem restoreTargets_of_restored {request : Request} {rest : List String}
    (restored : asyncRestoreEntry sha256 runtimes store entryId (call.recoverySecret.getD "")
      call.backup (calls.restore entryId) = ⟨[request], none⟩)
    {configured : ConfiguredEntry} (known : entries.get? entryId = some configured)
    (reloads : calls.reloadRaises entryId = false) :
    (restoreTargets sha256 entries store call calls runtimes (entryId :: rest)).sent =
      (entryId, request) :: (restoreTargets sha256 entries store call calls
        (reload sha256 configured runtimes (calls.setUp entryId)) rest).sent := by
  rw [restoreTargets, restored]
  dsimp only
  rw [known]
  dsimp only
  rw [reloads]
  rfl

/-- The nodes of both entries are restored. -/
theorem both_doors_restored :
    (restoreNow sampleSha256 bothEntries bothRuntimes { } restoreAny nodesAnswer).sent =
        [("home", restoreRequest "secret" "00"), ("barn", restoreRequest "secret" "00")] ∧
      ¬ RestoresOne sampleSha256 bothEntries bothRuntimes { } restoreAny nodesAnswer := by
  have targets : targetEntryIds bothRuntimes none = ["home", "barn"] := rfl
  have home : bothRuntimes.get? "home" = some (mqttRuntime "home" "HOME001") := rfl
  have barn : (reload sampleSha256 (mqttConfigured "home" "HOME001") bothRuntimes
      (nodesAnswer.setUp "home")).get? "barn" = some barnRuntime := by
    rw [reload, setUpRuntime_mqtt sampleSha256 "home" "HOME001" rfl]
    dsimp only
    rw [Keyed.get?_put_of_ne _ _ (by decide), Keyed.get?_erase_of_ne _ (by decide)]
    rfl
  have sent : (restoreNow sampleSha256 bothEntries bothRuntimes { } restoreAny nodesAnswer).sent =
      [("home", restoreRequest "secret" "00"), ("barn", restoreRequest "secret" "00")] := by
    have unnamed : restoreAny.configEntryId = none := rfl
    rw [restoreNow, unnamed, targets]
    dsimp only
    have homeKnown : bothEntries.get? "home" = some (mqttConfigured "home" "HOME001") := rfl
    have barnKnown : bothEntries.get? "barn" = some barnConfigured := rfl
    obtain ⟨gate, connected, -⟩ := @asyncConnectNode_sample "HOME001" "GATE-001" "192.0.2.1"
      defaultHttpsPort (by decide) (by decide)
    obtain ⟨other, reached, -⟩ := @asyncConnectNode_sample "HOME002" "BARN-002" "192.0.2.2"
      defaultHttpsPort (by decide) (by decide)
    rw [restoreTargets_of_restored (restored_mqtt _ home rfl rfl connected) homeKnown rfl,
      restoreTargets_of_restored (restored_mqtt _ barn rfl rfl reached) barnKnown rfl]
    rfl
  refine ⟨sent, ?_⟩
  intro restores
  have silent := restores.refused rfl (by rw [targets]; decide)
  rw [sent] at silent
  cases silent

end HomeKeyHousehold
