import HomeKeyHousehold.Library.Loop
import HomeKeyHousehold.Replies
import HomeKeyHousehold.RestoreTargets

/-!
# The service for backing up

A call backs up one target after the other and stops at the first that fails.  It
reads whether to include credentials under the name of the option; its
documentation calls the field `include_credentials`.
-/

namespace HomeKeyHousehold

open Library

/-! ## One backup of the loop -/

/-- What one target contributes to a loop: the copy and the exception do not
depend on what is stored already. -/
def attempt (sha256 : Sha256) (runtimes : Keyed Runtime.entryId) (explicit : Bool)
    (includeCredentials : Option Bool) (world : String → BackupWorld) (entryId : String) :
    BackedUp :=
  asyncBackUpEntry sha256 runtimes { } entryId explicit includeCredentials (world entryId)

/-- The request that asks for a backup; it has a body only when credentials are
asked for. -/
def createRequest (includeCredentials : Bool) : Request :=
  ⟨"/backup/create",
    if includeCredentials then .obj [("include_credentials", .bool true)] else .null⟩

/-- The requests for a copy that leave while one entry is backed up. -/
def requestsFor (sha256 : Sha256) (runtimes : Keyed Runtime.entryId)
    (includeCredentials : Option Bool) (world : String → BackupWorld) (entryId : String) :
    List Request :=
  match runtimes.get? entryId with
  | none => []
  | some runtime =>
      if backupClientFor (entryBackupSettings runtime) then
        match backupClient sha256 (entryBackupSettings runtime) runtime.transport
          (world entryId).connect with
        | .error _ => []
        | .ok (client, _) =>
            (client.asyncCreateBackup (runtime.included includeCredentials)
              (world entryId).create).1
      else []

/-- What a loop over targets leaves behind. -/
structure BackedUpAll where
  store : BackupStore
  visited : List String
  sent : List (String × Request)
  stored : List (String × StoredBackup)
  error : Option ServiceError

/-- The loop of `_back_up_now` and of `_scheduled`. -/
def backUpTargets (sha256 : Sha256) (runtimes : Keyed Runtime.entryId) (explicit : Bool)
    (includeCredentials : Option Bool) (world : String → BackupWorld) (store : BackupStore) :
    List String → BackedUpAll
  | [] => ⟨store, [], [], [], none⟩
  | entryId :: rest =>
      let backedUp := asyncBackUpEntry sha256 runtimes store entryId explicit includeCredentials
        (world entryId)
      let sent := (requestsFor sha256 runtimes includeCredentials world entryId).map (entryId, ·)
      let stored := backedUp.stored.toList.map (entryId, ·)
      match backedUp.error with
      | some error => ⟨backedUp.store, [entryId], sent, stored, some error⟩
      | none =>
          let later := backUpTargets sha256 runtimes explicit includeCredentials world
            backedUp.store rest
          { later with
            visited := entryId :: later.visited
            sent := sent ++ later.sent
            stored := stored ++ later.stored }

/-- `_target_entry_ids` for the data of a call; an id that is no string is the id
of no entry. -/
def calledTargets (runtimes : Keyed Runtime.entryId) (data : Dict) : List String :=
  match Json.get data "config_entry_id" with
  | .str requested => targetEntryIds runtimes (some requested)
  | requested => if requested.truthy then [] else targetEntryIds runtimes none

/-- What a call asks for, under the name of the option. -/
def passedChoice (data : Dict) : Option Bool :=
  match Json.get data "backup_include_credentials" with
  | .null => none
  | value => some value.truthy

/-- `_back_up_now`. -/
def backUpNow (sha256 : Sha256) (runtimes : Keyed Runtime.entryId) (store : BackupStore)
    (data : Dict) (world : String → BackupWorld) : BackedUpAll :=
  match calledTargets runtimes data with
  | [] =>
      ⟨store, [], [], [], some (.validation
        ("No HomeKey entry can be backed up: a node needs its address, its certificate " ++
          "fingerprint and its Web UI credentials. Set them under Configure on the entry."))⟩
  | entryId :: rest =>
      backUpTargets sha256 runtimes true (passedChoice data) world store (entryId :: rest)

/-! ## What a loop does -/

variable {sha256 : Sha256} {runtimes : Keyed Runtime.entryId} {explicit : Bool}
variable {includeCredentials : Option Bool} {world : String → BackupWorld} {store : BackupStore}
variable {entryId : String} {targets : List String}

/-- A backup adds its copy to what is stored, whatever that is. -/
theorem asyncBackUpEntry_eq_attempt (store : BackupStore) (entryId : String) :
    asyncBackUpEntry sha256 runtimes store entryId explicit includeCredentials (world entryId) =
      ⟨((attempt sha256 runtimes explicit includeCredentials world entryId).stored.map
          store.asyncAdd).getD store,
        (attempt sha256 runtimes explicit includeCredentials world entryId).stored,
        (attempt sha256 runtimes explicit includeCredentials world entryId).error⟩ := by
  unfold attempt asyncBackUpEntry
  split
  · rfl
  · dsimp only
    split
    · split
      · rfl
      · rfl
      · rfl
    · rfl

/-- Whether a target ends the loop. -/
def stopsAt (sha256 : Sha256) (runtimes : Keyed Runtime.entryId) (explicit : Bool)
    (includeCredentials : Option Bool) (world : String → BackupWorld) (entryId : String) : Bool :=
  (attempt sha256 runtimes explicit includeCredentials world entryId).error.isSome

/-- The observations of a loop are those of the targets it gets to. -/
theorem backUpTargets_observed (sha256 : Sha256) (runtimes : Keyed Runtime.entryId)
    (explicit : Bool) (includeCredentials : Option Bool) (world : String → BackupWorld)
    (store : BackupStore) (targets : List String) :
    (backUpTargets sha256 runtimes explicit includeCredentials world store targets).visited =
        visited (stopsAt sha256 runtimes explicit includeCredentials world) targets ∧
      (backUpTargets sha256 runtimes explicit includeCredentials world store targets).sent =
        (visited (stopsAt sha256 runtimes explicit includeCredentials world) targets).flatMap
          (fun entryId =>
            (requestsFor sha256 runtimes includeCredentials world entryId).map (entryId, ·)) ∧
      (backUpTargets sha256 runtimes explicit includeCredentials world store targets).stored =
        (visited (stopsAt sha256 runtimes explicit includeCredentials world) targets).flatMap
          (fun entryId =>
            (attempt sha256 runtimes explicit includeCredentials world
              entryId).stored.toList.map (entryId, ·)) := by
  induction targets generalizing store with
  | nil => exact ⟨rfl, rfl, rfl⟩
  | cons entryId rest ih =>
      rw [backUpTargets, asyncBackUpEntry_eq_attempt]
      dsimp only
      cases error : (attempt sha256 runtimes explicit includeCredentials world entryId).error with
      | some error =>
          have stopped : stopsAt sha256 runtimes explicit includeCredentials world entryId = true := by
            rw [stopsAt, error]
            rfl
          rw [visited_cons_of_stops stopped]
          simp
      | none =>
          have passed : stopsAt sha256 runtimes explicit includeCredentials world entryId =
              false := by
            rw [stopsAt, error]
            rfl
          dsimp only
          obtain ⟨others, requests, copies⟩ := ih _
          rw [visited_cons_of_not_stops passed, others, requests, copies]
          simp

/-- What a loop stores, it has added one copy after the other. -/
theorem store_backUpTargets (sha256 : Sha256) (runtimes : Keyed Runtime.entryId)
    (explicit : Bool) (includeCredentials : Option Bool) (world : String → BackupWorld)
    (store : BackupStore) (targets : List String) :
    (backUpTargets sha256 runtimes explicit includeCredentials world store targets).store =
      ((backUpTargets sha256 runtimes explicit includeCredentials world store
        targets).stored.map Prod.snd).foldl BackupStore.asyncAdd store := by
  induction targets generalizing store with
  | nil => rfl
  | cons entryId rest ih =>
      rw [backUpTargets, asyncBackUpEntry_eq_attempt]
      dsimp only
      cases (attempt sha256 runtimes explicit includeCredentials world entryId).stored with
      | none =>
          split
          · rfl
          · exact ih store
      | some record =>
          split
          · rfl
          · exact ih (store.asyncAdd record)

/-! ## Who is asked, and how -/

/-- A target hands a copy over. -/
def Delivers (sha256 : Sha256) (runtimes : Keyed Runtime.entryId)
    (includeCredentials : Option Bool) (world : String → BackupWorld) (entryId : String) : Prop :=
  ∃ runtime copy, runtimes.get? entryId = some runtime ∧
    runtime.Produces sha256 includeCredentials (world entryId) copy

/-- The node of a target is connected to, and the request for a copy leaves. -/
structure Asked (sha256 : Sha256) (runtimes : Keyed Runtime.entryId)
    (world : String → BackupWorld) (entryId : String) (runtime : Runtime) : Prop where
  running : runtimes.get? entryId = some runtime
  configured : backupClientFor (entryBackupSettings runtime) = true
  reached : ∃ client nodeId, backupClient sha256 (entryBackupSettings runtime) runtime.transport
    (world entryId).connect = .ok (client, nodeId)
  leaves : (world entryId).create.leaves = true

/-- A backup that somebody asked for ends the loop unless it hands a copy over. -/
theorem stopsAt_explicit_iff :
    stopsAt sha256 runtimes true includeCredentials world entryId = false ↔
      Delivers sha256 runtimes includeCredentials world entryId := by
  rw [stopsAt, Option.isSome_eq_false_iff, Option.isNone_iff_eq_none, attempt]
  constructor
  · intro returned
    obtain ⟨runtime, record, running, configured, fetched⟩ := asyncBackUpEntry_explicit returned
    obtain ⟨source, told⟩ := Runtime.sourceOf_of_fetched fetched
    exact ⟨runtime, ⟨record, source⟩, running, configured, fetched, told⟩
  · rintro ⟨runtime, copy, running, produces⟩
    rw [asyncBackUpEntry_of_fetched { } true running produces.configured produces.fetched]

theorem asyncCreateBackup_sent (client : DirectClient) (included : Bool) (reply : Reply) :
    (client.asyncCreateBackup included reply).1 =
      if reply.leaves then [createRequest included] else [] := rfl

/-- A target is asked as the call or else its entry says. -/
theorem mem_requestsFor_iff {request : Request} :
    request ∈ requestsFor sha256 runtimes includeCredentials world entryId ↔
      ∃ runtime, Asked sha256 runtimes world entryId runtime ∧
        request = createRequest (runtime.included includeCredentials) := by
  unfold requestsFor
  cases running : runtimes.get? entryId with
  | none =>
      refine iff_of_false (by simp) ?_
      rintro ⟨runtime, asked, -⟩
      cases running.symm.trans asked.running
  | some runtime =>
      have only {other : Runtime} (asked : Asked sha256 runtimes world entryId other) :
          other = runtime := Option.some.inj (asked.running.symm.trans running)
      dsimp only
      split
      · next configured =>
          cases reached : backupClient sha256 (entryBackupSettings runtime) runtime.transport
              (world entryId).connect with
          | error raised =>
              refine iff_of_false (by simp) ?_
              rintro ⟨other, asked, -⟩
              obtain ⟨client, nodeId, connected⟩ := asked.reached
              rw [only asked, reached] at connected
              cases connected
          | ok found =>
              obtain ⟨client, nodeId⟩ := found
              dsimp only
              rw [asyncCreateBackup_sent]
              constructor
              · intro member
                split at member
                · next leaves =>
                    exact ⟨runtime, ⟨running, configured, ⟨client, nodeId, reached⟩, leaves⟩,
                      List.mem_singleton.mp member⟩
                · cases member
              · rintro ⟨other, asked, rfl⟩
                rw [if_pos asked.leaves, only asked]
                exact List.mem_singleton_self _
      · next unconfigured =>
          refine iff_of_false (by simp) ?_
          rintro ⟨other, asked, -⟩
          exact unconfigured (only asked ▸ asked.configured)

theorem createRequest_injective {first second : Bool}
    (same : createRequest first = createRequest second) : first = second := by
  cases first with
  | false =>
      cases second with
      | false => rfl
      | true => cases congrArg Request.body same
  | true =>
      cases second with
      | false => cases congrArg Request.body same
      | true => rfl

/-! ## What was sealed in -/

/-- What a node says it sealed in. -/
def sealedIn (reply : Reply) : Bool :=
  match reply.reading with
  | .document (.obj answer) =>
      match Json.get answer "includes_credentials" with
      | .bool value => value
      | _ => false
  | _ => false

theorem asyncCreateBackup_sealedIn {client : DirectClient} {included : Bool} {reply : Reply}
    {copy : String × Bool} (created : (client.asyncCreateBackup included reply).2 = .ok copy) :
    copy.2 = sealedIn reply := by
  obtain ⟨answer, posted, created⟩ := bind_eq_ok.mp created
  obtain ⟨members, object, made⟩ := bind_eq_ok.mp created
  have read : reply.reading = .document answer := request_eq_ok_iff.mp posted
  cases answer with
  | obj told =>
      cases object
      rw [sealedIn, read]
      dsimp only at made ⊢
      split at made
      · split at made
        · cases made
        · cases made
          rfl
      · cases made
  | null | bool _ | int _ | float _ | str _ | arr _ => cases object

/-- A record says what the node says about the copy. -/
theorem asyncFetchBackup_sealedIn {settings : BackupSettings} {transport : Transport}
    {included : Bool} {world : BackupWorld} {record : StoredBackup}
    (fetched : asyncFetchBackup sha256 settings transport included world = .ok record) :
    record.includesCredentials = sealedIn world.create := by
  obtain ⟨⟨client, nodeId⟩, -, fetched⟩ := bind_eq_ok.mp fetched
  obtain ⟨⟨blob, includes⟩, created, fetched⟩ := bind_eq_ok.mp fetched
  obtain ⟨stamp, -, fetched⟩ := bind_eq_ok.mp fetched
  cases fetched
  exact asyncCreateBackup_sealedIn created

/-- What one backup stores, it has fetched. -/
theorem fetched_of_attempt {record : StoredBackup}
    (stored : (attempt sha256 runtimes explicit includeCredentials world entryId).stored =
      some record) :
    ∃ runtime, runtimes.get? entryId = some runtime ∧
      backupClientFor (entryBackupSettings runtime) = true ∧
      asyncFetchBackup sha256 (entryBackupSettings runtime) runtime.transport
        (runtime.included includeCredentials) (world entryId) = .ok record := by
  unfold attempt at stored
  rcases asyncBackUpEntry_cases sha256 runtimes { } entryId explicit includeCredentials
      (world entryId) with ⟨runtime, backup, running, configured, fetched⟩ | ⟨error, nothing⟩
  · rw [asyncBackUpEntry_of_fetched { } explicit running configured fetched] at stored
    cases stored
    exact ⟨runtime, running, configured, fetched⟩
  · rw [nothing] at stored
    cases stored

/-! ## The choice of a call -/

/-- The documented choice: the field of the call, or the option of the entry when
the call has no such field. -/
def documentedChoice (data : Dict) (runtime : Runtime) : Bool :=
  match Json.get data "include_credentials" with
  | .null => (entryBackupSettings runtime).includeCredentials.getD false
  | .bool value => value
  | _ => false

/-- Nodes are asked as documented, none is asked for credentials by a call that
says no, and what is recorded is what the node says. -/
structure HonoursCall (sha256 : Sha256) (runtimes : Keyed Runtime.entryId) (store : BackupStore)
    (data : Dict) (world : String → BackupWorld) : Prop where
  asked : ∀ entryId runtime request,
    (entryId, request) ∈ (backUpNow sha256 runtimes store data world).sent →
      runtimes.get? entryId = some runtime → request = createRequest (documentedChoice data runtime)
  refused : Json.get data "include_credentials" = .bool false →
    ∀ entryId request, (entryId, request) ∈ (backUpNow sha256 runtimes store data world).sent →
      request.body = .null
  recorded : ∀ entryId record,
    (entryId, record) ∈ (backUpNow sha256 runtimes store data world).stored →
      record.includesCredentials = sealedIn (world entryId).create

/-- Of every target that is asked, what the call says under the name of the option
is what it says under the documented name; a name that is missing leaves the
choice to the entry. -/
def NamesAgree (sha256 : Sha256) (runtimes : Keyed Runtime.entryId) (data : Dict)
    (world : String → BackupWorld) : Prop :=
  ∀ before entryId after runtime, calledTargets runtimes data = before ++ entryId :: after →
    (∀ earlier ∈ before, Delivers sha256 runtimes (passedChoice data) world earlier) →
      Asked sha256 runtimes world entryId runtime →
        runtime.included (passedChoice data) = documentedChoice data runtime

theorem backUpNow_observed (sha256 : Sha256) (runtimes : Keyed Runtime.entryId)
    (store : BackupStore) (data : Dict) (world : String → BackupWorld) :
    (backUpNow sha256 runtimes store data world).sent =
        (visited (stopsAt sha256 runtimes true (passedChoice data) world)
          (calledTargets runtimes data)).flatMap
          (fun entryId =>
            (requestsFor sha256 runtimes (passedChoice data) world entryId).map (entryId, ·)) ∧
      (backUpNow sha256 runtimes store data world).stored =
        (visited (stopsAt sha256 runtimes true (passedChoice data) world)
          (calledTargets runtimes data)).flatMap
          (fun entryId =>
            (attempt sha256 runtimes true (passedChoice data) world
              entryId).stored.toList.map (entryId, ·)) := by
  rw [backUpNow]
  cases calledTargets runtimes data with
  | nil => exact ⟨rfl, rfl⟩
  | cons entryId rest =>
      exact (backUpTargets_observed sha256 runtimes true (passedChoice data) world store
        (entryId :: rest)).2

variable {data : Dict}

/-- A call asks the targets it gets to. -/
theorem mem_sent_backUpNow {request : Request} :
    (entryId, request) ∈ (backUpNow sha256 runtimes store data world).sent ↔
      ∃ before after runtime, calledTargets runtimes data = before ++ entryId :: after ∧
        (∀ earlier ∈ before, Delivers sha256 runtimes (passedChoice data) world earlier) ∧
        Asked sha256 runtimes world entryId runtime ∧
        request = createRequest (runtime.included (passedChoice data)) := by
  rw [(backUpNow_observed sha256 runtimes store data world).1, List.mem_flatMap]
  constructor
  · rintro ⟨other, reached, member⟩
    obtain ⟨sent, made, same⟩ := List.mem_map.mp member
    cases same
    obtain ⟨before, after, split, passed⟩ := mem_visited_iff.mp reached
    obtain ⟨runtime, asked, rfl⟩ := mem_requestsFor_iff.mp made
    exact ⟨before, after, runtime, split,
      fun earlier among => stopsAt_explicit_iff.mp (passed earlier among), asked, rfl⟩
  · rintro ⟨before, after, runtime, split, delivered, asked, rfl⟩
    refine ⟨entryId, mem_visited_iff.mpr ⟨before, after, split, fun earlier among =>
      stopsAt_explicit_iff.mpr (delivered earlier among)⟩, ?_⟩
    exact List.mem_map.mpr ⟨_, mem_requestsFor_iff.mpr ⟨runtime, asked, rfl⟩, rfl⟩

/-- What a call records is what the nodes say. -/
theorem recorded_backUpNow {record : StoredBackup}
    (member : (entryId, record) ∈ (backUpNow sha256 runtimes store data world).stored) :
    record.includesCredentials = sealedIn (world entryId).create := by
  rw [(backUpNow_observed sha256 runtimes store data world).2, List.mem_flatMap] at member
  obtain ⟨other, -, copied⟩ := member
  obtain ⟨copy, kept, same⟩ := List.mem_map.mp copied
  cases same
  obtain ⟨runtime, -, -, fetched⟩ := fetched_of_attempt (Option.mem_toList.mp kept)
  exact asyncFetchBackup_sealedIn fetched

/-- A call is honoured exactly when both names say the same of every target that
is asked. -/
theorem honoursCall_iff (sha256 : Sha256) (runtimes : Keyed Runtime.entryId)
    (store : BackupStore) (data : Dict) (world : String → BackupWorld) :
    HonoursCall sha256 runtimes store data world ↔ NamesAgree sha256 runtimes data world := by
  constructor
  · intro honours before entryId after runtime split delivered asked
    have sent : (entryId, createRequest (runtime.included (passedChoice data))) ∈
        (backUpNow sha256 runtimes store data world).sent :=
      mem_sent_backUpNow.mpr ⟨before, after, runtime, split, delivered, asked, rfl⟩
    exact createRequest_injective (honours.asked entryId runtime _ sent asked.running)
  · intro agree
    have asked : ∀ entryId runtime request,
        (entryId, request) ∈ (backUpNow sha256 runtimes store data world).sent →
          runtimes.get? entryId = some runtime →
            request = createRequest (documentedChoice data runtime) := by
      intro entryId runtime request member running
      obtain ⟨before, after, other, split, delivered, asked, rfl⟩ := mem_sent_backUpNow.mp member
      have same : other = runtime := Option.some.inj (asked.running.symm.trans running)
      subst same
      rw [agree before entryId after other split delivered asked]
    refine ⟨asked, ?_, fun entryId record member => recorded_backUpNow member⟩
    intro no entryId request member
    obtain ⟨-, -, runtime, -, -, reached, -⟩ := mem_sent_backUpNow.mp member
    rw [asked entryId runtime request member reached.running, documentedChoice, no]
    rfl

/-! ### A call that asks for the keys -/

/-- A call that uses the documented name. -/
def callForKeys : Dict := [("include_credentials", .bool true)]

/-- The gate answers the entry. -/
def gateDelivers (_entryId : String) : BackupWorld :=
  sampleBackup (sampleConnect "HOME001" "GATE-001") ⟨"GATE-001", "HOME001"⟩

/-- The documented field is not read: the keys are asked for and not included. -/
theorem call_for_keys_unheard :
    (entryBackupSettings (mqttRuntime "home" "HOME001")).includeCredentials = some false ∧
      (backUpNow sampleSha256 (.put .empty (mqttRuntime "home" "HOME001")) { } callForKeys
        gateDelivers).sent = [("home", createRequest false)] ∧
      ¬ HonoursCall sampleSha256 (.put .empty (mqttRuntime "home" "HOME001")) { } callForKeys
        gateDelivers := by
  have running := mqttRuntime_running .empty "home" "HOME001"
  obtain ⟨probe, connected, -, -, -⟩ :=
    @connect_mqttRuntime "home" "HOME001" "HOME001" "GATE-001" (by decide) (by decide)
  have reached : backupClient sampleSha256 (entryBackupSettings (mqttRuntime "home" "HOME001"))
      (mqttRuntime "home" "HOME001").transport (gateDelivers "home").connect =
        .ok (probe.client, some probe.nodeId) :=
    bind_eq_ok.mpr ⟨probe, connected, rfl⟩
  have asked : Asked sampleSha256 (.put .empty (mqttRuntime "home" "HOME001")) gateDelivers "home"
      (mqttRuntime "home" "HOME001") := ⟨running, rfl, ⟨_, _, reached⟩, rfl⟩
  have targets : calledTargets (.put .empty (mqttRuntime "home" "HOME001")) callForKeys =
      [] ++ "home" :: [] := rfl
  have sent : (backUpNow sampleSha256 (.put .empty (mqttRuntime "home" "HOME001")) { } callForKeys
      gateDelivers).sent = [("home", createRequest false)] := by
    rw [(backUpNow_observed _ _ _ _ _).1, targets]
    have only : visited (stopsAt sampleSha256 (.put .empty (mqttRuntime "home" "HOME001")) true
        (passedChoice callForKeys) gateDelivers) ([] ++ "home" :: []) = ["home"] :=
      visited_eq_self_iff.mpr (by
        intro before item after split more
        cases before with
        | nil => exact absurd (List.cons.inj split).2.symm more
        | cons earlier before => exact absurd (List.cons.inj split).2.symm (by simp))
    rw [only]
    unfold requestsFor
    simp only [List.flatMap_cons, List.flatMap_nil, running, asked.configured, reached, if_true]
    rfl
  refine ⟨rfl, sent, ?_⟩
  intro honours
  have included := honours.asked "home" _ (createRequest false) (by rw [sent]; simp) running
  cases createRequest_injective included

end HomeKeyHousehold
