import HomeKeyHousehold.Recovery

/-!
# The documented node

The emulator of the integration tests publishes what the contract documents for a
node.  Each of its payloads is shown to be understood as it is meant, for every value
in it, live and after a restart, whatever else is published around it.
-/

namespace HomeKeyHousehold

open Library

/-! ## Payloads -/

/-- The document of `state_payload`. -/
def stateDocument (householdId nodeId nodeName nodeRole nodeState : String) (generation : Int)
    (firmwareVersion : String) : Dict :=
  [("household_id", .str householdId), ("node_id", .str nodeId), ("node_name", .str nodeName),
    ("node_role", .str nodeRole), ("node_state", .str nodeState),
    ("generation", .int generation), ("firmware_version", .str firmwareVersion)]

/-- The arguments of `health_payload`, with their defaults. -/
structure HealthFields where
  network : String := "UNKNOWN"
  mqtt : String := "OK"
  mqttError : Int := 0
  nfc : String := "OK"
  lockCurrent : Int := 1
  lockTarget : Int := 1
  backup : String := "ok"
  certificate : String := "unknown"
  firmwareVersion : String := "0.10.0"
  uptime : Int := 1234
  freeHeap : Int := 123456
  resetReason : String := "1"
  securityAllOk : Bool := true
  securityWarnings : String := ""

namespace HealthFields

/-- The document of `health_payload`. -/
def document (fields : HealthFields) : Dict :=
  [("network", .str fields.network), ("mqtt", .str fields.mqtt),
    ("mqtt_error", .int fields.mqttError), ("nfc", .str fields.nfc),
    ("lock_current", .int fields.lockCurrent), ("lock_target", .int fields.lockTarget),
    ("backup", .str fields.backup), ("certificate", .str fields.certificate),
    ("firmware_version", .str fields.firmwareVersion), ("uptime", .int fields.uptime),
    ("free_heap", .int fields.freeHeap), ("reset_reason", .str fields.resetReason),
    ("security", .obj
      [("all_ok", .bool fields.securityAllOk), ("warnings", .str fields.securityWarnings)])]

/-- What a health document says. -/
def health (fields : HealthFields) : NodeHealth :=
  { network := orDefault (some fields.network) "UNKNOWN"
    mqtt := fields.mqtt
    nfc := orDefault (some fields.nfc) "unknown"
    certificate := orDefault (some fields.certificate) "unknown"
    mqttError := some fields.mqttError
    lockCurrent := some fields.lockCurrent
    lockTarget := some fields.lockTarget
    backup := some fields.backup
    firmwareVersion := some fields.firmwareVersion
    uptime := some fields.uptime
    freeHeap := some fields.freeHeap
    resetReason := some fields.resetReason
    securityAllOk := some fields.securityAllOk
    securityWarnings := some fields.securityWarnings }

end HealthFields

/-- The document of `backup_last_payload`. -/
def backupLastDocument (status : String) (timestamp : Int) : Dict :=
  [("status", .str status), ("timestamp", .int timestamp)]

/-- The document of `last_auth_payload`. -/
def lastAuthDocument (result authType : String) (timestamp : Int) : Dict :=
  [("type", .str authType), ("result", .str result), ("timestamp", .int timestamp)]

/-- `json.dumps(document, separators=(",", ":"))`. -/
def payloadOf (document : Dict) : String := Json.dumpsCompact (.obj document)

/-- `security_payload`. -/
def securityPayload (state : String) : String := state

/-! ## Reading them -/

section

variable {householdId nodeId : String}

/-- A state document is read as it was written. -/
theorem fromState_stateDocument (home : householdId ≠ "") (named : nodeId ≠ "")
    (nodeName nodeRole nodeState : String) (generation : Int) (firmwareVersion : String) :
    Node.fromState householdId nodeId (.obj (stateDocument householdId nodeId nodeName nodeRole
        nodeState generation firmwareVersion)) =
      .ok
        { nodeId
          householdId
          nodeName := orDefault (some nodeName) nodeId
          nodeRole := orDefault (some nodeRole) nodeRoleOther
          nodeState := orDefault (some nodeState) "UNKNOWN"
          generation := some generation
          firmware := some firmwareVersion } := by
  have read (field value : String) (filled : value ≠ "") (data : Dict)
      (found : Json.get data field = .str value) (place : String) :
      requireIdentityField data field value place = .ok () := by
    rw [requireIdentityField, requireStr, found]
    simp only [bind, Except.bind, if_neg filled, if_true]
    rfl
  have own : requireIdentity (stateDocument householdId nodeId nodeName nodeRole nodeState
      generation firmwareVersion) householdId nodeId "state" = .ok () := by
    rw [requireIdentity, read "household_id" householdId home _ rfl,
      read "node_id" nodeId named _ rfl]
    rfl
  rw [Node.fromState, NodeState.fromDict]
  simp only [requireDict, bind, Except.bind, own]
  rfl

/-- A health document is read as it was written, but for an empty MQTT health. -/
theorem fromDict_health (fields : HealthFields) (connected : fields.mqtt ≠ "") :
    NodeHealth.fromDict (.obj fields.document) householdId nodeId = .ok fields.health := by
  have required : requireStr fields.document "mqtt" = .ok fields.mqtt := by
    have found : Json.get fields.document "mqtt" = .str fields.mqtt := rfl
    rw [requireStr, found]
    exact if_neg connected
  have own : validateIdentity fields.document householdId nodeId "health" = .ok () := rfl
  rw [NodeHealth.fromDict]
  simp only [requireDict, bind, Except.bind, own, required]
  rfl

theorem parseSecurity_spelling (value : SecurityState) :
    Coordinator.parseSecurity value.spelling = .ok value := by
  have trimmed : strip value.spelling = value.spelling := by cases value <;> decide
  have spelled : SecurityState.ofString? value.spelling = some value := by
    cases value <;> decide
  rw [Coordinator.parseSecurity, trimmed, spelled]

theorem parseBackupStatus_spelling (outcome : BackupOutcome) :
    Coordinator.parseBackupStatus outcome.spelling = .ok outcome := by
  have plain : lower (strip outcome.spelling) = outcome.spelling := by cases outcome <;> decide
  have spelled : BackupOutcome.ofString? outcome.spelling = some outcome := by
    cases outcome <;> decide
  rw [Coordinator.parseBackupStatus, plain, spelled]

/-- A time `datetime` can represent. -/
def Representable (timestamp : Int) : Prop :=
  minInstant ≤ timestamp * microsPerSecond ∧ timestamp * microsPerSecond < endInstant

theorem normaliseTimestamp_int {timestamp : Int} (representable : Representable timestamp)
    (place : String) :
    normaliseTimestamp (.int timestamp) place =
      .ok (some (isoformat (timestamp * microsPerSecond))) := by
  rw [normaliseTimestamp, isoOfInstant]
  exact if_pos representable

/-- A backup document is read as it was written. -/
theorem fromDict_backupLast (status : BackupOutcome) {timestamp : Int}
    (representable : Representable timestamp) :
    BackupRecord.fromDict (.obj (backupLastDocument status.spelling timestamp)) householdId
        nodeId =
      .ok ⟨status, some (isoformat (timestamp * microsPerSecond))⟩ := by
  have required : requireStr (backupLastDocument status.spelling timestamp) "status" =
      .ok status.spelling := by cases status <;> rfl
  have own : validateIdentity (backupLastDocument status.spelling timestamp) householdId nodeId
      "backup/last" = .ok () := rfl
  have spelled : BackupOutcome.ofString? status.spelling = some status := by
    cases status <;> decide
  have stamped : Json.get (backupLastDocument status.spelling timestamp) "timestamp" =
      .int timestamp := rfl
  rw [BackupRecord.fromDict]
  simp only [requireDict, bind, Except.bind, own, required, spelled, stamped,
    normaliseTimestamp_int representable]
  rfl

/-- An authorisation is read as it was written, without an issuer. -/
theorem fromDict_lastAuth (result : AuthResult) (authType : String) {timestamp : Int}
    (representable : Representable timestamp) :
    LastAuth.fromDict (.obj (lastAuthDocument result.spelling authType timestamp)) householdId
        nodeId =
      .ok ⟨orDefault (some authType) "HomeKey", result,
        some (isoformat (timestamp * microsPerSecond)), none⟩ := by
  have required : requireStr (lastAuthDocument result.spelling authType timestamp) "result" =
      .ok result.spelling := by cases result <;> rfl
  have own : validateIdentity (lastAuthDocument result.spelling authType timestamp) householdId
      nodeId "last_auth" = .ok () := rfl
  have spelled : AuthResult.ofString? result.spelling = some result := by
    cases result <;> decide
  have stamped : Json.get (lastAuthDocument result.spelling authType timestamp) "timestamp" =
      .int timestamp := rfl
  rw [LastAuth.fromDict]
  simp only [requireDict, bind, Except.bind, own, required, spelled, stamped,
    normaliseTimestamp_int representable]
  rfl

end

/-! ## Reports -/

section

variable {householdId nodeId : String} {subtopic : Subtopic} {said : Publication}

/-- What the emulator says in a document is what it is read as. -/
theorem reportOf_payloadOf {document : Dict} (structured : subtopic.isJson = true)
    (written : said.payload = payloadOf document) :
    reportOf householdId nodeId subtopic said =
      .ofJson householdId nodeId (.obj document) subtopic := by
  refine reportOf_document structured ?_
  rw [written, payloadOf, Coordinator.decodeJson, Json.loads_dumpsCompact]

end

/-! ## The node -/

/-- `EmulatedNode`; its log of publications is what `publishAll` returns. -/
structure EmulatedNode where
  householdId : String
  nodeId : String
  nodeName : String
  nodeRole : String := "gate"

/-- The arguments of `publish_all`, with their defaults. -/
structure Telemetry where
  lockCurrent : Int := 1
  security : String := "OK"
  status : String := "online"
  lastAuthResult : String := "SUCCESS"
  backupStatus : String := "completed"

/-- The moment the emulator reports for backups and authorisations. -/
def emulatedTime : Int := 1760000000

theorem representable_emulatedTime : Representable emulatedTime := by
  constructor <;> decide

namespace EmulatedNode

/-- `node_base` with a topic of the node. -/
def topicOf (node : EmulatedNode) (topic : String) : String :=
  "homekey/household/" ++ node.householdId ++ "/nodes/" ++ node.nodeId ++ "/" ++ topic

/-- `publish_all`, what it sends. -/
def publishAll (node : EmulatedNode) (telemetry : Telemetry) : List Publication :=
  [⟨node.topicOf "state",
      payloadOf (stateDocument node.householdId node.nodeId node.nodeName node.nodeRole "ACTIVE" 1
        "0.10.0"), 0, true⟩,
    ⟨node.topicOf "status", telemetry.status, 1, true⟩,
    ⟨node.topicOf "health",
      payloadOf (HealthFields.document { lockCurrent := telemetry.lockCurrent }), 0, false⟩,
    ⟨node.topicOf "security", securityPayload telemetry.security, 0, true⟩,
    ⟨node.topicOf "backup/status", telemetry.backupStatus, 0, true⟩,
    ⟨node.topicOf "backup/last", payloadOf (backupLastDocument "completed" emulatedTime), 0, true⟩,
    ⟨node.topicOf "last_auth",
      payloadOf (lastAuthDocument telemetry.lastAuthResult "HomeKey" emulatedTime), 0, true⟩]

/-- `publish_health`, what it sends. -/
def publishHealth (node : EmulatedNode) (lockCurrent : Int) : Publication :=
  ⟨node.topicOf "health", payloadOf (HealthFields.document { lockCurrent }), 0, false⟩

end EmulatedNode

/-! ## What is understood -/

/-- What a node reports, in the words of the contract. -/
structure Reported where
  online : Bool
  lockCurrent : Int
  security : SecurityState
  lastAuth : AuthResult
  backup : BackupOutcome

/-- The arguments with which `publish_all` reports it. -/
def Reported.telemetry (reported : Reported) : Telemetry :=
  { lockCurrent := reported.lockCurrent
    security := reported.security.spelling
    status := if reported.online then "online" else "offline"
    lastAuthResult := reported.lastAuth.spelling
    backupStatus := reported.backup.spelling }

/-- The subtopics `publish_all` writes. -/
def toldSubtopics : List Subtopic :=
  [.state, .status, .health, .security, .backupStatus, .backupLast, .lastAuth]

namespace EmulatedNode

variable {node : EmulatedNode} {reported : Reported} {subtopic : Subtopic}
variable {history arrivals : List (Env × Publication)} {legacyPrefix : Option String}

theorem topicOf_eq (node : EmulatedNode) (topic : String) :
    node.topicOf topic = nodeTopic node.householdId node.nodeId topic := by
  have root : "homekey/household/" = topicRoot ++ "/" ++ topicHousehold ++ "/" := rfl
  have nodes : "/nodes/" = "/" ++ topicNodes ++ "/" := rfl
  unfold topicOf nodeTopic nodeBase
  simp only [root, nodes, String.append_assoc]

/-- The part of a record each subtopic is about, as the node means it. -/
def meant (node : EmulatedNode) (reported : Reported) : Subtopic → Node.Part
  | .state =>
      .identity (orDefault (some node.nodeName) node.nodeId)
        (orDefault (some node.nodeRole) nodeRoleOther) "ACTIVE" (some 1) (some "0.10.0")
  | .status => .status reported.online
  | .health => .health (some (HealthFields.health { lockCurrent := reported.lockCurrent }))
  | .security => .security (some reported.security)
  | .backupStatus => .backupStatus (some reported.backup)
  | .backupLast =>
      .backupLast (some ⟨.completed, some (isoformat (emulatedTime * microsPerSecond))⟩)
  | .lastAuth =>
      .lastAuth (some ⟨"HomeKey", reported.lastAuth,
        some (isoformat (emulatedTime * microsPerSecond)), none⟩)
  | .lockLast => .lockLast none
  | .guestStatus => .guestStatus none
  | .legacyStatus => .apart

/-- A publication that is accepted and writes its part as the node means it. -/
structure Understood (node : EmulatedNode) (reported : Reported) (subtopic : Subtopic)
    (said : Publication) : Prop where
  topic : said.topic = nodeTopic node.householdId node.nodeId subtopic.spelling
  accepted : (reportOf node.householdId node.nodeId subtopic said).kind = some subtopic
  written : ∀ env record, (Node.note env record
    (reportOf node.householdId node.nodeId subtopic said)).part subtopic =
      node.meant reported subtopic

section

variable {said : Publication} {report : Node.Report}

/-- A publication is understood when what it says is a value of its subtopic. -/
theorem Understood.of_report (topic : said.topic = node.topicOf subtopic.spelling)
    (read : reportOf node.householdId node.nodeId subtopic said = report)
    (accepted : report.kind = some subtopic)
    (written : ∀ env record, (Node.note env record report).part subtopic =
      node.meant reported subtopic) : node.Understood reported subtopic said where
  topic := topic.trans (topicOf_eq node subtopic.spelling)
  accepted := read ▸ accepted
  written := read ▸ written

theorem understood_state (household : node.householdId ≠ "") (named : node.nodeId ≠ "")
    (topic : said.topic = node.topicOf "state")
    (payload : said.payload = payloadOf (stateDocument node.householdId node.nodeId node.nodeName
      node.nodeRole "ACTIVE" 1 "0.10.0")) : node.Understood reported .state said := by
  have read := @reportOf_payloadOf node.householdId node.nodeId .state said _ rfl payload
  rw [Node.Report.ofJson, fromState_stateDocument household named] at read
  exact .of_report topic read rfl fun env record => rfl

theorem understood_status (topic : said.topic = node.topicOf "status")
    (payload : said.payload = reported.telemetry.status) :
    node.Understood reported .status said := by
  have parsed : Coordinator.parseOnline reported.telemetry.status "status" =
      .ok reported.online := by
    rw [Reported.telemetry]
    cases reported.online
    · exact Coordinator.parseOnline_offline "status"
    · exact Coordinator.parseOnline_online "status"
  have read := @reportOf_plain node.householdId node.nodeId .status said rfl
  rw [payload, Node.Report.ofPlain, parsed] at read
  exact .of_report topic read rfl fun env record => rfl

theorem understood_health (topic : said.topic = node.topicOf "health")
    (payload : said.payload =
      payloadOf (HealthFields.document { lockCurrent := reported.lockCurrent })) :
    node.Understood reported .health said := by
  have read := @reportOf_payloadOf node.householdId node.nodeId .health said _ rfl payload
  have connected : "OK" ≠ "" := by decide
  rw [Node.Report.ofJson, fromDict_health _ connected] at read
  exact .of_report topic read rfl fun env record => rfl

theorem understood_security (topic : said.topic = node.topicOf "security")
    (payload : said.payload = securityPayload reported.telemetry.security) :
    node.Understood reported .security said := by
  have parsed : Coordinator.parseSecurity reported.telemetry.security =
      .ok reported.security := parseSecurity_spelling reported.security
  have read := @reportOf_plain node.householdId node.nodeId .security said rfl
  rw [payload, securityPayload, Node.Report.ofPlain, parsed] at read
  exact .of_report topic read rfl fun env record => rfl

theorem understood_backupStatus (topic : said.topic = node.topicOf "backup/status")
    (payload : said.payload = reported.telemetry.backupStatus) :
    node.Understood reported .backupStatus said := by
  have parsed : Coordinator.parseBackupStatus reported.telemetry.backupStatus =
      .ok reported.backup := parseBackupStatus_spelling reported.backup
  have read := @reportOf_plain node.householdId node.nodeId .backupStatus said rfl
  rw [payload, Node.Report.ofPlain, parsed] at read
  exact .of_report topic read rfl fun env record => rfl

theorem understood_backupLast (topic : said.topic = node.topicOf "backup/last")
    (payload : said.payload = payloadOf (backupLastDocument "completed" emulatedTime)) :
    node.Understood reported .backupLast said := by
  have read := @reportOf_payloadOf node.householdId node.nodeId .backupLast said _ rfl payload
  rw [Node.Report.ofJson] at read
  have parsed := @fromDict_backupLast node.householdId node.nodeId .completed _
    representable_emulatedTime
  rw [BackupOutcome.spelling] at parsed
  rw [parsed] at read
  exact .of_report topic read rfl fun env record => rfl

theorem understood_lastAuth (topic : said.topic = node.topicOf "last_auth")
    (payload : said.payload = payloadOf
      (lastAuthDocument reported.telemetry.lastAuthResult "HomeKey" emulatedTime)) :
    node.Understood reported .lastAuth said := by
  have read := @reportOf_payloadOf node.householdId node.nodeId .lastAuth said _ rfl payload
  rw [Node.Report.ofJson, Reported.telemetry,
    fromDict_lastAuth reported.lastAuth "HomeKey" representable_emulatedTime] at read
  exact .of_report topic read rfl fun env record => rfl

end

/-- Each topic that is told is told by one of the publications, which is understood. -/
theorem exists_understood (household : isValidId node.householdId = true)
    (named : isValidId node.nodeId = true) (reported : Reported)
    (told : subtopic ∈ toldSubtopics) :
    ∃ said ∈ node.publishAll reported.telemetry, node.Understood reported subtopic said := by
  have home := ne_empty_of_isValidId household
  have filled := ne_empty_of_isValidId named
  rw [publishAll]
  cases subtopic with
  | legacyStatus | lockLast | guestStatus => exact absurd told (by decide)
  | state => exact ⟨_, .head _, understood_state home filled rfl rfl⟩
  | status => exact ⟨_, .tail _ (.head _), understood_status rfl rfl⟩
  | health => exact ⟨_, .tail _ (.tail _ (.head _)), understood_health rfl rfl⟩
  | security => exact ⟨_, .tail _ (.tail _ (.tail _ (.head _))), understood_security rfl rfl⟩
  | backupStatus =>
      exact ⟨_, .tail _ (.tail _ (.tail _ (.tail _ (.head _)))), understood_backupStatus rfl rfl⟩
  | backupLast =>
      exact ⟨_, .tail _ (.tail _ (.tail _ (.tail _ (.tail _ (.head _))))),
        understood_backupLast rfl rfl⟩
  | lastAuth =>
      exact ⟨_, .tail _ (.tail _ (.tail _ (.tail _ (.tail _ (.tail _ (.head _)))))),
        understood_lastAuth rfl rfl⟩

/-! ## Live and after a restart -/

/-- A history in which a node said all of this last.  Its health was never retained, and
its lock reported no event. -/
structure HasTold (node : EmulatedNode) (reported : Reported)
    (history : List (Env × Publication)) : Prop where
  last : ∀ said ∈ node.publishAll reported.telemetry, IsLastOn said.topic history said
  passing : ∀ arrival ∈ history, arrival.2.topic = node.topicOf "health" →
    arrival.2.retain = false
  quiet : IsSilent node.householdId node.nodeId history .lockLast

/-- What was said last is understood while it happens. -/
theorem HasTold.live (said : node.HasTold reported history)
    (household : isValidId node.householdId = true) (named : isValidId node.nodeId = true)
    (told : subtopic ∈ toldSubtopics) :
    ∃ found, knownFrom node.householdId legacyPrefix (history.map forwarded) node.nodeId =
        some found ∧ found.part subtopic = node.meant reported subtopic := by
  have known : subtopic ≠ .legacyStatus := fun same => absurd (same ▸ told) (by decide)
  obtain ⟨publication, published, understood⟩ :=
    exists_understood household named reported told
  have last := understood.topic ▸ said.last publication published
  obtain ⟨earlier, env, later, split, others⟩ := last.forwarded
  obtain ⟨found, record, heard, written, -⟩ :=
    @part_of_last _ _ subtopic legacyPrefix earlier later { publication with retain := false }
      env household named known understood.topic understood.accepted
      fun next follows own => absurd own (others next follows)
  exact ⟨found, split ▸ heard, written.trans (understood.written env record)⟩

/-- Everything but the health is retained. -/
theorem mem_publishAll {telemetry : Telemetry} {said : Publication}
    (published : said ∈ node.publishAll telemetry) :
    ∃ subtopic ∈ toldSubtopics,
      said.topic = nodeTopic node.householdId node.nodeId subtopic.spelling ∧
        said.retain = decide (subtopic ≠ .health) := by
  rw [publishAll] at published
  simp only [List.mem_cons, List.not_mem_nil, or_false] at published
  rcases published with rfl | rfl | rfl | rfl | rfl | rfl | rfl
  · exact ⟨.state, by decide, topicOf_eq node _, rfl⟩
  · exact ⟨.status, by decide, topicOf_eq node _, rfl⟩
  · exact ⟨.health, by decide, topicOf_eq node _, rfl⟩
  · exact ⟨.security, by decide, topicOf_eq node _, rfl⟩
  · exact ⟨.backupStatus, by decide, topicOf_eq node _, rfl⟩
  · exact ⟨.backupLast, by decide, topicOf_eq node _, rfl⟩
  · exact ⟨.lastAuth, by decide, topicOf_eq node _, rfl⟩

/-- What was retained is understood after a restart. -/
theorem HasTold.fresh (said : node.HasTold reported history)
    (household : isValidId node.householdId = true) (named : isValidId node.nodeId = true)
    (delivered : (arrivals.map Prod.snd).Perm (retainedOf (history.map Prod.snd)).entries)
    (told : subtopic ∈ toldSubtopics) (other : subtopic ≠ .health) :
    ∃ found, knownFrom node.householdId legacyPrefix arrivals node.nodeId = some found ∧
      found.part subtopic = node.meant reported subtopic := by
  have known : subtopic ≠ .legacyStatus := fun same => absurd (same ▸ told) (by decide)
  obtain ⟨publication, published, understood⟩ :=
    exists_understood household named reported told
  have retained : publication.retain = true := by
    obtain ⟨told, -, topic, mark⟩ := mem_publishAll published
    rw [← nodeTopic_injective (understood.topic.symm.trans topic)] at mark
    exact mark.trans (decide_eq_true other)
  obtain ⟨earlier, env, later, split, others⟩ :=
    (said.last publication published).delivered retained
      (filled_of_kind understood.accepted) delivered
  obtain ⟨found, record, heard, written, -⟩ :=
    @part_of_last _ _ subtopic legacyPrefix earlier later publication env household named known
      understood.topic understood.accepted fun next follows own =>
        absurd (own.trans understood.topic.symm) (others next (List.mem_append_right _ follows))
  exact ⟨found, split ▸ heard, written.trans (understood.written env record)⟩

/-- No health snapshot is delivered after a restart. -/
theorem HasTold.health_silent (said : node.HasTold reported history)
    (delivered : (arrivals.map Prod.snd).Perm (retainedOf (history.map Prod.snd)).entries) :
    IsSilent node.householdId node.nodeId arrivals .health := by
  intro arrival arrived topic
  have stored := Keyed.get?_of_mem (delivered.mem_iff.mp (List.mem_map_of_mem arrived))
  obtain ⟨published, retained, -⟩ := Keyed.mem_of_get?_retained stored
  obtain ⟨earlier, member, same⟩ := List.mem_map.mp published
  have passing := said.passing earlier member
    ((congrArg Publication.topic same).trans (topic.trans (topicOf_eq node _).symm))
  rw [same, retained] at passing
  cases passing

/-- The lock is where the health snapshot has it when no event is on record. -/
theorem lockState_of_no_event {found : Node} (quiet : found.lockChange = none) :
    found.lockState = (found.health.bind NodeHealth.lockCurrentState).getD .unknown := by
  rw [Node.lockState, quiet]
  cases found.lockChangeIsFresh <;> cases found.health <;> rfl

/-- Whatever else is published around it, a node that reports as documented is understood
in all of it.  After a restart it is understood again in all that is retained: its health
is not, and with it the state of its lock is unknown until the next snapshot. -/
theorem documented_node_understood (legacyPrefix : Option String)
    (household : isValidId node.householdId = true) (named : isValidId node.nodeId = true)
    (said : node.HasTold reported history)
    (delivered : (arrivals.map Prod.snd).Perm (retainedOf (history.map Prod.snd)).entries) :
    ∃ live fresh,
      knownFrom node.householdId legacyPrefix (history.map forwarded) node.nodeId = some live ∧
        knownFrom node.householdId legacyPrefix arrivals node.nodeId = some fresh ∧
        (∀ subtopic ∈ toldSubtopics, live.part subtopic = node.meant reported subtopic) ∧
        live.lockState = lockStateMap reported.lockCurrent ∧
        (∀ subtopic ∈ toldSubtopics, subtopic ≠ .health →
          fresh.part subtopic = node.meant reported subtopic) ∧
        fresh.health = none ∧ fresh.lockState = .unknown := by
  obtain ⟨live, heard, -⟩ :=
    @HasTold.live _ _ .state _ legacyPrefix said household named (by decide)
  obtain ⟨fresh, reheard, -⟩ :=
    @HasTold.fresh _ _ .state _ _ legacyPrefix said household named delivered (by decide)
      (by decide)
  have parts : ∀ subtopic ∈ toldSubtopics, live.part subtopic = node.meant reported subtopic := by
    intro subtopic told
    obtain ⟨found, known, part⟩ :=
      @HasTold.live _ _ subtopic _ legacyPrefix said household named told
    exact Option.some.inj (heard.symm.trans known) ▸ part
  have reparts : ∀ subtopic ∈ toldSubtopics, subtopic ≠ .health →
      fresh.part subtopic = node.meant reported subtopic := by
    intro subtopic told other
    obtain ⟨found, known, part⟩ :=
      @HasTold.fresh _ _ subtopic _ _ legacyPrefix said household named delivered told other
    exact Option.some.inj (reheard.symm.trans known) ▸ part
  have quiet := Node.Part.lockLast.inj (part_of_silent (by decide) said.quiet.forwarded heard)
  have requiet := Node.Part.lockLast.inj
    (part_of_silent (by decide) (said.quiet.delivered delivered) reheard)
  have health := Node.Part.health.inj (parts .health (by decide))
  have unheard := Node.Part.health.inj
    (part_of_silent (by decide) (said.health_silent delivered) reheard)
  refine ⟨live, fresh, heard, reheard, parts, ?_, reparts, unheard, ?_⟩
  · rw [lockState_of_no_event quiet, health]
    rfl
  · rw [lockState_of_no_event requiet, unheard]
    rfl

/-! ### A node on its own -/

/-- The topics of the publications are different. -/
theorem nodup_topics (node : EmulatedNode) (telemetry : Telemetry) :
    ((node.publishAll telemetry).map Publication.topic).Nodup := by
  have topics : (node.publishAll telemetry).map Publication.topic =
      toldSubtopics.map fun subtopic => node.topicOf subtopic.spelling := rfl
  have told : toldSubtopics.Nodup := by decide
  rw [topics]
  refine told.map fun first second same => ?_
  rw [topicOf_eq, topicOf_eq] at same
  exact nodeTopic_injective same

variable {earlier later : List (Env × Publication)} {telemetry : Telemetry} {env : Env}

/-- The health that is published is not retained. -/
theorem passing_publishAll {arrival : Env × Publication}
    (arrived : arrival ∈ (node.publishAll telemetry).map (Prod.mk env))
    (topic : arrival.2.topic = node.topicOf "health") : arrival.2.retain = false := by
  obtain ⟨said, published, rfl⟩ := List.mem_map.mp arrived
  obtain ⟨subtopic, -, own, mark⟩ := mem_publishAll published
  have health := nodeTopic_injective (own.symm.trans (topic.trans
    (topicOf_eq node Subtopic.health.spelling)))
  rw [mark, health]
  rfl

/-- No lock event is published. -/
theorem quiet_publishAll (node : EmulatedNode) (telemetry : Telemetry) (env : Env) :
    IsSilent node.householdId node.nodeId ((node.publishAll telemetry).map (Prod.mk env))
      .lockLast := by
  intro arrival arrived topic
  obtain ⟨said, published, rfl⟩ := List.mem_map.mp arrived
  obtain ⟨subtopic, told, own, -⟩ := mem_publishAll published
  rw [nodeTopic_injective (own.symm.trans topic)] at told
  exact absurd told (by decide)

/-- What a node says it says last where only other nodes speak after it. -/
theorem hasTold_among (node : EmulatedNode) (reported : Reported) (env : Env)
    (passing : ∀ arrival ∈ earlier, arrival.2.topic = node.topicOf "health" →
      arrival.2.retain = false)
    (quiet : IsSilent node.householdId node.nodeId earlier .lockLast)
    (foreign : ∀ arrival ∈ later, ∀ topic, arrival.2.topic ≠ node.topicOf topic) :
    node.HasTold reported
      (earlier ++ (node.publishAll reported.telemetry).map (Prod.mk env) ++ later) where
  last said published := by
    obtain ⟨subtopic, -, own, -⟩ := mem_publishAll published
    have distinct : (((node.publishAll reported.telemetry).map (Prod.mk env)).map
        fun arrival => arrival.2.topic).Nodup := by
      rw [List.map_map]
      exact nodup_topics node reported.telemetry
    have member : (env, said) ∈ (node.publishAll reported.telemetry).map (Prod.mk env) :=
      List.mem_map_of_mem published
    refine (isLastOn_of_nodup distinct member).among fun next follows => ?_
    rw [own, ← topicOf_eq]
    exact foreign next follows _
  passing arrival arrived topic := by
    rcases List.mem_append.mp arrived with known | late
    · rcases List.mem_append.mp known with early | now
      · exact passing arrival early topic
      · exact passing_publishAll now topic
    · exact absurd topic (foreign arrival late _)
  quiet arrival arrived topic := by
    rcases List.mem_append.mp arrived with known | late
    · rcases List.mem_append.mp known with early | now
      · exact quiet arrival early topic
      · exact quiet_publishAll node reported.telemetry env arrival now topic
    · exact foreign arrival late _ (topic.trans (topicOf_eq node _).symm)

/-- The node of the emulator's smoke test, with its defaults. -/
def gateTest : EmulatedNode :=
  { householdId := "HOME-TEST", nodeId := "GATE-TEST-001", nodeName := "Gate Test" }

def earlierReport : Reported := ⟨false, 0, .warning, .failure, .failed⟩

def gateReport : Reported := ⟨true, 1, .ok, .success, .completed⟩

/-- An event of another door of the household. -/
def otherDoor : Env × Publication :=
  (Coordinator.sampleEnv,
    { topic := nodeTopic "HOME-TEST" "GATE-TEST-002" Subtopic.lockLast.spelling
      payload := Json.dumps Coordinator.unlockEvent
      qos := 1
      retain := true })

/-- The node reports twice, and the other door after it. -/
def gateHistory : List (Env × Publication) :=
  (gateTest.publishAll earlierReport.telemetry).map (Prod.mk Coordinator.sampleEnv) ++
    (gateTest.publishAll gateReport.telemetry).map (Prod.mk Coordinator.sampleEnv) ++ [otherDoor]

/-- What the broker delivers of it, the newest topic first. -/
def gateDelivered : List (Env × Publication) :=
  (retainedOf (gateHistory.map Prod.snd)).entries.reverse.map (Prod.mk Coordinator.sampleEnv)

theorem hasTold_gateHistory : gateTest.HasTold gateReport gateHistory := by
  refine hasTold_among gateTest gateReport Coordinator.sampleEnv
    (fun _ arrived => passing_publishAll arrived) (quiet_publishAll _ _ _) ?_
  intro arrival arrived topic
  rw [List.mem_singleton.mp arrived, topicOf_eq]
  exact nodeTopic_ne (by decide) (by decide) (by decide) (by decide) _ _

theorem gateTest_understood : ∃ live fresh,
    knownFrom "HOME-TEST" none (gateHistory.map forwarded) "GATE-TEST-001" = some live ∧
      knownFrom "HOME-TEST" none gateDelivered "GATE-TEST-001" = some fresh ∧
      (∀ subtopic ∈ toldSubtopics, live.part subtopic = gateTest.meant gateReport subtopic) ∧
      live.lockState = .locked ∧
      (∀ subtopic ∈ toldSubtopics, subtopic ≠ .health →
        fresh.part subtopic = gateTest.meant gateReport subtopic) ∧
      fresh.health = none ∧ fresh.lockState = .unknown :=
  @documented_node_understood gateTest gateReport gateHistory gateDelivered none (by decide)
    (by decide) hasTold_gateHistory (by
      rw [gateDelivered, List.map_map]
      exact (List.Perm.of_eq (List.map_id _)).trans (List.reverse_perm _))

end EmulatedNode

end HomeKeyHousehold
