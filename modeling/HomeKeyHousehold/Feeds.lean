import HomeKeyHousehold.Record
import HomeKeyHousehold.Sentinel

/-!
# The feeds of one response

A response reaches the record of its node as the direct transport restates it, or
as the messages that carry its parts verbatim.  Either feed moves the record by
what it reads of the parts.
-/

namespace HomeKeyHousehold

open Library

/-! ## The two feeds -/

/-- A sub-document on a topic of its own, verbatim. -/
def carried (householdId nodeId : String) (subtopic : Subtopic) (state : Dict) (key : String)
    (retain : Bool) : List HomeKeyMessage :=
  (Json.lookup state key).toList.map fun document =>
    .document householdId nodeId subtopic document retain

/-- A text on a topic of its own; a plain topic carries nothing else. -/
def carriedText (householdId nodeId : String) (subtopic : Subtopic) (value : Json) :
    List HomeKeyMessage :=
  match value with
  | .str text =>
      [{ householdId, nodeId, subtopic := subtopic.spelling, payload := text, retain := true }]
  | _ => []

/-- The messages that carry the parts of a response verbatim. -/
def overMqtt (state info : Dict) (householdId nodeId : String) : List HomeKeyMessage :=
  [.online householdId nodeId] ++
    carried householdId nodeId .lockLast state "lock_last" true ++
    [.document householdId nodeId .state (identityDocument state info householdId nodeId) true] ++
    carried householdId nodeId .health state "health" false ++
    carriedText householdId nodeId .security (Json.get state "security") ++
    carriedText householdId nodeId .backupStatus (Json.get state "backup_status") ++
    carried householdId nodeId .lastAuth state "last_auth" true

/-- Both transports leave the same records. -/
def IdenticalState (env : Subtopic → Env) (coordinator : Coordinator) (state info : Dict)
    (householdId nodeId : String) : Prop :=
  ∃ messages, stateToMessages state info householdId nodeId = .ok messages ∧
    ∀ other, (coordinator.ingest env messages).getNode other =
      (coordinator.ingest env (overMqtt state info householdId nodeId)).getNode other

/-- What a feed makes of the parts of a response behind its identity. -/
structure Reading where
  health : Option NodeHealth
  security : Option SecurityState
  backupStatus : Option BackupOutcome
  lastAuth : Option LastAuth

/-- The text of a value, as far as it can be read. -/
def readText {α : Type} (read : String → Option α) : Json → Option α
  | .str text => read text
  | _ => none

/-- The reading of the parts as they are. -/
def mqttReading (state : Dict) (householdId nodeId : String) : Reading :=
  { health := (NodeHealth.fromDict (Json.get state "health") householdId nodeId).toOption
    security :=
      readText (fun text => (Coordinator.parseSecurity text).toOption) (Json.get state "security")
    backupStatus :=
      readText (fun text => (Coordinator.parseBackupStatus text).toOption)
        (Json.get state "backup_status")
    lastAuth := (LastAuth.fromDict (Json.get state "last_auth") householdId nodeId).toOption }

/-- The reading of the parts that the direct transport passes on. -/
def directReading (state health : Dict) (householdId nodeId : String) : Reading :=
  { health := (NodeHealth.fromDict (.obj (withoutSentinel health)) householdId nodeId).toOption
    security := readText SecurityState.ofString? (Json.get state "security")
    backupStatus := readText BackupOutcome.ofString? (Json.get state "backup_status")
    lastAuth := (LastAuth.fromDict (Json.get state "last_auth") householdId nodeId).toOption }

namespace Node

/-! ### What was not read stays -/

def withHealth (node : Node) (read : Option NodeHealth) : Node :=
  { node with
    health := read <|> node.health
    lockChangeIsFresh := read.isNone && node.lockChangeIsFresh }

def withSecurity (node : Node) (read : Option SecurityState) : Node :=
  { node with security := read <|> node.security }

def withBackupStatus (node : Node) (read : Option BackupOutcome) : Node :=
  { node with backupStatus := read <|> node.backupStatus }

def withLastAuth (node : Node) (read : Option LastAuth) : Node :=
  { node with lastAuth := read <|> node.lastAuth }

/-- The record after a reading. -/
def report (node : Node) (reading : Reading) : Node :=
  (((node.withHealth reading.health).withSecurity reading.security).withBackupStatus
    reading.backupStatus).withLastAuth reading.lastAuth

variable {env : Env} {node : Node} {householdId nodeId : String}

theorem receive_plain (env : Env) (node : Node) {subtopic : Subtopic}
    (plain : subtopic.isJson = false) (householdId topicHousehold nodeId payload : String) :
    node.receive env householdId
        { householdId := topicHousehold
          nodeId
          subtopic := subtopic.spelling
          payload
          retain := true } =
      node.afterPlain env payload subtopic := by
  unfold receive
  rw [Subtopic.ofString?_spelling]
  dsimp only
  rw [plain, if_neg Bool.false_ne_true]

theorem afterJson_health (env : Env) (node : Node) (householdId : String) (document : Json) :
    node.afterJson env householdId document .health =
      node.withHealth (NodeHealth.fromDict document householdId node.nodeId).toOption := by
  rw [afterJson]
  cases NodeHealth.fromDict document householdId node.nodeId with
  | ok health => rfl
  | error reason => rfl

theorem afterJson_lastAuth (env : Env) (node : Node) (householdId : String) (document : Json) :
    node.afterJson env householdId document .lastAuth =
      node.withLastAuth (LastAuth.fromDict document householdId node.nodeId).toOption := by
  rw [afterJson]
  cases LastAuth.fromDict document householdId node.nodeId with
  | ok auth => rfl
  | error reason => rfl

theorem afterPlain_security (env : Env) (node : Node) (payload : String) :
    node.afterPlain env payload .security =
      node.withSecurity (Coordinator.parseSecurity payload).toOption := by
  rw [afterPlain]
  cases Coordinator.parseSecurity payload with
  | ok value => rfl
  | error reason => rfl

theorem afterPlain_backupStatus (env : Env) (node : Node) (payload : String) :
    node.afterPlain env payload .backupStatus =
      node.withBackupStatus (Coordinator.parseBackupStatus payload).toOption := by
  rw [afterPlain]
  cases Coordinator.parseBackupStatus payload with
  | ok outcome => rfl
  | error reason => rfl

end Node

/-! ### One part after the other -/

namespace Node

variable {env : Subtopic → Env} {node : Node} {householdId nodeId : String}

/-- A document that is carried is received; one that is absent reads as `null`. -/
theorem receiveAll_carried (env : Subtopic → Env) (node : Node) {subtopic : Subtopic}
    (json : subtopic.isJson = true) (state : Dict) (key : String) (retain : Bool)
    (absent : node.afterJson (env subtopic) householdId .null subtopic = node) :
    node.receiveAll env householdId (carried householdId nodeId subtopic state key retain) =
      node.afterJson (env subtopic) householdId (Json.get state key) subtopic := by
  rw [carried, Json.get]
  cases Json.lookup state key with
  | none => exact absent.symm
  | some document =>
      simp only [Option.toList_some, List.map_cons, List.map_nil, receiveAll_cons, receiveAll_nil,
        HomeKeyMessage.ofString?_subtopic_document, Option.getD_some]
      exact receive_document (env subtopic) node json householdId householdId nodeId document retain

theorem receiveAll_singleton_plain (env : Subtopic → Env) (node : Node) {subtopic : Subtopic}
    (plain : subtopic.isJson = false) (payload : String) :
    node.receiveAll env householdId
        [{ householdId
           nodeId
           subtopic := subtopic.spelling
           payload
           retain := true }] =
      node.afterPlain (env subtopic) payload subtopic := by
  rw [receiveAll_cons, receiveAll_nil, receive_plain _ _ plain, Subtopic.ofString?_spelling,
    Option.getD_some]

variable {α : Type} {subtopic : Subtopic} {read parse : String → Option α} {change : Option α → Node}

/-- A text that is carried is read by the parser of its topic. -/
theorem receiveAll_carriedText (env : Subtopic → Env) (node : Node)
    (plain : subtopic.isJson = false)
    (parsed : ∀ text, node.afterPlain (env subtopic) text subtopic = change (parse text))
    (unread : change none = node) (value : Json) :
    node.receiveAll env householdId (carriedText householdId nodeId subtopic value) =
      change (readText parse value) := by
  cases value with
  | str text => exact (receiveAll_singleton_plain env node plain text).trans (parsed text)
  | null | bool _ | int _ | float _ | arr _ | obj _ => exact unread.symm

/-- A text that is sent in the contract's spelling is read as spelled. -/
theorem receiveAll_plainMessage (env : Subtopic → Env) (node : Node)
    (plain : subtopic.isJson = false)
    (parsed : ∀ text, node.afterPlain (env subtopic) text subtopic = change (parse text))
    (unread : change none = node)
    (agrees : ∀ text value, read text = some value → parse text = some value) (value : Json) :
    node.receiveAll env householdId (plainMessage householdId nodeId subtopic read value) =
      change (readText read value) := by
  cases value with
  | str text =>
      rw [plainMessage, readText]
      cases spelled : read text with
      | none => exact unread.symm
      | some found =>
          rw [Option.isSome_some, if_pos rfl, receiveAll_singleton_plain env node plain, parsed,
            agrees text found spelled]
  | null | bool _ | int _ | float _ | arr _ | obj _ => exact unread.symm

theorem parseSecurity_of_spelled {text : String} {value : SecurityState}
    (spelled : SecurityState.ofString? text = some value) :
    (Coordinator.parseSecurity text).toOption = some value := by
  rw [← spelling_of_memberOf spelled]
  cases value <;> rfl

theorem parseBackupStatus_of_spelled {text : String} {outcome : BackupOutcome}
    (spelled : BackupOutcome.ofString? text = some outcome) :
    (Coordinator.parseBackupStatus text).toOption = some outcome := by
  rw [← spelling_of_memberOf spelled]
  cases outcome <;> rfl

/-- A lock event that is not sent would have been rejected. -/
theorem receiveAll_lockLastMessages (env : Subtopic → Env) (node : Node) (state : Dict) :
    node.receiveAll env householdId (lockLastMessages state householdId nodeId) =
      node.afterJson (env .lockLast) householdId (Json.get state "lock_last") .lockLast := by
  unfold lockLastMessages
  split
  · next members found =>
      rw [found]
      split
      · rw [receiveAll_cons, receiveAll_nil, HomeKeyMessage.ofString?_subtopic_document,
          Option.getD_some, receive_document _ _ rfl]
      · next sourceless =>
          rw [receiveAll_nil, afterJson]
          cases parsed : LockChange.fromDict (.obj members) householdId node.nodeId with
          | error reason => rfl
          | ok event =>
              obtain ⟨source, named, filled⟩ := LockChange.source_of_fromDict parsed
              exact absurd (by simp [named, Json.truthy, filled]) sourceless
  · next other =>
      cases found : Json.get state "lock_last" with
      | obj members => exact absurd found (other members)
      | null | bool _ | int _ | float _ | str _ | arr _ => rfl

/-- An authorisation that is not sent would have been rejected. -/
theorem receiveAll_lastAuthMessages (env : Subtopic → Env) (node : Node) {state : Dict}
    {messages : List HomeKeyMessage}
    (made : lastAuthMessages state householdId nodeId = .ok messages) :
    node.receiveAll env householdId messages =
      node.afterJson (env .lastAuth) householdId (Json.get state "last_auth") .lastAuth := by
  have rejected {members : Dict}
      (unknown : ∀ text, Json.get members "result" = .str text →
        (AuthResult.ofString? text).isSome = false) :
      node = node.afterJson (env .lastAuth) householdId (.obj members) .lastAuth := by
    rw [afterJson]
    cases parsed : LastAuth.fromDict (.obj members) householdId node.nodeId with
    | error reason => rfl
    | ok auth =>
        obtain ⟨text, found, known⟩ := LastAuth.result_of_fromDict parsed
        rw [unknown text found] at known
        cases known
  unfold lastAuthMessages at made
  split at made
  · next members found =>
      rw [found]
      split at made
      · next text result =>
          split at made
          · cases made
            rw [receiveAll_cons, receiveAll_nil, HomeKeyMessage.ofString?_subtopic_document,
              Option.getD_some, receive_document _ _ rfl]
          · next unknown =>
              cases made
              refine rejected fun other same => ?_
              rw [result] at same
              cases same
              simpa using unknown
      · next result odd =>
          split at made
          · cases made
            exact rejected fun text same => absurd same (odd text)
          · cases made
  · next other =>
      cases made
      cases found : Json.get state "last_auth" with
      | obj members => exact absurd found (other members)
      | null | bool _ | int _ | float _ | str _ | arr _ => rfl

/-! ### All parts -/

/-- The parts behind the identity, as they are. -/
theorem receiveAll_verbatim (env : Subtopic → Env) (node : Node) (named : node.nodeId = nodeId)
    (state : Dict) :
    node.receiveAll env householdId
        (carried householdId nodeId .health state "health" false ++
          carriedText householdId nodeId .security (Json.get state "security") ++
          carriedText householdId nodeId .backupStatus (Json.get state "backup_status") ++
          carried householdId nodeId .lastAuth state "last_auth" true) =
      node.report (mqttReading state householdId nodeId) := by
  subst named
  rw [receiveAll_append, receiveAll_append, receiveAll_append,
    receiveAll_carried env node rfl state "health" false rfl, afterJson_health,
    receiveAll_carriedText env _ rfl (afterPlain_security _ _) rfl,
    receiveAll_carriedText env _ rfl (afterPlain_backupStatus _ _) rfl,
    receiveAll_carried env _ rfl state "last_auth" true rfl, afterJson_lastAuth]
  rfl

/-- The parts behind the identity, as the direct transport passes them on. -/
theorem receiveAll_passedOn (env : Subtopic → Env) (node : Node) (named : node.nodeId = nodeId)
    {state : Dict} (health : Dict) {lastAuth : List HomeKeyMessage}
    (made : lastAuthMessages state householdId nodeId = .ok lastAuth) :
    node.receiveAll env householdId
        ([.document householdId nodeId .health (.obj (withoutSentinel health)) false] ++
          plainMessage householdId nodeId .security SecurityState.ofString?
            (Json.get state "security") ++
          plainMessage householdId nodeId .backupStatus BackupOutcome.ofString?
            (Json.get state "backup_status") ++
          lastAuth) =
      node.report (directReading state health householdId nodeId) := by
  subst named
  rw [receiveAll_append, receiveAll_append, receiveAll_append, receiveAll_cons, receiveAll_nil,
    HomeKeyMessage.ofString?_subtopic_document, Option.getD_some, receive_document _ _ rfl,
    afterJson_health,
    receiveAll_plainMessage env _ rfl (afterPlain_security _ _) rfl
      fun _ _ => parseSecurity_of_spelled,
    receiveAll_plainMessage env _ rfl (afterPlain_backupStatus _ _) rfl
      fun _ _ => parseBackupStatus_of_spelled,
    receiveAll_lastAuthMessages env _ made, afterJson_lastAuth]
  rfl

theorem report_eq (node : Node) (reading : Reading) :
    node.report reading =
      { node with
        health := reading.health <|> node.health
        lockChangeIsFresh := reading.health.isNone && node.lockChangeIsFresh
        security := reading.security <|> node.security
        backupStatus := reading.backupStatus <|> node.backupStatus
        lastAuth := reading.lastAuth <|> node.lastAuth } := rfl

/-- Equal records come from readings that agree over what was on record. -/
theorem report_eq_iff {first second : Reading} (sameAuth : first.lastAuth = second.lastAuth) :
    node.report first = node.report second ↔
      ((first.health <|> node.health) = (second.health <|> node.health) ∧
        (first.health.isNone && node.lockChangeIsFresh) =
          (second.health.isNone && node.lockChangeIsFresh)) ∧
      (first.security <|> node.security) = (second.security <|> node.security) ∧
      (first.backupStatus <|> node.backupStatus) =
        (second.backupStatus <|> node.backupStatus) := by
  constructor
  · intro same
    exact ⟨⟨congrArg Node.health same, congrArg Node.lockChangeIsFresh same⟩,
      congrArg Node.security same, congrArg Node.backupStatus same⟩
  · rintro ⟨⟨health, fresh⟩, security, backupStatus⟩
    rw [report_eq, report_eq, health, fresh, security, backupStatus, sameAuth]

/-! ### Before the health document -/

/-- The record when the health document arrives. -/
def beforeHealth (env : Subtopic → Env) (householdId : String) (node : Node)
    (state info : Dict) : Node :=
  (node.afterJson (env .lockLast) householdId (Json.get state "lock_last") .lockLast).afterJson
    (env .state) householdId (identityDocument state info householdId node.nodeId) .state

theorem beforeHealth_fields (env : Subtopic → Env) (householdId : String) (node : Node)
    (state info : Dict) :
    (node.beforeHealth env householdId state info).nodeId = node.nodeId ∧
      (node.beforeHealth env householdId state info).health = node.health ∧
      (node.beforeHealth env householdId state info).security = node.security ∧
      (node.beforeHealth env householdId state info).backupStatus = node.backupStatus ∧
      (node.beforeHealth env householdId state info).lockChangeIsFresh =
        ((LockChange.fromDict (Json.get state "lock_last") householdId node.nodeId).isOk ||
          node.lockChangeIsFresh) := by
  have event (change : LockChange) :
      (node.withEvent (env .lockLast) change).nodeId = node.nodeId ∧
        (node.withEvent (env .lockLast) change).health = node.health ∧
        (node.withEvent (env .lockLast) change).security = node.security ∧
        (node.withEvent (env .lockLast) change).backupStatus = node.backupStatus ∧
        (node.withEvent (env .lockLast) change).lockChangeIsFresh = true := by
    unfold withEvent
    dsimp only
    split <;> exact ⟨rfl, rfl, rfl, rfl, rfl⟩
  have merged (before : Node) (document : Json) :
      (before.afterJson (env .state) householdId document .state).nodeId = before.nodeId ∧
        (before.afterJson (env .state) householdId document .state).health = before.health ∧
        (before.afterJson (env .state) householdId document .state).security =
          before.security ∧
        (before.afterJson (env .state) householdId document .state).backupStatus =
          before.backupStatus ∧
        (before.afterJson (env .state) householdId document .state).lockChangeIsFresh =
          before.lockChangeIsFresh := by
    rw [afterJson]
    cases Node.fromState householdId before.nodeId document with
    | ok incoming => exact ⟨rfl, rfl, rfl, rfl, rfl⟩
    | error reason => exact ⟨rfl, rfl, rfl, rfl, rfl⟩
  unfold beforeHealth
  rw [afterJson.eq_def (env .lockLast)]
  dsimp only
  cases LockChange.fromDict (Json.get state "lock_last") householdId node.nodeId with
  | ok change =>
      obtain ⟨identity, health, security, backupStatus, fresh⟩ := event change
      obtain ⟨identity', health', security', backupStatus', fresh'⟩ :=
        merged (node.withEvent (env .lockLast) change)
          (identityDocument state info householdId node.nodeId)
      exact ⟨identity'.trans identity, health'.trans health, security'.trans security,
        backupStatus'.trans backupStatus, fresh'.trans fresh⟩
  | error reason => exact merged node (identityDocument state info householdId node.nodeId)

end Node

end HomeKeyHousehold
