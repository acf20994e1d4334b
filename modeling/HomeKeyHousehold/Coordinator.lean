import HomeKeyHousehold.Library.Keyed
import HomeKeyHousehold.Mqtt
import Mathlib.Data.Finset.Insert

/-!
# The coordinator

The single writer of household state.  A message is decoded once, dispatched on
its subtopic, merged into its node, and then published to the entities.  What
changed the lock is written to the logbook on the way.

Nodes are values here; the source pools the same objects it mutates, and every
branch that mutates one pools again.
-/

namespace HomeKeyHousehold

open Library

/-! ## The world around one message -/

/-- What Home Assistant contributes while one message is handled. -/
structure Env where
  /-- The clock, in microseconds since the epoch. -/
  now : Int
  /-- `dt_util.parse_datetime`, which raises on a well-formed impossible date. -/
  parseDatetime : String → Except Unit (Option Datetime)
  /-- Whether the logbook can be imported and takes the entry. -/
  logbookWorks : Bool
  /-- `_lock_entity_id`: the registered lock entity of a node. -/
  lockEntityId : String → Option String
  /-- Whether an entity raises while the update is delivered. -/
  listenersRaise : Bool

/-- `_WALL_CLOCK_FLOOR`: 2001-09-09. -/
def wallClockFloor : Int := 999993600 * microsPerSecond

/-- `_is_recent`: whether a stamp is close enough to now to be announced. -/
def isRecent (env : Env) (timestamp : Option String) : Except Unit Bool :=
  match timestamp with
  | none => .ok true
  | some text =>
      match env.parseDatetime text with
      | .error raised => .error raised
      | .ok none => .ok true
      | .ok (some parsed) =>
          if parsed.instant < wallClockFloor then .ok true
          else .ok (env.now - parsed.instant ≤ lockEventMaxAgeSeconds * microsPerSecond)

/-- A call of `async_log_entry`, with the cause it describes. -/
structure LogbookEntry where
  name : String
  message : String
  domain : String
  entityId : Option String
  context : Nat
  nodeId : String
  cause : LockChangeKey
  actor : String
  writtenAt : Int
  deriving DecidableEq

/-! ## State -/

/-- A cause handed to the entities of a node: a context, by its serial number. -/
abbrev PendingContext : Type := String × Nat

structure Coordinator where
  householdId : String
  nodes : Keyed Node.nodeId
  knownNodeIds : Finset String
  pendingContexts : Keyed (Prod.fst : PendingContext → String)
  /-- `hass.data[_pool_key]`. -/
  pool : Option (Keyed Node.nodeId)
  logbook : List LogbookEntry
  /-- How many contexts have been made. -/
  contexts : Nat

namespace Coordinator

/-- A new coordinator, with the pooled nodes reattached. -/
def new (householdId : String) (pool : Option (Keyed Node.nodeId) := none) : Coordinator :=
  let pooled := pool.getD .empty
  { householdId
    nodes := pooled
    knownNodeIds := pooled.keys.toFinset
    pendingContexts := .empty
    pool
    logbook := []
    contexts := 0 }

def getNode (coordinator : Coordinator) (nodeId : String) : Option Node :=
  coordinator.nodes.get? nodeId

def putNode (coordinator : Coordinator) (node : Node) : Coordinator :=
  { coordinator with nodes := coordinator.nodes.put node }

/-- `_ensure_node`: the node of an id, registered if it is new. -/
def ensureNode (coordinator : Coordinator) (nodeId : String) : Coordinator × Node :=
  match coordinator.getNode nodeId with
  | some node => (coordinator, node)
  | none =>
      let node := Node.ofId coordinator.householdId nodeId
      ({ coordinator.putNode node with
          knownNodeIds := insert nodeId coordinator.knownNodeIds }, node)

/-- `_merge_node`: a state payload over what is known of its node. -/
def mergeNode (coordinator : Coordinator) (incoming : Node) : Coordinator :=
  match coordinator.getNode incoming.nodeId with
  | none =>
      { coordinator.putNode incoming with
        knownNodeIds := insert incoming.nodeId coordinator.knownNodeIds }
  | some existing =>
      coordinator.putNode
        { existing with
          nodeName := incoming.nodeName
          nodeRole := incoming.nodeRole
          nodeState := incoming.nodeState
          generation := incoming.generation <|> existing.generation
          firmware := incoming.firmware <|> existing.firmware }

variable {coordinator : Coordinator} {nodeId : String}

@[simp]
theorem getNode_putNode (coordinator : Coordinator) (node : Node) (nodeId : String) :
    (coordinator.putNode node).getNode nodeId =
      if nodeId = node.nodeId then some node else coordinator.getNode nodeId :=
  Keyed.get?_put coordinator.nodes node nodeId

@[simp]
theorem ensureNode_nodeId (coordinator : Coordinator) (nodeId : String) :
    (coordinator.ensureNode nodeId).2.nodeId = nodeId := by
  unfold ensureNode
  split
  · next node known => exact Keyed.key_of_get? known
  · rfl

theorem ensureNode_of_known {node : Node}
    (known : coordinator.getNode nodeId = some node) :
    coordinator.ensureNode nodeId = (coordinator, node) := by
  rw [ensureNode, known]

@[simp]
theorem getNode_ensureNode_self (coordinator : Coordinator) (nodeId : String) :
    (coordinator.ensureNode nodeId).1.getNode nodeId =
      some (coordinator.ensureNode nodeId).2 := by
  unfold ensureNode
  split
  · next node known => exact known
  · exact Keyed.get?_put_self coordinator.nodes (Node.ofId coordinator.householdId nodeId)

/-! ## Attribution -/

/-- `_actor_for`: the person a HomeKey tap names, or else the mechanism. -/
def actorFor (node : Node) (source : LockSource) (changeTimestamp : Option String) : String :=
  match source, node.lastAuth with
  | .homekey, some auth =>
      match auth.issuer, auth.timestamp with
      | some issuer, some timestamp =>
          if issuer ≠ "" ∧ changeTimestamp = some timestamp then issuer else source.label
      | _, _ => source.label
  | _, _ => source.label

/-- The entry `_async_log_lock_cause` writes. -/
def lockCauseEntry (env : Env) (node : Node) (cause : LockChangeKey) (context : Nat) :
    LogbookEntry :=
  let actor := actorFor node cause.source cause.timestamp
  let mechanism := cause.source.label
  let attribution := if actor = mechanism then actor else actor ++ " with " ++ mechanism
  { name := "HomeKey"
    message := node.nodeName ++ " " ++ (lockStateMap cause.current).spelling ++ " by " ++
      attribution
    domain := "homekey_household"
    entityId := env.lockEntityId node.nodeId
    context
    nodeId := node.nodeId
    cause
    actor
    writtenAt := env.now }

/-- Make a context for a cause, hand it to the node's entities, and write the
logbook entry if the logbook works. -/
def announce (env : Env) (coordinator : Coordinator) (node : Node) (cause : LockChangeKey) :
    Coordinator :=
  let context := coordinator.contexts
  { coordinator with
    contexts := context + 1
    pendingContexts := coordinator.pendingContexts.put (node.nodeId, context)
    logbook :=
      if env.logbookWorks then
        coordinator.logbook ++ [lockCauseEntry env node cause context]
      else coordinator.logbook }

/-- `_attribute_lock_change`: the cause of a change a health snapshot shows. -/
def attributeLockChange (env : Env) (coordinator : Coordinator) (node : Node)
    (previousCurrent : Option Int) (health : NodeHealth) : Coordinator :=
  match previousCurrent, health.lockCurrent, node.lockChange with
  | some previous, some current, some change =>
      if current = previous then coordinator
      else if change.current ≠ current then coordinator
      else if node.attributedLockChange = some change.key then coordinator
      else if change.source.isDeviceInitiated then
        coordinator.announce env node change.key
      else coordinator
  | _, _, _ => coordinator

/-- `_attribute_lock_event`: the cause of a change, when the node reports it. -/
def attributeLockEvent (env : Env) (coordinator : Coordinator) (node : Node)
    (change : LockChange) : Coordinator :=
  if change.source.isDeviceInitiated then
    if node.attributedLockChange = some change.key then coordinator
    else
      match isRecent env change.timestamp with
      | .ok true =>
          (coordinator.putNode
            { node with attributedLockChange := some change.key }).announce env node change.key
      | _ => coordinator
  else coordinator

/-! ## Handlers -/

/-- The state a handler leaves behind, and what it raised. -/
structure Handled where
  coordinator : Coordinator
  raised : Option Raised

/-- Go on with a validated value, or stop with the state as it is. -/
def orReject {α : Type} (coordinator : Coordinator) (result : Validated α)
    (accept : α → Coordinator) : Handled :=
  match result with
  | .ok value => ⟨accept value, none⟩
  | .error reason => ⟨coordinator, some (.validation reason)⟩

/-- `online` or `offline`, in any case and padding. -/
def parseOnline (payload place : String) : Validated Bool :=
  let value := lower (strip payload)
  if value = "online" then .ok true
  else if value = "offline" then .ok false
  else invalid (place ++ ": unexpected payload " ++ reprString payload)

@[simp]
theorem parseOnline_online (place : String) : parseOnline "online" place = .ok true := by
  rfl

@[simp]
theorem parseOnline_offline (place : String) : parseOnline "offline" place = .ok false := by
  rfl

def nowIso (env : Env) : String := isoformat env.now

def handleNodeStatus (env : Env) (coordinator : Coordinator) (nodeId payload : String) :
    Handled :=
  coordinator.orReject (parseOnline payload "status") fun online =>
    let (coordinator, node) := coordinator.ensureNode nodeId
    coordinator.putNode { node with online, lastSeen := some (nowIso env) }

/-- The broker will never registers a node of its own. -/
def handleLegacyStatus (env : Env) (coordinator : Coordinator) (nodeId payload : String) :
    Handled :=
  coordinator.orReject (parseOnline payload "legacy status") fun online =>
    match coordinator.getNode nodeId with
    | none => coordinator
    | some node =>
        coordinator.putNode
          { node with
            lwtOnline := some online
            lastSeen := if online then some (nowIso env) else node.lastSeen }

def parseSecurity (payload : String) : Validated SecurityState :=
  match SecurityState.ofString? (strip payload) with
  | some value => .ok value
  | none => invalid ("security: unknown value " ++ reprString (strip payload))

def handleSecurity (coordinator : Coordinator) (nodeId payload : String) : Handled :=
  coordinator.orReject (parseSecurity payload) fun value =>
    let (coordinator, node) := coordinator.ensureNode nodeId
    coordinator.putNode { node with security := some value }

def parseBackupStatus (payload : String) : Validated BackupOutcome :=
  let value := lower (strip payload)
  match BackupOutcome.ofString? value with
  | some outcome => .ok outcome
  | none => invalid ("backup/status: unknown value " ++ reprString value)

def handleBackupStatus (coordinator : Coordinator) (nodeId payload : String) : Handled :=
  coordinator.orReject (parseBackupStatus payload) fun outcome =>
    let (coordinator, node) := coordinator.ensureNode nodeId
    coordinator.putNode { node with backupStatus := some outcome }

def handleState (coordinator : Coordinator) (nodeId : String) (payload : Json) : Handled :=
  coordinator.orReject (Node.fromState coordinator.householdId nodeId payload)
    coordinator.mergeNode

/-- The node is registered before its payload is parsed. -/
def handleHealth (env : Env) (coordinator : Coordinator) (nodeId : String) (payload : Json) :
    Handled :=
  let (ensured, node) := coordinator.ensureNode nodeId
  let previousCurrent := node.health.bind NodeHealth.lockCurrent
  ensured.orReject (NodeHealth.fromDict payload coordinator.householdId nodeId) fun health =>
    let node := { node with health := some health, lockChangeIsFresh := false }
    (ensured.putNode node).attributeLockChange env node previousCurrent health

/-- The node is registered before its payload is parsed. -/
def handleLockLast (env : Env) (coordinator : Coordinator) (nodeId : String) (payload : Json) :
    Handled :=
  let (ensured, node) := coordinator.ensureNode nodeId
  ensured.orReject (LockChange.fromDict payload coordinator.householdId nodeId) fun change =>
    let node := { node with lockChange := some change, lockChangeIsFresh := true }
    (ensured.putNode node).attributeLockEvent env node change

def handleBackupLast (coordinator : Coordinator) (nodeId : String) (payload : Json) : Handled :=
  coordinator.orReject (BackupRecord.fromDict payload coordinator.householdId nodeId)
    fun record =>
      let (coordinator, node) := coordinator.ensureNode nodeId
      coordinator.putNode { node with backup := some record }

def handleLastAuth (coordinator : Coordinator) (nodeId : String) (payload : Json) : Handled :=
  coordinator.orReject (LastAuth.fromDict payload coordinator.householdId nodeId) fun auth =>
    let (coordinator, node) := coordinator.ensureNode nodeId
    coordinator.putNode { node with lastAuth := some auth }

def handleGuestStatus (coordinator : Coordinator) (nodeId : String) (payload : Json) : Handled :=
  coordinator.orReject (GuestState.fromDict payload) fun guest =>
    let (coordinator, node) := coordinator.ensureNode nodeId
    coordinator.putNode { node with guest := some guest }

/-- Pool the state, deliver the update, and drop the causes it carried. -/
def finishUpdate (env : Env) (coordinator : Coordinator) : Handled :=
  let pooled := { coordinator with pool := some coordinator.nodes }
  if env.listenersRaise then ⟨pooled, some .other⟩
  else ⟨{ pooled with pendingContexts := .empty }, none⟩

/-- An update is finished only when its handler did not raise. -/
def Handled.finish (env : Env) (handled : Handled) : Handled :=
  match handled.raised with
  | none => handled.coordinator.finishUpdate env
  | some _ => handled

/-- `_decode_json`. -/
def decodeJson (payload : String) : Validated Json :=
  match Json.loads payload with
  | some value => .ok value
  | none => invalid "payload: invalid JSON"

/-- The branch of a subtopic whose payload is plain text. -/
def handlePlain (env : Env) (coordinator : Coordinator) (nodeId payload : String) :
    Subtopic → Handled
  | .legacyStatus => coordinator.handleLegacyStatus env nodeId payload
  | .status => coordinator.handleNodeStatus env nodeId payload
  | .security => coordinator.handleSecurity nodeId payload
  | .backupStatus => coordinator.handleBackupStatus nodeId payload
  | _ => ⟨coordinator, none⟩

/-- The branch of a subtopic whose payload is a JSON document. -/
def handleJson (env : Env) (coordinator : Coordinator) (nodeId : String) (payload : Json) :
    Subtopic → Handled
  | .state => coordinator.handleState nodeId payload
  | .health => coordinator.handleHealth env nodeId payload
  | .lockLast => coordinator.handleLockLast env nodeId payload
  | .backupLast => coordinator.handleBackupLast nodeId payload
  | .lastAuth => coordinator.handleLastAuth nodeId payload
  | .guestStatus => coordinator.handleGuestStatus nodeId payload
  | _ => ⟨coordinator, none⟩

/-- The node a message names; an empty id names none. -/
def namedNode (message : HomeKeyMessage) : Option String :=
  message.nodeId.filter fun nodeId => nodeId ≠ ""

/-- `_dispatch`. -/
def dispatch (env : Env) (coordinator : Coordinator) (message : HomeKeyMessage) : Handled :=
  match Subtopic.ofString? message.subtopic with
  | none => ⟨coordinator, none⟩
  | some subtopic =>
      if subtopic.isJson then
        match decodeJson message.payload with
        | .error reason => ⟨coordinator, some (.validation reason)⟩
        | .ok payload =>
            match namedNode message with
            | none => ⟨coordinator, none⟩
            | some nodeId => (coordinator.handleJson env nodeId payload subtopic).finish env
      else
        match namedNode message with
        | none => ⟨coordinator, none⟩
        | some nodeId =>
            (coordinator.handlePlain env nodeId message.payload subtopic).finish env

/-- `async_handle_message`, with the exception it logs. -/
def asyncHandleMessage (env : Env) (coordinator : Coordinator) (message : HomeKeyMessage) :
    Handled :=
  if message.householdId = coordinator.householdId then coordinator.dispatch env message
  else ⟨coordinator, none⟩

/-! ## Messages that are handled -/

variable {message : HomeKeyMessage} {subtopic : Subtopic}

theorem namedNode_eq_some {message : HomeKeyMessage} {nodeId : String}
    (addressed : message.nodeId = some nodeId) (named : nodeId ≠ "") :
    namedNode message = some nodeId := by
  simp [namedNode, addressed, Option.filter, named]

/-- A JSON message about a node reaches the branch of its subtopic. -/
theorem asyncHandleMessage_json (env : Env) (home : message.householdId = coordinator.householdId)
    (addressed : message.nodeId = some nodeId) (named : nodeId ≠ "")
    (spelled : message.subtopic = subtopic.spelling) (json : subtopic.isJson = true)
    {payload : Json} (loaded : Json.loads message.payload = some payload) :
    coordinator.asyncHandleMessage env message =
      (coordinator.handleJson env nodeId payload subtopic).finish env := by
  rw [asyncHandleMessage, if_pos home, dispatch, spelled, Subtopic.ofString?_spelling]
  dsimp only
  rw [if_pos json, decodeJson, loaded, namedNode_eq_some addressed named]

/-- A document about a node reaches the branch of its subtopic. -/
theorem asyncHandleMessage_document (env : Env) (coordinator : Coordinator) (named : nodeId ≠ "")
    (json : subtopic.isJson = true) (document : Json) (retain : Bool) :
    coordinator.asyncHandleMessage env
        (.document coordinator.householdId nodeId subtopic document retain) =
      (coordinator.handleJson env nodeId document subtopic).finish env :=
  asyncHandleMessage_json env rfl rfl named rfl json (Json.loads_dumps document)

/-- A plain message about a node reaches the branch of its subtopic. -/
theorem asyncHandleMessage_plain (env : Env) (home : message.householdId = coordinator.householdId)
    (addressed : message.nodeId = some nodeId) (named : nodeId ≠ "")
    (spelled : message.subtopic = subtopic.spelling) (plain : subtopic.isJson = false) :
    coordinator.asyncHandleMessage env message =
      (coordinator.handlePlain env nodeId message.payload subtopic).finish env := by
  rw [asyncHandleMessage, if_pos home, dispatch, spelled, Subtopic.ofString?_spelling]
  dsimp only
  rw [plain, if_neg Bool.false_ne_true, namedNode_eq_some addressed named]

/-! ## What the handlers leave alone -/

/-- A part of the coordinator that is neither the registry nor the known ids. -/
structure Framed {α : Type} (part : Coordinator → α) : Prop where
  putNode : ∀ coordinator node, part (coordinator.putNode node) = part coordinator
  known : ∀ coordinator ids,
    part { coordinator with knownNodeIds := ids } = part coordinator

namespace Framed

variable {α β : Type} {part : Coordinator → α} {env : Env}

theorem ensureNode (framed : Framed part) (coordinator : Coordinator) (nodeId : String) :
    part (coordinator.ensureNode nodeId).1 = part coordinator := by
  unfold Coordinator.ensureNode
  split
  · rfl
  · exact (framed.known _ _).trans (framed.putNode _ _)

theorem mergeNode (framed : Framed part) (coordinator : Coordinator) (incoming : Node) :
    part (coordinator.mergeNode incoming) = part coordinator := by
  unfold Coordinator.mergeNode
  split
  · exact (framed.known _ _).trans (framed.putNode _ _)
  · exact framed.putNode _ _

/-- A node that is registered and then written. -/
theorem update (framed : Framed part) (coordinator : Coordinator) (nodeId : String) (node : Node) :
    part ((coordinator.ensureNode nodeId).1.putNode node) = part coordinator :=
  (framed.putNode _ _).trans (framed.ensureNode coordinator nodeId)

theorem orReject {base : Coordinator} {result : Validated β} {accept : β → Coordinator}
    (kept : part base = part coordinator)
    (accepted : ∀ value, part (accept value) = part coordinator) :
    part (base.orReject result accept).coordinator = part coordinator := by
  cases result with
  | ok value => exact accepted value
  | error reason => exact kept

/-- Plain messages write nodes only. -/
theorem handlePlain (framed : Framed part) (coordinator : Coordinator) (nodeId payload : String)
    (subtopic : Subtopic) :
    part (coordinator.handlePlain env nodeId payload subtopic).coordinator =
      part coordinator := by
  cases subtopic with
  | legacyStatus =>
      rw [Coordinator.handlePlain, handleLegacyStatus]
      refine orReject rfl fun online => ?_
      split
      · rfl
      · exact framed.putNode _ _
  | status =>
      rw [Coordinator.handlePlain, handleNodeStatus]
      exact orReject rfl fun online => framed.update coordinator nodeId _
  | security =>
      rw [Coordinator.handlePlain, handleSecurity]
      exact orReject rfl fun value => framed.update coordinator nodeId _
  | backupStatus =>
      rw [Coordinator.handlePlain, handleBackupStatus]
      exact orReject rfl fun outcome => framed.update coordinator nodeId _
  | state | health | lockLast | backupLast | lastAuth | guestStatus => rfl

/-- So do documents that say nothing about the lock. -/
theorem handleJson (framed : Framed part) (coordinator : Coordinator) (nodeId : String)
    (payload : Json) {subtopic : Subtopic} (unsampled : subtopic ≠ .health)
    (eventless : subtopic ≠ .lockLast) :
    part (coordinator.handleJson env nodeId payload subtopic).coordinator =
      part coordinator := by
  cases subtopic with
  | health => exact absurd rfl unsampled
  | lockLast => exact absurd rfl eventless
  | state =>
      rw [Coordinator.handleJson, handleState]
      exact orReject rfl fun incoming => framed.mergeNode coordinator incoming
  | backupLast =>
      rw [Coordinator.handleJson, handleBackupLast]
      exact orReject rfl fun record => framed.update coordinator nodeId _
  | lastAuth =>
      rw [Coordinator.handleJson, handleLastAuth]
      exact orReject rfl fun auth => framed.update coordinator nodeId _
  | guestStatus =>
      rw [Coordinator.handleJson, handleGuestStatus]
      exact orReject rfl fun guest => framed.update coordinator nodeId _
  | legacyStatus | status | security | backupStatus => rfl

end Framed

end Coordinator

end HomeKeyHousehold
