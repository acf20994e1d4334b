import HomeKeyHousehold.Library.Calendar
import HomeKeyHousehold.Library.Python
import HomeKeyHousehold.Const

/-!
# Validated payload models

Every `fromDict` reads one documented payload out of a JSON value and fails
with the first `ValidationError` that the source would raise.  Absent optional
fields stay absent; nothing is coerced into a meaningful value.
-/

namespace HomeKeyHousehold

open Library

/-- Raised when a payload fails validation. -/
structure ValidationError where
  message : String
  deriving DecidableEq, Repr

/-- What a validator returns. -/
abbrev Validated (α : Type) : Type := Except ValidationError α

def invalid {α : Type} (message : String) : Validated α := .error ⟨message⟩

/-- The failures of the direct transport, by class. -/
inductive DirectError where
  | transport
  | auth
  | tlsUnavailable
  | protocol
  | noHousehold
  | fingerprintMismatch
  deriving DecidableEq, Repr

/-- An exception, as far as its class is told apart. -/
inductive Raised where
  | validation (error : ValidationError)
  | direct (error : DirectError) (message : String)
  | other
  deriving DecidableEq, Repr

/-- A validator's result inside code that may raise anything. -/
def Validated.orRaise {α : Type} (result : Validated α) : Except Raised α :=
  result.mapError Raised.validation

/-- A computation that may fail returns what its parts return. -/
theorem bind_eq_ok {ε α β : Type} {first : Except ε α} {next : α → Except ε β} {result : β} :
    (first >>= next) = .ok result ↔ ∃ value, first = .ok value ∧ next value = .ok result := by
  cases first with
  | error reason => simp [bind, Except.bind]
  | ok value => simp [bind, Except.bind]

/-- The members of a JSON object. -/
abbrev Dict : Type := List (String × Json)

/-! ## Primitive validators -/

def requireDict (data : Json) (place : String) : Validated Dict :=
  match data with
  | .obj members => .ok members
  | other => invalid (place ++ ": expected object, got " ++ other.typeName)

/-- `_require_str` with its default of refusing the empty string. -/
def requireStr (data : Dict) (key : String) : Validated String :=
  match Json.get data key with
  | .str value => if value = "" then invalid (key ++ ": must not be empty") else .ok value
  | other => invalid (key ++ ": expected string, got " ++ other.typeName)

def asOptionalStr (value : Json) (place : String) : Validated (Option String) :=
  match value with
  | .null => .ok none
  | .str value => .ok (some value)
  | other => invalid (place ++ ": expected string, got " ++ other.typeName)

def optionalStr (data : Dict) (key : String) : Validated (Option String) :=
  asOptionalStr (Json.get data key) key

def optionalBool (data : Dict) (key : String) : Validated (Option Bool) :=
  match Json.get data key with
  | .null => .ok none
  | .bool value => .ok (some value)
  | other => invalid (key ++ ": expected boolean, got " ++ other.typeName)

def optionalInt (data : Dict) (key : String) : Validated (Option Int) :=
  match Json.get data key with
  | .null => .ok none
  | .int value => .ok (some value)
  | other => invalid (key ++ ": expected integer, got " ++ other.typeName)

/-- `value or default`: an empty string counts as absent. -/
def orDefault (value : Option String) (default : String) : String :=
  match value with
  | some text => if text = "" then default else text
  | none => default

/-- The ISO text of an instant `datetime` can represent. -/
def isoOfInstant (micros : Int) (place : String) : Validated (Option String) :=
  if minInstant ≤ micros ∧ micros < endInstant then .ok (some (isoformat micros))
  else invalid (place ++ ": invalid timestamp")

/-- Epoch seconds become UTC ISO text, and a string is kept as it is. -/
def normaliseTimestamp (value : Json) (place : String) : Validated (Option String) :=
  match value with
  | .null => .ok none
  | .bool _ => invalid (place ++ ": invalid timestamp")
  -- `float(seconds)` is exact for every instant that can be represented.
  | .int seconds => isoOfInstant (seconds * microsPerSecond) place
  | .float (.finite seconds) => isoOfInstant (timestampMicros seconds) place
  | .float _ => invalid (place ++ ": invalid timestamp")
  | .str text => .ok (some text)
  | _ => invalid (place ++ ": invalid timestamp type")

/-! ## Identity -/

def identityMismatch (place field payload expected : String) : String :=
  place ++ "." ++ field ++ " does not match topic (" ++ reprString payload ++ " != " ++
    reprString expected ++ ")"

/-- One identity field that must be there and match the topic. -/
def requireIdentityField (data : Dict) (field expected place : String) : Validated Unit := do
  let payload ← requireStr data field
  if payload = expected then pure ()
  else invalid (identityMismatch place field payload expected)

/-- One identity field that must match the topic when it is there. -/
def validateIdentityField (data : Dict) (field expected place : String) : Validated Unit :=
  if (Json.lookup data field).isSome then requireIdentityField data field expected place
  else pure ()

def validateIdentity (data : Dict) (householdId nodeId place : String) : Validated Unit := do
  validateIdentityField data "household_id" householdId place
  validateIdentityField data "node_id" nodeId place

def requireIdentity (data : Dict) (householdId nodeId place : String) : Validated Unit := do
  requireIdentityField data "household_id" householdId place
  requireIdentityField data "node_id" nodeId place

/-! ## Node documents -/

/-- `B/state`. -/
structure NodeState where
  householdId : String
  nodeId : String
  nodeName : String
  nodeRole : String
  nodeState : String
  generation : Option Int
  firmwareVersion : Option String
  deriving DecidableEq

def NodeState.fromDict (payload : Json) (householdId nodeId : String) : Validated NodeState := do
  let data ← requireDict payload "state"
  requireIdentity data householdId nodeId "state"
  let nodeName ← optionalStr data "node_name"
  let nodeRole ← optionalStr data "node_role"
  let nodeState ← optionalStr data "node_state"
  let generation ← optionalInt data "generation"
  let firmwareVersion ← optionalStr data "firmware_version"
  pure
    { householdId
      nodeId
      nodeName := orDefault nodeName nodeId
      nodeRole := orDefault nodeRole nodeRoleOther
      nodeState := orDefault nodeState "UNKNOWN"
      generation
      firmwareVersion }

/-- `B/health`. -/
structure NodeHealth where
  network : String
  mqtt : String
  nfc : String
  certificate : String
  mqttError : Option Int
  lockCurrent : Option Int
  lockTarget : Option Int
  backup : Option String
  firmwareVersion : Option String
  uptime : Option Int
  freeHeap : Option Int
  resetReason : Option String
  securityAllOk : Option Bool
  securityWarnings : Option String
  deriving DecidableEq

/-- The `security` object of a health document, empty when absent. -/
def securityObject (data : Dict) : Validated Dict :=
  match Json.get data "security" with
  | .null => .ok []
  | .obj members => .ok members
  | _ => invalid "health.security: expected object"

def NodeHealth.fromDict (payload : Json) (householdId nodeId : String) :
    Validated NodeHealth := do
  let data ← requireDict payload "health"
  validateIdentity data householdId nodeId "health"
  let security ← securityObject data
  let network ← optionalStr data "network"
  let mqtt ← requireStr data "mqtt"
  let nfc ← optionalStr data "nfc"
  let certificate ← optionalStr data "certificate"
  let mqttError ← optionalInt data "mqtt_error"
  let lockCurrent ← optionalInt data "lock_current"
  let lockTarget ← optionalInt data "lock_target"
  let backup ← optionalStr data "backup"
  let firmwareVersion ← optionalStr data "firmware_version"
  let uptime ← optionalInt data "uptime"
  let freeHeap ← optionalInt data "free_heap"
  let resetReason ← asOptionalStr (Json.get data "reset_reason") "reset_reason"
  let securityAllOk ← optionalBool security "all_ok"
  let securityWarnings ← asOptionalStr (Json.get security "warnings") "security.warnings"
  pure
    { network := orDefault network "UNKNOWN"
      mqtt
      nfc := orDefault nfc "unknown"
      certificate := orDefault certificate "unknown"
      mqttError
      lockCurrent
      lockTarget
      backup
      firmwareVersion
      uptime
      freeHeap
      resetReason
      securityAllOk
      securityWarnings }

/-- `NodeHealth.lock_current_state`. -/
def NodeHealth.lockCurrentState (health : NodeHealth) : Option LockState :=
  health.lockCurrent.map lockStateMap

/-- `B/backup/last`. -/
structure BackupRecord where
  status : BackupOutcome
  timestamp : Option String
  deriving DecidableEq

def BackupRecord.fromDict (payload : Json) (householdId nodeId : String) :
    Validated BackupRecord := do
  let data ← requireDict payload "backup/last"
  validateIdentity data householdId nodeId "backup/last"
  let status ← requireStr data "status"
  match BackupOutcome.ofString? status with
  | none => invalid ("backup/last.status: unknown value " ++ reprString status)
  | some status =>
      let timestamp ← normaliseTimestamp (Json.get data "timestamp") "backup/last.timestamp"
      pure { status, timestamp }

/-- `B/last_auth`. -/
structure LastAuth where
  authType : String
  result : AuthResult
  timestamp : Option String
  issuer : Option String
  deriving DecidableEq

def LastAuth.fromDict (payload : Json) (householdId nodeId : String) : Validated LastAuth := do
  let data ← requireDict payload "last_auth"
  validateIdentity data householdId nodeId "last_auth"
  let result ← requireStr data "result"
  match AuthResult.ofString? result with
  | none => invalid ("last_auth.result: unknown value " ++ reprString result)
  | some result =>
      let authType ← optionalStr data "type"
      let timestamp ← normaliseTimestamp (Json.get data "timestamp") "last_auth.timestamp"
      let issuer ← optionalStr data "issuer"
      pure { authType := orDefault authType "HomeKey", result, timestamp, issuer }

/-- `B/lock/last`: what changed the lock, and to what. -/
structure LockChange where
  current : Int
  source : LockSource
  target : Option Int
  timestamp : Option String
  deriving DecidableEq

def LockChange.fromDict (payload : Json) (householdId nodeId : String) :
    Validated LockChange := do
  let data ← requireDict payload "lock/last"
  validateIdentity data householdId nodeId "lock/last"
  match ← optionalInt data "current" with
  | none => invalid "lock/last.current: missing"
  | some current =>
      let source ← optionalStr data "source"
      match source.bind LockSource.ofString? with
      | none => invalid ("lock/last.source: unknown value " ++ reprOption source)
      | some source =>
          let target ← optionalInt data "target"
          let timestamp ← normaliseTimestamp (Json.get data "timestamp") "lock/last.timestamp"
          pure { current, source, target, timestamp }

/-! ## Guest tags -/

structure GuestTag where
  tagId : String
  uid : String
  label : String
  enabled : Bool
  validFrom : Int
  validUntil : Int
  lastUsedAt : Int
  useCount : Int
  deriving DecidableEq

def GuestTag.fromDict (payload : Json) : Validated GuestTag := do
  let data ← requireDict payload "guest tag"
  let tagId ← requireStr data "tag_id"
  let uid ← optionalStr data "uid"
  let label ← optionalStr data "label"
  let enabled ← optionalBool data "enabled"
  let validFrom ← optionalInt data "valid_from"
  let validUntil ← optionalInt data "valid_until"
  let lastUsedAt ← optionalInt data "last_used_at"
  let useCount ← optionalInt data "use_count"
  pure
    { tagId
      uid := uid.getD ""
      label := label.getD ""
      enabled := enabled ≠ some false
      validFrom := validFrom.getD 0
      validUntil := validUntil.getD 0
      lastUsedAt := lastUsedAt.getD 0
      useCount := useCount.getD 0 }

/-- `B/guest/status`. -/
structure GuestState where
  enabled : Bool
  defaultValiditySeconds : Int
  capacity : Int
  count : Int
  wallClock : Int
  tags : List GuestTag
  writeArmed : Bool
  canWrite : Option Bool
  lastWriteResult : Option String
  lastWriteMessage : Option String
  deriving DecidableEq

/-- The tags of a guest document, none when absent. -/
def guestTags (data : Dict) : Validated (List GuestTag) :=
  match Json.get data "tags" with
  | .null => .ok []
  | .arr items => items.mapM GuestTag.fromDict
  | _ => invalid "guest/status.tags: expected a list"

/-- The card writer's part of a guest document, empty unless it is an object. -/
def guestWrite (data : Dict) : Dict :=
  match Json.get data "write" with
  | .obj members => members
  | _ => []

def GuestState.fromDict (payload : Json) : Validated GuestState := do
  let data ← requireDict payload "guest/status"
  let tags ← guestTags data
  let write := guestWrite data
  let canWrite ← optionalBool write "can_write"
  let enabled ← optionalBool data "enabled"
  let defaultValiditySeconds ← optionalInt data "default_validity_seconds"
  let capacity ← optionalInt data "capacity"
  let count ← optionalInt data "count"
  let wallClock ← optionalInt data "wall_clock"
  let writeArmed ← optionalBool write "armed"
  let lastWriteResult ← optionalStr write "last_result"
  let lastWriteMessage ← optionalStr write "last_message"
  pure
    { enabled := enabled = some true
      defaultValiditySeconds := defaultValiditySeconds.getD 0
      capacity := capacity.getD 0
      count := count.getD 0
      wallClock := wallClock.getD 0
      tags
      writeArmed := writeArmed = some true
      canWrite
      lastWriteResult
      lastWriteMessage }

/-! ## Nodes -/

/-- `(timestamp, current, source)`: the identity of a lock event. -/
structure LockChangeKey where
  timestamp : Option String
  current : Int
  source : LockSource
  deriving DecidableEq

def LockChange.key (change : LockChange) : LockChangeKey :=
  ⟨change.timestamp, change.current, change.source⟩

/-- The state kept for one node. -/
structure Node where
  nodeId : String
  householdId : String
  nodeName : String
  nodeRole : String := nodeRoleOther
  nodeState : String := "UNKNOWN"
  generation : Option Int := none
  firmware : Option String := none
  online : Bool := false
  lwtOnline : Option Bool := none
  lastSeen : Option String := none
  health : Option NodeHealth := none
  security : Option SecurityState := none
  backupStatus : Option BackupOutcome := none
  backup : Option BackupRecord := none
  lastAuth : Option LastAuth := none
  guest : Option GuestState := none
  lockChange : Option LockChange := none
  lockChangeIsFresh : Bool := false
  attributedLockChange : Option LockChangeKey := none
  deriving DecidableEq

namespace Node

/-- A node known only by its id, which is then also its name. -/
def ofId (householdId nodeId : String) : Node :=
  { nodeId, householdId, nodeName := nodeId }

/-- `Node.from_state`; the parsed name is never empty unless the id is, so
`__post_init__` has nothing to replace. -/
def fromState (householdId nodeId : String) (payload : Json) : Validated Node := do
  let state ← NodeState.fromDict payload householdId nodeId
  pure
    { nodeId
      householdId
      nodeName := state.nodeName
      nodeRole := state.nodeRole
      nodeState := state.nodeState
      generation := state.generation
      firmware := state.firmwareVersion }

def lockChangeKey (node : Node) : Option LockChangeKey := node.lockChange.map LockChange.key

/-- The lock's state, from the freshest report of it. -/
def lockState (node : Node) : LockState :=
  match node.lockChangeIsFresh, node.lockChange with
  | true, some change => lockStateMap change.current
  | _, _ =>
      match node.health with
      | none => .unknown
      | some health => health.lockCurrentState.getD .unknown

/-- Online, and not declared offline by the shared broker will. -/
def available (node : Node) : Bool := node.online && node.lwtOnline ≠ some false

theorem nodeId_of_fromState {householdId nodeId : String} {payload : Json} {node : Node}
    (parsed : fromState householdId nodeId payload = .ok node) : node.nodeId = nodeId := by
  unfold fromState at parsed
  cases document : NodeState.fromDict payload householdId nodeId with
  | error reason => simp [document, bind, Except.bind] at parsed
  | ok state =>
      simp only [document, bind, Except.bind, pure, Except.pure, Except.ok.injEq] at parsed
      rw [← parsed]

end Node

end HomeKeyHousehold
