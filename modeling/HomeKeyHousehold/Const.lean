import HomeKeyHousehold.Library.Json

/-!
# Constants of the household contract

The words of the firmware contract: subtopics, enumerations and their numeric
lock states, and the bounds the integration uses.  An enumeration is read from
text by looking for the member that is spelled so.
-/

namespace HomeKeyHousehold

/-- The member of an enumeration with the given spelling. -/
def memberOf {α : Type} (members : List α) (spelling : α → String) (text : String) :
    Option α :=
  members.find? fun member => spelling member = text

theorem spelling_of_memberOf {α : Type} {members : List α} {spelling : α → String}
    {text : String} {member : α} (found : memberOf members spelling text = some member) :
    spelling member = text := by
  have matched := List.find?_some found
  exact of_decide_eq_true matched

/-! ## Topics -/

def topicRoot : String := "homekey"
def topicHousehold : String := "household"
def topicSubscribeAll : String := topicRoot ++ "/" ++ topicHousehold ++ "/#"
def topicNodes : String := "nodes"
def topicCmdLock : String := "command/lock"
def topicCmdUnlock : String := "command/unlock"

/-- The subtopics a coordinator dispatches on. -/
inductive Subtopic where
  | legacyStatus
  | status
  | state
  | health
  | lockLast
  | security
  | backupStatus
  | backupLast
  | lastAuth
  | guestStatus
  deriving DecidableEq, Repr

namespace Subtopic

def all : List Subtopic :=
  [legacyStatus, status, state, health, lockLast, security, backupStatus, backupLast, lastAuth,
    guestStatus]

def spelling : Subtopic → String
  | legacyStatus => "legacy_status"
  | status => "status"
  | state => "state"
  | health => "health"
  | lockLast => "lock/last"
  | security => "security"
  | backupStatus => "backup/status"
  | backupLast => "backup/last"
  | lastAuth => "last_auth"
  | guestStatus => "guest/status"

def ofString? (text : String) : Option Subtopic := memberOf all spelling text

/-- `JSON_SUBTOPICS`: the subtopics whose payload is a JSON object. -/
def isJson : Subtopic → Bool
  | state | health | backupLast | lastAuth | lockLast | guestStatus => true
  | legacyStatus | status | security | backupStatus => false

@[simp]
theorem ofString?_spelling (subtopic : Subtopic) :
    ofString? subtopic.spelling = some subtopic := by
  cases subtopic <;> decide

theorem spelling_injective : Function.Injective spelling := by
  intro first second same
  have found := congrArg ofString? same
  rwa [ofString?_spelling, ofString?_spelling, Option.some.injEq] at found

theorem spelling_of_ofString? {text : String} {subtopic : Subtopic}
    (found : ofString? text = some subtopic) : subtopic.spelling = text :=
  spelling_of_memberOf found

end Subtopic

/-- `node_base`: the base topic of a node. -/
def nodeBase (householdId nodeId : String) : String :=
  topicRoot ++ "/" ++ topicHousehold ++ "/" ++ householdId ++ "/" ++ topicNodes ++ "/" ++ nodeId

/-- `node_topic` with a subtopic. -/
def nodeTopic (householdId nodeId subtopic : String) : String :=
  nodeBase householdId nodeId ++ "/" ++ subtopic

/-! ## Enumerations -/

inductive LockState where
  | unlocked
  | locked
  | jammed
  | unknown
  | unlocking
  | locking
  deriving DecidableEq, Repr

def LockState.spelling : LockState → String
  | .unlocked => "unlocked"
  | .locked => "locked"
  | .jammed => "jammed"
  | .unknown => "unknown"
  | .unlocking => "unlocking"
  | .locking => "locking"

/-- `LOCK_STATE_MAP.get(current, LockState.UNKNOWN)`. -/
def lockStateMap (current : Int) : LockState :=
  if current = 0 then .unlocked
  else if current = 1 then .locked
  else if current = 2 then .jammed
  else if current = 3 then .unknown
  else if current = 4 then .unlocking
  else if current = 5 then .locking
  else .unknown

inductive SecurityState where
  | ok
  | warning
  | error
  deriving DecidableEq, Repr

def SecurityState.spelling : SecurityState → String
  | .ok => "OK"
  | .warning => "WARNING"
  | .error => "ERROR"

def SecurityState.ofString? : String → Option SecurityState :=
  memberOf [.ok, .warning, .error] SecurityState.spelling

inductive BackupOutcome where
  | completed
  | failed
  deriving DecidableEq, Repr

def BackupOutcome.spelling : BackupOutcome → String
  | .completed => "completed"
  | .failed => "failed"

def BackupOutcome.ofString? : String → Option BackupOutcome :=
  memberOf [.completed, .failed] BackupOutcome.spelling

inductive AuthResult where
  | success
  | failure
  deriving DecidableEq, Repr

def AuthResult.spelling : AuthResult → String
  | .success => "SUCCESS"
  | .failure => "FAILURE"

def AuthResult.ofString? : String → Option AuthResult :=
  memberOf [.success, .failure] AuthResult.spelling

/-- What asked for a lock change. -/
inductive LockSource where
  | homekit
  | homekey
  | mqtt
  | api
  | device
  | unknown
  deriving DecidableEq, Repr

namespace LockSource

def spelling : LockSource → String
  | homekit => "homekit"
  | homekey => "homekey"
  | mqtt => "mqtt"
  | api => "api"
  | device => "device"
  | unknown => "unknown"

def ofString? : String → Option LockSource :=
  memberOf [homekit, homekey, mqtt, api, device, unknown] spelling

/-- `DEVICE_INITIATED_SOURCES`: changes Home Assistant did not ask for. -/
def isDeviceInitiated : LockSource → Bool
  | homekit | homekey | device => true
  | mqtt | api | unknown => false

/-- `LOCK_SOURCE_LABELS`. -/
def label : LockSource → String
  | homekit => "HomeKit"
  | homekey => "a HomeKey credential"
  | device => "the device"
  | mqtt => "MQTT"
  | api => "the device API"
  | unknown => "an unknown source"

end LockSource

/-- `NodeRole.OTHER`, the role of a node that states none. -/
def nodeRoleOther : String := "other"

/-! ## Commands -/

/-- The two lock actions. -/
inductive Action where
  | lock
  | unlock
  deriving DecidableEq, Repr

namespace Action

def spelling : Action → String
  | lock => "lock"
  | unlock => "unlock"

def ofString? : String → Option Action := memberOf [lock, unlock] spelling

/-- `TOPIC_CMD_LOCK` or `TOPIC_CMD_UNLOCK`. -/
def subtopic : Action → String
  | lock => topicCmdLock
  | unlock => topicCmdUnlock

def other : Action → Action
  | lock => unlock
  | unlock => lock

@[simp]
theorem ofString?_spelling (action : Action) : ofString? action.spelling = some action := by
  cases action <;> decide

theorem ofString?_eq_some_iff {text : String} {action : Action} :
    ofString? text = some action ↔ text = action.spelling := by
  constructor
  · intro found
    exact (spelling_of_memberOf found).symm
  · rintro rfl
    exact ofString?_spelling action

end Action

/-! ## Health documents -/

def healthOk : String := "OK"
def healthError : String := "ERROR"
def healthNetworkUnknown : String := "UNKNOWN"
def healthCertificateUnknown : String := "unknown"

/-- `LOCK_STATE_NOT_REPORTED`: the firmware's reading of no lock. -/
def lockStateNotReported : Int := 255

/-! ## Bounds -/

def commandReplayWindow : Nat := 32
def commandNonceBytes : Nat := 16
def directOfflineAfterFailures : Nat := 3
def haApiProtocol : Int := 1
def lockEventMaxAgeSeconds : Int := 300
def guestSecondsPerDay : Nat := 24 * 60 * 60

end HomeKeyHousehold
