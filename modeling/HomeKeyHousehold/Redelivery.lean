import HomeKeyHousehold.LockCauses
import HomeKeyHousehold.Record

/-!
# Events that are delivered again

Every accepted `lock/last` document is taken for the freshest report of the
lock, also one that was on record before the last snapshot.
-/

namespace HomeKeyHousehold

open Library

namespace Node

/-- What the last snapshot says about the lock. -/
def sampledState (node : Node) : LockState :=
  match node.health with
  | none => .unknown
  | some health => health.lockCurrentState.getD .unknown

theorem lockState_of_fresh {node : Node} {change : LockChange}
    (recorded : node.lockChange = some change) (fresh : node.lockChangeIsFresh = true) :
    node.lockState = lockStateMap change.current := by
  rw [lockState, recorded, fresh]

theorem lockState_of_stale {node : Node} (stale : node.lockChangeIsFresh = false) :
    node.lockState = node.sampledState := by
  rw [lockState, stale]
  cases node.lockChange with
  | none => rfl
  | some change => rfl

/-- After an accepted event the lock is in the state the event led to. -/
theorem lockState_withEvent (env : Env) (node : Node) (change : LockChange) :
    (node.withEvent env change).lockState = lockStateMap change.current := by
  unfold withEvent
  dsimp only
  split
  · rfl
  · rfl

end Node

namespace Coordinator

variable {env : Env} {coordinator : Coordinator} {message : HomeKeyMessage} {nodeId : String}
variable {node : Node} {payload : Json} {change : LockChange}

/-- An accepted event leaves its node in the state the event led to. -/
theorem getNode_lockLast (env : Env) (home : message.householdId = coordinator.householdId)
    (named : namedNode message = some nodeId)
    (spelled : message.subtopic = Subtopic.lockLast.spelling)
    (loaded : Json.loads message.payload = some payload)
    (known : coordinator.getNode nodeId = some node)
    (parsed : LockChange.fromDict payload coordinator.householdId nodeId = .ok change) :
    (coordinator.asyncHandleMessage env message).coordinator.getNode nodeId =
      some (node.withEvent env change) := by
  obtain rfl : node.nodeId = nodeId := Keyed.key_of_get? known
  rw [getNode_asyncHandleMessage env home known named]
  unfold Node.receive decodeJson
  rw [spelled, Subtopic.ofString?_spelling, loaded]
  dsimp only
  rw [if_pos (by decide), Node.afterJson, parsed]
  rfl

/-- Delivering the event on record again keeps the state of the lock exactly when
the event is still the freshest report, or the last snapshot agrees with it. -/
theorem redelivered_lockState_iff (home : message.householdId = coordinator.householdId)
    (named : namedNode message = some nodeId)
    (spelled : message.subtopic = Subtopic.lockLast.spelling)
    (loaded : Json.loads message.payload = some payload)
    (known : coordinator.getNode nodeId = some node)
    (parsed : LockChange.fromDict payload coordinator.householdId nodeId = .ok change)
    (recorded : node.lockChange = some change) :
    (∃ after, (coordinator.asyncHandleMessage env message).coordinator.getNode nodeId =
        some after ∧ after.lockState = node.lockState) ↔
      node.lockChangeIsFresh = true ∨ node.sampledState = lockStateMap change.current := by
  have handled := getNode_lockLast env home named spelled loaded known parsed
  have opened := node.lockState_withEvent env change
  constructor
  · rintro ⟨after, found, kept⟩
    rw [handled] at found
    cases found
    cases fresh : node.lockChangeIsFresh with
    | true => exact Or.inl rfl
    | false =>
        right
        rw [← Node.lockState_of_stale fresh, ← kept, opened]
  · intro agrees
    refine ⟨_, handled, ?_⟩
    rw [opened]
    cases fresh : node.lockChangeIsFresh with
    | true => exact (Node.lockState_of_fresh recorded fresh).symm
    | false =>
        rw [Node.lockState_of_stale fresh]
        rcases agrees with claimed | agrees
        · rw [fresh] at claimed
          cases claimed
        · exact agrees.symm

/-! ### A sample event -/

def unlockEvent : Json :=
  .obj [("current", .int 0), ("source", .str "device"), ("timestamp", .null)]

def unlockMessage : HomeKeyMessage := .document "HOME001" "GATE-001" .lockLast unlockEvent true

def unlockChange : LockChange := ⟨0, .device, none, none⟩

/-- A new coordinator that was told of the event. -/
def toldUnlocked : Coordinator :=
  ((Coordinator.new "HOME001").asyncHandleMessage Observed.causeEnv unlockMessage).coordinator

def unlockedNode : Node :=
  { Node.ofId "HOME001" "GATE-001" with
    lockChange := some unlockChange
    lockChangeIsFresh := true
    attributedLockChange := some unlockChange.key }

theorem getNode_toldUnlocked : toldUnlocked.getNode "GATE-001" = some unlockedNode := by
  have handled := asyncHandleMessage_document Observed.causeEnv (.new "HOME001")
    (by decide : "GATE-001" ≠ "") (rfl : Subtopic.lockLast.isJson = true) unlockEvent true
  have told : toldUnlocked.getNode "GATE-001" = _ :=
    congrArg (fun handled => handled.coordinator.getNode "GATE-001") handled
  rw [told]
  rfl

theorem unlockEvent_parsed :
    LockChange.fromDict unlockEvent "HOME001" "GATE-001" = .ok unlockChange := by
  rfl

/-- An event that comes twice in a row changes nothing the second time. -/
theorem unlockedNode_stays_unlocked :
    ∃ after, (toldUnlocked.asyncHandleMessage Observed.causeEnv
        unlockMessage).coordinator.getNode "GATE-001" = some after ∧
      after.lockState = unlockedNode.lockState := by
  have home : unlockMessage.householdId = toldUnlocked.householdId := by
    rw [toldUnlocked, householdId_asyncHandleMessage]
    rfl
  refine (redelivered_lockState_iff home (namedNode_eq_some rfl (by decide)) rfl
    (Json.loads_dumps unlockEvent) getNode_toldUnlocked ?_ rfl).mpr (Or.inl rfl)
  rw [← home]
  exact unlockEvent_parsed

/-- After a snapshot of the locked door, the same event opens it again. -/
theorem redelivered_event_unlocks :
    ¬ ∀ (householdId nodeId : String) (deliveries : List Delivery) (env : Env)
      (message : HomeKeyMessage) (payload : Json) (node after : Node) (change : LockChange),
      let coordinator := (run Observed.receive (.start householdId) deliveries).coordinator
      message.householdId = householdId → namedNode message = some nodeId →
      message.subtopic = Subtopic.lockLast.spelling →
      Json.loads message.payload = some payload →
      coordinator.getNode nodeId = some node →
      LockChange.fromDict payload householdId nodeId = .ok change →
      node.lockChange = some change →
      (coordinator.asyncHandleMessage env message).coordinator.getNode nodeId = some after →
      after.lockState = node.lockState := by
  intro kept
  have home : toldUnlocked.householdId = "HOME001" := by
    rw [toldUnlocked, householdId_asyncHandleMessage]
    rfl
  have named : namedNode (Observed.gateHealth 1).message = some "GATE-001" :=
    namedNode_eq_some rfl (by decide)
  obtain ⟨locked, found, samples, shows⟩ : ∃ locked,
      (toldUnlocked.asyncHandleMessage Observed.causeEnv
        (Observed.gateHealth 1).message).coordinator.getNode "GATE-001" = some locked ∧
      locked.lockChange = some unlockChange ∧ locked.lockState = .locked := by
    refine ⟨_, getNode_asyncHandleMessage _ home.symm getNode_toldUnlocked named, ?_⟩
    rw [Observed.gateHealth]
    dsimp only
    rw [Node.receive_document _ _ rfl, home]
    exact ⟨rfl, rfl⟩
  have again := getNode_lockLast Observed.causeEnv
    ((householdId_asyncHandleMessage _ _ _).trans home).symm
    (namedNode_eq_some rfl (by decide) : namedNode unlockMessage = some "GATE-001") rfl
    (Json.loads_dumps unlockEvent) found
    (by rw [householdId_asyncHandleMessage, home]; exact unlockEvent_parsed)
  have same := kept "HOME001" "GATE-001" [⟨Observed.causeEnv, unlockMessage⟩, Observed.gateHealth 1]
    Observed.causeEnv unlockMessage unlockEvent locked _ unlockChange rfl
    (namedNode_eq_some rfl (by decide)) rfl (Json.loads_dumps unlockEvent) found unlockEvent_parsed
    samples again
  rw [Node.lockState_withEvent, shows] at same
  cases same

end Coordinator

end HomeKeyHousehold
