import HomeKeyHousehold.Coordinator

/-!
# Nodes do not touch each other

A message is about one node.  Whatever its branch does, the records of all other
nodes stay as they were.
-/

namespace HomeKeyHousehold

open Library

namespace Coordinator

variable {env : Env} {coordinator : Coordinator} {nodeId wanted : String}

theorem getNode_putNode_of_ne (coordinator : Coordinator) {node : Node}
    (other : wanted ≠ node.nodeId) :
    (coordinator.putNode node).getNode wanted = coordinator.getNode wanted :=
  Keyed.get?_put_of_ne coordinator.nodes node other

theorem getNode_ensureNode_of_ne (coordinator : Coordinator) (other : wanted ≠ nodeId) :
    (coordinator.ensureNode nodeId).1.getNode wanted = coordinator.getNode wanted := by
  unfold ensureNode
  split
  · rfl
  · exact getNode_putNode_of_ne coordinator other

/-- Registering a node and storing a change of it. -/
theorem getNode_update_of_ne (coordinator : Coordinator) (other : wanted ≠ nodeId)
    (change : Node → Node) (named : ∀ node, (change node).nodeId = node.nodeId) :
    ((coordinator.ensureNode nodeId).1.putNode
        (change (coordinator.ensureNode nodeId).2)).getNode wanted =
      coordinator.getNode wanted := by
  rw [getNode_putNode_of_ne, getNode_ensureNode_of_ne coordinator other]
  rwa [named, ensureNode_nodeId]

theorem getNode_mergeNode_of_ne (coordinator : Coordinator) {incoming : Node}
    (other : wanted ≠ incoming.nodeId) :
    (coordinator.mergeNode incoming).getNode wanted = coordinator.getNode wanted := by
  unfold mergeNode
  split
  · exact getNode_putNode_of_ne coordinator other
  · next existing known =>
      have named : existing.nodeId = incoming.nodeId := Keyed.key_of_get? known
      apply getNode_putNode_of_ne
      rwa [named]

theorem getNode_attributeLockChange (coordinator : Coordinator) (node : Node)
    (previousCurrent : Option Int) (health : NodeHealth) :
    (coordinator.attributeLockChange env node previousCurrent health).getNode wanted =
      coordinator.getNode wanted := by
  unfold attributeLockChange
  split
  · split
    · rfl
    split
    · rfl
    split
    · rfl
    split
    · rfl
    · rfl
  · rfl

theorem getNode_attributeLockEvent_of_ne (coordinator : Coordinator) {node : Node}
    (other : wanted ≠ node.nodeId) (change : LockChange) :
    (coordinator.attributeLockEvent env node change).getNode wanted =
      coordinator.getNode wanted := by
  unfold attributeLockEvent
  split
  · split
    · rfl
    split
    · exact @getNode_putNode_of_ne _ coordinator
        { node with attributedLockChange := some change.key } other
    · rfl
  · rfl

theorem getNode_orReject {α : Type} {base : Option Node} {result : Validated α}
    {accept : α → Coordinator} (kept : coordinator.getNode wanted = base)
    (accepted : ∀ value, result = .ok value → (accept value).getNode wanted = base) :
    (coordinator.orReject result accept).coordinator.getNode wanted = base := by
  cases result with
  | ok value => exact accepted value rfl
  | error reason => exact kept

@[simp]
theorem nodes_finish (env : Env) (handled : Handled) :
    (handled.finish env).coordinator.nodes = handled.coordinator.nodes := by
  unfold Handled.finish finishUpdate
  split
  · dsimp only
    split
    · rfl
    · rfl
  · rfl

@[simp]
theorem getNode_finish (env : Env) (handled : Handled) :
    (handled.finish env).coordinator.getNode wanted = handled.coordinator.getNode wanted := by
  rw [getNode, nodes_finish, getNode]

theorem getNode_handlePlain_of_ne (coordinator : Coordinator) (other : wanted ≠ nodeId)
    (payload : String) (subtopic : Subtopic) :
    (coordinator.handlePlain env nodeId payload subtopic).coordinator.getNode wanted =
      coordinator.getNode wanted := by
  cases subtopic with
  | legacyStatus =>
      rw [handlePlain, handleLegacyStatus]
      refine getNode_orReject rfl fun online _ => ?_
      split
      · rfl
      · next node known =>
          have named : node.nodeId = nodeId := Keyed.key_of_get? known
          apply getNode_putNode_of_ne
          rwa [named]
  | status =>
      rw [handlePlain, handleNodeStatus]
      exact getNode_orReject rfl fun online _ => getNode_update_of_ne coordinator other
        (fun node => { node with online, lastSeen := some (nowIso env) }) fun _ => rfl
  | security =>
      rw [handlePlain, handleSecurity]
      exact getNode_orReject rfl fun value _ => getNode_update_of_ne coordinator other
        (fun node => { node with security := some value }) fun _ => rfl
  | backupStatus =>
      rw [handlePlain, handleBackupStatus]
      exact getNode_orReject rfl fun outcome _ => getNode_update_of_ne coordinator other
        (fun node => { node with backupStatus := some outcome }) fun _ => rfl
  | state | health | lockLast | backupLast | lastAuth | guestStatus => rfl

theorem getNode_handleJson_of_ne (coordinator : Coordinator) (other : wanted ≠ nodeId)
    (payload : Json) (subtopic : Subtopic) :
    (coordinator.handleJson env nodeId payload subtopic).coordinator.getNode wanted =
      coordinator.getNode wanted := by
  have ensured := getNode_ensureNode_of_ne coordinator other
  have apart : wanted ≠ (coordinator.ensureNode nodeId).2.nodeId := by
    rwa [ensureNode_nodeId]
  cases subtopic with
  | state =>
      rw [handleJson, handleState]
      refine getNode_orReject rfl fun node parsed => getNode_mergeNode_of_ne coordinator ?_
      rwa [Node.nodeId_of_fromState parsed]
  | health =>
      rw [handleJson, handleHealth]
      refine getNode_orReject ensured fun health _ => ?_
      rw [getNode_attributeLockChange, getNode_putNode_of_ne]
      · exact ensured
      · exact apart
  | lockLast =>
      rw [handleJson, handleLockLast]
      refine getNode_orReject ensured fun change _ => ?_
      rw [getNode_attributeLockEvent_of_ne, getNode_putNode_of_ne]
      · exact ensured
      · exact apart
      · exact apart
  | backupLast =>
      rw [handleJson, handleBackupLast]
      exact getNode_orReject rfl fun record _ => getNode_update_of_ne coordinator other
        (fun node => { node with backup := some record }) fun _ => rfl
  | lastAuth =>
      rw [handleJson, handleLastAuth]
      exact getNode_orReject rfl fun auth _ => getNode_update_of_ne coordinator other
        (fun node => { node with lastAuth := some auth }) fun _ => rfl
  | guestStatus =>
      rw [handleJson, handleGuestStatus]
      exact getNode_orReject rfl fun guest _ => getNode_update_of_ne coordinator other
        (fun node => { node with guest := some guest }) fun _ => rfl
  | legacyStatus | status | security | backupStatus => rfl

/-- A message leaves the record of every node it does not name alone. -/
theorem getNode_asyncHandleMessage_of_ne (env : Env) (coordinator : Coordinator)
    {message : HomeKeyMessage} (other : namedNode message ≠ some wanted) :
    (coordinator.asyncHandleMessage env message).coordinator.getNode wanted =
      coordinator.getNode wanted := by
  unfold asyncHandleMessage dispatch
  split
  · cases Subtopic.ofString? message.subtopic with
    | none => rfl
    | some subtopic =>
        dsimp only
        cases named : namedNode message with
        | none =>
            split
            · cases decodeJson message.payload with
              | error reason => rfl
              | ok payload => rfl
            · rfl
        | some nodeId =>
            have apart : wanted ≠ nodeId := by
              rintro rfl
              exact other named
            split
            · cases decodeJson message.payload with
              | error reason => rfl
              | ok payload =>
                  rw [getNode_finish]
                  exact getNode_handleJson_of_ne coordinator apart payload subtopic
            · rw [getNode_finish]
              exact getNode_handlePlain_of_ne coordinator apart message.payload subtopic
  · rfl

end Coordinator

end HomeKeyHousehold
