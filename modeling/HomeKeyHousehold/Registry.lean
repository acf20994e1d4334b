import HomeKeyHousehold.Library.Run
import HomeKeyHousehold.Record

/-!
# The registry, one node at a time

What a registry holds about one node is a machine of its own.  It moves on the
messages of the household that are addressed to the node and on nothing else, and
a node that is not known yet becomes known with the first of them that registers
it.
-/

namespace HomeKeyHousehold

open Library

/-! ## One entry of the registry -/

namespace Node

/-- Whether a plain payload registers its node. -/
def plainRegisters (payload : String) : Subtopic → Bool
  | .status => (Coordinator.parseOnline payload "status").isOk
  | .security => (Coordinator.parseSecurity payload).isOk
  | .backupStatus => (Coordinator.parseBackupStatus payload).isOk
  | _ => false

/-- Whether a document registers its node.  Health and lock reports do so before
they are parsed. -/
def jsonRegisters (householdId nodeId : String) (payload : Json) : Subtopic → Bool
  | .state => (fromState householdId nodeId payload).isOk
  | .health | .lockLast => true
  | .backupLast => (BackupRecord.fromDict payload householdId nodeId).isOk
  | .lastAuth => (LastAuth.fromDict payload householdId nodeId).isOk
  | .guestStatus => (GuestState.fromDict payload).isOk
  | _ => false

/-- Whether a message registers the node it is about. -/
def registers (householdId nodeId : String) (message : HomeKeyMessage) : Bool :=
  match Subtopic.ofString? message.subtopic with
  | none => false
  | some subtopic =>
      if subtopic.isJson then
        match Coordinator.decodeJson message.payload with
        | .ok payload => jsonRegisters householdId nodeId payload subtopic
        | .error _ => false
      else plainRegisters message.payload subtopic

/-- What is known of a node after a message about it. -/
def learn (env : Env) (householdId nodeId : String) (record : Option Node)
    (message : HomeKeyMessage) : Option Node :=
  match record with
  | some node => some (node.receive env householdId message)
  | none =>
      if registers householdId nodeId message then
        some ((ofId householdId nodeId).receive env householdId message)
      else none

/-- A state document says everything there is to say about a blank record. -/
theorem merge_ofId {householdId nodeId : String} {payload : Json} {incoming : Node}
    (parsed : fromState householdId nodeId payload = .ok incoming) :
    (ofId householdId nodeId).merge incoming = incoming := by
  unfold fromState at parsed
  cases document : NodeState.fromDict payload householdId nodeId with
  | error reason =>
      rw [document] at parsed
      cases parsed
  | ok state =>
      rw [document] at parsed
      cases parsed
      simp [merge, ofId]

end Node

namespace Coordinator

variable {env : Env} {coordinator : Coordinator} {nodeId : String}

/-- A handler that validates before it registers its node. -/
theorem getNode_orReject_new {α : Type} {result : Validated α} {change : α → Node → Node}
    (unknown : coordinator.getNode nodeId = none)
    (named : ∀ value node, (change value node).nodeId = node.nodeId) :
    (coordinator.orReject result fun value =>
        (coordinator.ensureNode nodeId).1.putNode
          (change value (coordinator.ensureNode nodeId).2)).coordinator.getNode nodeId =
      if result.isOk then
        some ((Node.ofId coordinator.householdId nodeId).accept result fun value =>
          change value (Node.ofId coordinator.householdId nodeId))
      else none := by
  have blank : (coordinator.ensureNode nodeId).2 = Node.ofId coordinator.householdId nodeId := by
    rw [ensureNode, unknown]
  cases result with
  | error reason => exact unknown
  | ok value =>
      rw [orReject]
      dsimp only
      rw [coordinator.getNode_update nodeId (change value) (named value), blank]
      rfl

theorem getNode_handlePlain_new (unknown : coordinator.getNode nodeId = none) (payload : String)
    (subtopic : Subtopic) :
    (coordinator.handlePlain env nodeId payload subtopic).coordinator.getNode nodeId =
      if Node.plainRegisters payload subtopic then
        some ((Node.ofId coordinator.householdId nodeId).afterPlain env payload subtopic)
      else none := by
  cases subtopic with
  | legacyStatus =>
      rw [handlePlain, handleLegacyStatus]
      exact getNode_orReject unknown fun online _ => by rw [unknown]; exact unknown
  | status =>
      exact @getNode_orReject_new coordinator nodeId _ (parseOnline payload "status")
        (fun online node => { node with online, lastSeen := some (nowIso env) }) unknown
        fun _ _ => rfl
  | security =>
      exact @getNode_orReject_new coordinator nodeId _ (parseSecurity payload)
        (fun value node => { node with security := some value }) unknown fun _ _ => rfl
  | backupStatus =>
      exact @getNode_orReject_new coordinator nodeId _ (parseBackupStatus payload)
        (fun outcome node => { node with backupStatus := some outcome }) unknown fun _ _ => rfl
  | state | health | lockLast | backupLast | lastAuth | guestStatus => exact unknown

/-- A state document registers its node as it describes it. -/
theorem getNode_handleState_new (unknown : coordinator.getNode nodeId = none) (payload : Json) :
    (coordinator.handleState nodeId payload).coordinator.getNode nodeId =
      if (Node.fromState coordinator.householdId nodeId payload).isOk then
        some ((Node.ofId coordinator.householdId nodeId).accept
          (Node.fromState coordinator.householdId nodeId payload)
          (Node.ofId coordinator.householdId nodeId).merge)
      else none := by
  rw [handleState]
  cases parsed : Node.fromState coordinator.householdId nodeId payload with
  | error reason => exact unknown
  | ok incoming =>
      have same := Node.nodeId_of_fromState parsed
      rw [orReject, Node.accept]
      dsimp only
      rw [Node.merge_ofId parsed, mergeNode, same, unknown]
      exact coordinator.getNode_putNode_self same

theorem getNode_handleJson_new (unknown : coordinator.getNode nodeId = none) (payload : Json)
    (subtopic : Subtopic) :
    (coordinator.handleJson env nodeId payload subtopic).coordinator.getNode nodeId =
      if Node.jsonRegisters coordinator.householdId nodeId payload subtopic then
        some ((Node.ofId coordinator.householdId nodeId).afterJson env coordinator.householdId
          payload subtopic)
      else none := by
  obtain ⟨base, made, ensured⟩ : ∃ base,
      coordinator.ensureNode nodeId = (base, Node.ofId coordinator.householdId nodeId) ∧
        base.getNode nodeId = some (Node.ofId coordinator.householdId nodeId) := by
    refine ⟨(coordinator.ensureNode nodeId).1, by rw [ensureNode, unknown], ?_⟩
    rw [getNode_ensureNode_self, ensureNode, unknown]
  cases subtopic with
  | state =>
      rw [handleJson, Node.jsonRegisters, Node.afterJson]
      exact getNode_handleState_new unknown payload
  | health =>
      rw [handleJson, handleHealth, made, Node.afterJson]
      refine getNode_orReject_accept ensured fun health => ?_
      rw [getNode_attributeLockChange]
      exact getNode_putNode_self _ rfl
  | lockLast =>
      rw [handleJson, handleLockLast, made, Node.afterJson]
      refine getNode_orReject_accept ensured fun change => ?_
      exact getNode_attributeLockEvent _ change rfl
  | backupLast =>
      exact @getNode_orReject_new coordinator nodeId _
        (BackupRecord.fromDict payload coordinator.householdId nodeId)
        (fun record node => { node with backup := some record }) unknown fun _ _ => rfl
  | lastAuth =>
      exact @getNode_orReject_new coordinator nodeId _
        (LastAuth.fromDict payload coordinator.householdId nodeId)
        (fun auth node => { node with lastAuth := some auth }) unknown fun _ _ => rfl
  | guestStatus =>
      exact @getNode_orReject_new coordinator nodeId _ (GuestState.fromDict payload)
        (fun guest node => { node with guest := some guest }) unknown fun _ _ => rfl
  | legacyStatus | status | security | backupStatus => exact unknown

/-- The messages of the household about a node are what is learnt of it. -/
theorem getNode_of_own (env : Env) {message : HomeKeyMessage}
    (home : message.householdId = coordinator.householdId)
    (named : namedNode message = some nodeId) :
    (coordinator.asyncHandleMessage env message).coordinator.getNode nodeId =
      Node.learn env coordinator.householdId nodeId (coordinator.getNode nodeId) message := by
  cases record : coordinator.getNode nodeId with
  | some node => exact getNode_asyncHandleMessage env home record named
  | none =>
      rw [asyncHandleMessage, if_pos home]
      unfold dispatch Node.learn Node.registers Node.receive
      cases Subtopic.ofString? message.subtopic with
      | none => exact record
      | some subtopic =>
          dsimp only
          split
          · cases decodeJson message.payload with
            | error reason => exact record
            | ok payload =>
                dsimp only
                rw [named]
                dsimp only
                rw [getNode_finish]
                exact getNode_handleJson_new record payload subtopic
          · rw [named]
            dsimp only
            rw [getNode_finish]
            exact getNode_handlePlain_new record message.payload subtopic

/-! ## Whole runs -/

/-- The coordinator after a message has been handled. -/
def receive (coordinator : Coordinator) (delivery : Delivery) : Coordinator :=
  (coordinator.asyncHandleMessage delivery.env delivery.message).coordinator

@[simp]
theorem householdId_receive (coordinator : Coordinator) (delivery : Delivery) :
    (coordinator.receive delivery).householdId = coordinator.householdId :=
  householdId_asyncHandleMessage delivery.env coordinator delivery.message

/-- The messages of a household that are addressed to a node. -/
def ownMessage (householdId nodeId : String) (delivery : Delivery) : Bool :=
  delivery.message.householdId = householdId ∧ delivery.message.nodeId = some nodeId

/-- The messages of a household that reach a node; an empty id is no node's. -/
def reaches (householdId nodeId : String) (delivery : Delivery) : Bool :=
  delivery.message.householdId = householdId ∧ namedNode delivery.message = some nodeId

theorem ownMessage_of_reaches {householdId nodeId : String} {delivery : Delivery}
    (reached : reaches householdId nodeId delivery = true) :
    ownMessage householdId nodeId delivery = true := by
  obtain ⟨home, named⟩ := of_decide_eq_true reached
  rw [namedNode, Option.filter_eq_some_iff] at named
  exact decide_eq_true ⟨home, named.1⟩

/-- What one message does to what is known of a node. -/
theorem getNode_receive (coordinator : Coordinator) (delivery : Delivery) (nodeId : String) :
    (coordinator.receive delivery).getNode nodeId =
      if reaches coordinator.householdId nodeId delivery then
        Node.learn delivery.env coordinator.householdId nodeId (coordinator.getNode nodeId)
          delivery.message
      else coordinator.getNode nodeId := by
  split
  · next reached =>
      obtain ⟨home, named⟩ := of_decide_eq_true reached
      exact getNode_of_own delivery.env home named
  · next foreign =>
      by_cases home : delivery.message.householdId = coordinator.householdId
      · apply getNode_asyncHandleMessage_of_ne
        exact fun named => foreign (decide_eq_true ⟨home, named⟩)
      · rw [receive, asyncHandleMessage, if_neg home]

/-- What is known of a node is what its own messages, in their order, say of it:
no other traffic has any part in it. -/
theorem getNode_run_eq_own (coordinator : Coordinator) (deliveries : List Delivery)
    (nodeId : String) :
    (run receive coordinator deliveries).getNode nodeId =
      (run receive coordinator
        (deliveries.filter (ownMessage coordinator.householdId nodeId))).getNode nodeId := by
  -- Two coordinators of one household that agree on the node go on to agree on it.
  suffices agree : ∀ other : Coordinator, other.householdId = coordinator.householdId →
      other.getNode nodeId = coordinator.getNode nodeId →
      (run receive coordinator deliveries).getNode nodeId =
        (run receive other
          (deliveries.filter (ownMessage coordinator.householdId nodeId))).getNode nodeId from
    agree coordinator rfl rfl
  induction deliveries generalizing coordinator with
  | nil => exact fun other _ same => same.symm
  | cons delivery rest ih =>
      intro other home same
      have stays := householdId_receive coordinator delivery
      rw [run_cons]
      cases own : ownMessage coordinator.householdId nodeId delivery with
      | true =>
          rw [List.filter_cons_of_pos own, run_cons, ih (coordinator.receive delivery)
            (other.receive delivery)]
          · rw [stays]
          · rw [householdId_receive, stays, home]
          · rw [getNode_receive, getNode_receive, home, same]
      | false =>
          rw [List.filter_cons_of_neg (by simp [own]), ih (coordinator.receive delivery) other]
          · rw [stays]
          · rw [stays, home]
          · rw [getNode_receive, same, if_neg]
            exact fun reached => Bool.false_ne_true (own.symm.trans (ownMessage_of_reaches reached))

/-- What is learnt of a node in the course of messages about it. -/
def learnAll (householdId nodeId : String) (deliveries : List Delivery) : Option Node :=
  run (fun record delivery => Node.learn delivery.env householdId nodeId record delivery.message)
    none deliveries

/-- A fresh registry knows of a node what was learnt from the messages that reach it. -/
theorem getNode_run_new (householdId : String) (deliveries : List Delivery) (nodeId : String) :
    (run receive (new householdId) deliveries).getNode nodeId =
      learnAll householdId nodeId (deliveries.filter (reaches householdId nodeId)) := by
  suffices follows : ∀ (coordinator : Coordinator), coordinator.householdId = householdId →
      (run receive coordinator deliveries).getNode nodeId =
        run (fun record delivery =>
            Node.learn delivery.env householdId nodeId record delivery.message)
          (coordinator.getNode nodeId) (deliveries.filter (reaches householdId nodeId)) from
    follows (new householdId) rfl
  induction deliveries with
  | nil => exact fun coordinator _ => rfl
  | cons delivery rest ih =>
      intro coordinator home
      rw [run_cons, ih _ ((householdId_receive coordinator delivery).trans home),
        getNode_receive, home]
      cases reached : reaches householdId nodeId delivery with
      | true =>
          rw [if_pos rfl, List.filter_cons_of_pos reached, run_cons]
      | false =>
          rw [if_neg Bool.false_ne_true, List.filter_cons_of_neg (by simp [reached])]

end Coordinator

end HomeKeyHousehold
