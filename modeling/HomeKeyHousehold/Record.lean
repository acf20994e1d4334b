import HomeKeyHousehold.Attribution
import HomeKeyHousehold.DirectPoller
import HomeKeyHousehold.Isolation

/-!
# The record of a node

What a message does to the record of its node depends on that record and the
message alone.  The registry of a coordinator is a family of such records, each
moved by the messages about its own node.
-/

namespace HomeKeyHousehold

open Library

/-- The message that a node is online, as a response is replayed. -/
def HomeKeyMessage.online (householdId nodeId : String) : HomeKeyMessage :=
  { householdId, nodeId, subtopic := Subtopic.status.spelling, payload := "online",
    retain := true }

@[simp]
theorem HomeKeyMessage.ofString?_subtopic_online (householdId nodeId : String) :
    Subtopic.ofString? (HomeKeyMessage.online householdId nodeId).subtopic = some .status :=
  Subtopic.ofString?_spelling .status

@[simp]
theorem HomeKeyMessage.ofString?_subtopic_document (householdId nodeId : String)
    (subtopic : Subtopic) (document : Json) (retain : Bool) :
    Subtopic.ofString? (HomeKeyMessage.document householdId nodeId subtopic document
      retain).subtopic = some subtopic :=
  Subtopic.ofString?_spelling subtopic

/-! ## One record -/

namespace Node

/-- Take over an accepted value; a rejected one leaves the record alone. -/
def accept {α : Type} (node : Node) (result : Validated α) (change : α → Node) : Node :=
  match result with
  | .ok value => change value
  | .error _ => node

/-- What an accepted value does not change is kept. -/
theorem field_accept {α β : Type} {node : Node} {result : Validated α} {change : α → Node}
    (field : Node → β) (kept : ∀ value, field (change value) = field node) :
    field (node.accept result change) = field node := by
  cases result with
  | ok value => exact kept value
  | error reason => rfl

/-- A state payload over what is known. -/
def merge (node incoming : Node) : Node :=
  { node with
    nodeName := incoming.nodeName
    nodeRole := incoming.nodeRole
    nodeState := incoming.nodeState
    generation := incoming.generation <|> node.generation
    firmware := incoming.firmware <|> node.firmware }

/-- Whether an event is announced when it arrives. -/
def announcesEvent (env : Env) (node : Node) (change : LockChange) : Bool :=
  change.source.isDeviceInitiated && node.attributedLockChange ≠ some change.key &&
    isTimely env change.timestamp

/-- An announcer that knows what the record holds announces the same events. -/
theorem announces_lockView (env : Env) (node : Node) (change : LockChange) :
    node.lockView.announces eventValue isReportable
        (.event change.key (isTimely env change.timestamp)) =
      if node.announcesEvent env change then some change.key else none := by
  simp only [Announcer.announces, announcesEvent, lockView, isReportable, Bool.and_eq_true,
    decide_eq_true_eq, and_assoc]
  rfl

/-- An event goes on record as the fresher report, and as announced if it is. -/
def withEvent (env : Env) (node : Node) (change : LockChange) : Node :=
  let stored := { node with lockChange := some change, lockChangeIsFresh := true }
  if stored.announcesEvent env change then
    { stored with attributedLockChange := some change.key }
  else stored

/-- The record after a plain payload. -/
def afterPlain (env : Env) (node : Node) (payload : String) : Subtopic → Node
  | .legacyStatus =>
      node.accept (Coordinator.parseOnline payload "legacy status") fun online =>
        { node with
          lwtOnline := some online
          lastSeen := if online then some (Coordinator.nowIso env) else node.lastSeen }
  | .status =>
      node.accept (Coordinator.parseOnline payload "status") fun online =>
        { node with online, lastSeen := some (Coordinator.nowIso env) }
  | .security =>
      node.accept (Coordinator.parseSecurity payload) fun value =>
        { node with security := some value }
  | .backupStatus =>
      node.accept (Coordinator.parseBackupStatus payload) fun outcome =>
        { node with backupStatus := some outcome }
  | _ => node

/-- The record after a JSON document. -/
def afterJson (env : Env) (householdId : String) (node : Node) (payload : Json) :
    Subtopic → Node
  | .state => node.accept (Node.fromState householdId node.nodeId payload) node.merge
  | .health =>
      node.accept (NodeHealth.fromDict payload householdId node.nodeId) fun health =>
        { node with health := some health, lockChangeIsFresh := false }
  | .lockLast =>
      node.accept (LockChange.fromDict payload householdId node.nodeId) (node.withEvent env)
  | .backupLast =>
      node.accept (BackupRecord.fromDict payload householdId node.nodeId) fun record =>
        { node with backup := some record }
  | .lastAuth =>
      node.accept (LastAuth.fromDict payload householdId node.nodeId) fun auth =>
        { node with lastAuth := some auth }
  | .guestStatus =>
      node.accept (GuestState.fromDict payload) fun guest => { node with guest := some guest }
  | _ => node

/-- The record after a message about it. -/
def receive (env : Env) (householdId : String) (node : Node) (message : HomeKeyMessage) : Node :=
  match Subtopic.ofString? message.subtopic with
  | none => node
  | some subtopic =>
      if subtopic.isJson then
        match Coordinator.decodeJson message.payload with
        | .ok payload => node.afterJson env householdId payload subtopic
        | .error _ => node
      else node.afterPlain env message.payload subtopic

/-- A document is received as its subtopic says. -/
theorem receive_document (env : Env) (node : Node) {subtopic : Subtopic}
    (json : subtopic.isJson = true) (householdId topicHousehold nodeId : String)
    (document : Json) (retain : Bool) :
    node.receive env householdId (.document topicHousehold nodeId subtopic document retain) =
      node.afterJson env householdId document subtopic := by
  unfold receive
  rw [HomeKeyMessage.ofString?_subtopic_document]
  dsimp only
  rw [if_pos json, Coordinator.decodeJson, HomeKeyMessage.document, Json.loads_dumps]

end Node

/-! ## The registry -/

namespace Coordinator

variable {env : Env} {coordinator : Coordinator} {householdId nodeId : String} {node : Node}

theorem getNode_putNode_self (coordinator : Coordinator) {node : Node}
    (named : node.nodeId = nodeId) : (coordinator.putNode node).getNode nodeId = some node := by
  rw [getNode_putNode, if_pos named.symm]

/-- A handler that validates first and then stores a change of the record. -/
theorem getNode_orReject_accept {α : Type} {result : Validated α} {change : α → Node}
    {accept : α → Coordinator} (known : coordinator.getNode nodeId = some node)
    (accepted : ∀ value, (accept value).getNode nodeId = some (change value)) :
    (coordinator.orReject result accept).coordinator.getNode nodeId =
      some (node.accept result change) := by
  cases result with
  | ok value => exact accepted value
  | error reason => exact known

/-- A node is found as it was stored, whatever the update it is delivered in. -/
theorem getNode_update (coordinator : Coordinator) (nodeId : String) (change : Node → Node)
    (named : ∀ node, (change node).nodeId = node.nodeId) :
    ((coordinator.ensureNode nodeId).1.putNode
        (change (coordinator.ensureNode nodeId).2)).getNode nodeId =
      some (change (coordinator.ensureNode nodeId).2) := by
  rw [getNode_putNode, if_pos]
  rw [named, ensureNode_nodeId]

/-- Storing a change of a known record. -/
theorem getNode_update_known (known : coordinator.getNode nodeId = some node)
    (change : Node → Node) (named : ∀ node, (change node).nodeId = node.nodeId) :
    ((coordinator.ensureNode nodeId).1.putNode
        (change (coordinator.ensureNode nodeId).2)).getNode nodeId = some (change node) := by
  rw [coordinator.getNode_update nodeId change named, ensureNode_of_known known]

theorem getNode_attributeLockEvent (coordinator : Coordinator) {stored : Node}
    (change : LockChange) (named : stored.nodeId = nodeId) :
    ((coordinator.putNode stored).attributeLockEvent env stored change).getNode nodeId =
      some (if stored.announcesEvent env change then
        { stored with attributedLockChange := some change.key } else stored) := by
  rw [attributeLockEvent_eq, Node.announces_lockView]
  split
  · next decided =>
      rw [if_neg]
      · exact coordinator.getNode_putNode_self named
      · intro announced
        rw [if_pos announced] at decided
        cases decided
  · next cause decided =>
      rw [if_pos]
      · split at decided
        · cases decided
          exact (coordinator.putNode stored).getNode_putNode_self named
        · cases decided
      · by_contra silent
        rw [if_neg silent] at decided
        cases decided

/-- A known record is moved by a plain payload. -/
theorem getNode_handlePlain (known : coordinator.getNode nodeId = some node) (payload : String)
    (subtopic : Subtopic) :
    (coordinator.handlePlain env nodeId payload subtopic).coordinator.getNode nodeId =
      some (node.afterPlain env payload subtopic) := by
  have named : node.nodeId = nodeId := Keyed.key_of_get? known
  cases subtopic with
  | legacyStatus =>
      rw [handlePlain, handleLegacyStatus, Node.afterPlain]
      refine getNode_orReject_accept known fun online => ?_
      rw [known]
      exact coordinator.getNode_putNode_self named
  | status =>
      rw [handlePlain, handleNodeStatus, Node.afterPlain]
      exact getNode_orReject_accept known fun online => getNode_update_known known
        (fun node => { node with online, lastSeen := some (nowIso env) }) fun _ => rfl
  | security =>
      rw [handlePlain, handleSecurity, Node.afterPlain]
      exact getNode_orReject_accept known fun value => getNode_update_known known
        (fun node => { node with security := some value }) fun _ => rfl
  | backupStatus =>
      rw [handlePlain, handleBackupStatus, Node.afterPlain]
      exact getNode_orReject_accept known fun outcome => getNode_update_known known
        (fun node => { node with backupStatus := some outcome }) fun _ => rfl
  | state | health | lockLast | backupLast | lastAuth | guestStatus => exact known

/-- A known record is moved by a JSON document. -/
theorem getNode_handleJson (known : coordinator.getNode nodeId = some node) (payload : Json)
    (subtopic : Subtopic) :
    (coordinator.handleJson env nodeId payload subtopic).coordinator.getNode nodeId =
      some (node.afterJson env coordinator.householdId payload subtopic) := by
  have named : node.nodeId = nodeId := Keyed.key_of_get? known
  have ensured := ensureNode_of_known known
  subst named
  cases subtopic with
  | state =>
      rw [handleJson, handleState, Node.afterJson]
      cases parsed : Node.fromState coordinator.householdId node.nodeId payload with
      | error reason => exact known
      | ok incoming =>
          have same := Node.nodeId_of_fromState parsed
          rw [orReject]
          dsimp only
          rw [mergeNode, same, known]
          exact coordinator.getNode_putNode_self rfl
  | health =>
      rw [handleJson, handleHealth, ensured, Node.afterJson]
      refine getNode_orReject_accept known fun health => ?_
      rw [getNode_attributeLockChange]
      exact coordinator.getNode_putNode_self rfl
  | lockLast =>
      rw [handleJson, handleLockLast, ensured, Node.afterJson]
      refine getNode_orReject_accept known fun change => ?_
      exact getNode_attributeLockEvent coordinator change rfl
  | backupLast =>
      rw [handleJson, handleBackupLast, Node.afterJson]
      exact getNode_orReject_accept known fun record => getNode_update_known known
        (fun node => { node with backup := some record }) fun _ => rfl
  | lastAuth =>
      rw [handleJson, handleLastAuth, Node.afterJson]
      exact getNode_orReject_accept known fun auth => getNode_update_known known
        (fun node => { node with lastAuth := some auth }) fun _ => rfl
  | guestStatus =>
      rw [handleJson, handleGuestStatus, Node.afterJson]
      exact getNode_orReject_accept known fun guest => getNode_update_known known
        (fun node => { node with guest := some guest }) fun _ => rfl
  | legacyStatus | status | security | backupStatus => exact known

/-- A known record is moved by the messages about its node, and by no other. -/
theorem getNode_asyncHandleMessage (env : Env) {message : HomeKeyMessage}
    (home : message.householdId = coordinator.householdId)
    (known : coordinator.getNode nodeId = some node) (named : namedNode message = some nodeId) :
    (coordinator.asyncHandleMessage env message).coordinator.getNode nodeId =
      some (node.receive env coordinator.householdId message) := by
  rw [asyncHandleMessage, if_pos home]
  unfold dispatch Node.receive
  cases Subtopic.ofString? message.subtopic with
  | none => exact known
  | some subtopic =>
      dsimp only
      split
      · cases decodeJson message.payload with
        | error reason => exact known
        | ok payload =>
            dsimp only
            rw [named]
            dsimp only
            rw [getNode_finish]
            exact getNode_handleJson known payload subtopic
      · rw [named]
        dsimp only
        rw [getNode_finish]
        exact getNode_handlePlain known message.payload subtopic

@[simp]
theorem householdId_asyncHandleMessage (env : Env) (coordinator : Coordinator)
    (message : HomeKeyMessage) :
    (coordinator.asyncHandleMessage env message).coordinator.householdId =
      coordinator.householdId :=
  (effect_asyncHandleMessage env coordinator message).householdId

theorem namedNode_of_about {message : HomeKeyMessage} {householdId : String}
    (about : message.About householdId nodeId) (filled : nodeId ≠ "") :
    namedNode message = some nodeId :=
  namedNode_eq_some about.2 filled

/-! ## Nodes that may be new -/

/-- A message that a node is online is not about its lock or who opened it. -/
theorem handled_online (env : Env) (same : coordinator.householdId = householdId)
    (named : nodeId ≠ "") :
    ∃ after, (coordinator.asyncHandleMessage env (.online householdId nodeId)).coordinator =
        after ∧
      SameView coordinator after ∧
      after.getNode nodeId = some { (coordinator.ensureNode nodeId).2 with
        online := true, lastSeen := some (nowIso env) } := by
  subst same
  have handled := @asyncHandleMessage_plain coordinator nodeId
    (.online coordinator.householdId nodeId) .status env rfl rfl named rfl rfl
  refine ⟨_, rfl, ?_, ?_⟩
  · rw [handled]
    exact (sameView_handlePlain coordinator nodeId "online" .status).trans (sameView_finish env _)
  · rw [handled, getNode_finish, HomeKeyMessage.online, handlePlain, handleNodeStatus,
      parseOnline_online]
    exact coordinator.getNode_update nodeId
      (fun node => { node with online := true, lastSeen := some (nowIso env) }) fun _ => rfl

/-- An accepted authorisation goes on record, and nothing else happens. -/
theorem handled_lastAuth (env : Env) (same : coordinator.householdId = householdId)
    (named : nodeId ≠ "") {document : Json} {auth : LastAuth}
    (parsed : LastAuth.fromDict document householdId nodeId = .ok auth) :
    ∃ after, (coordinator.asyncHandleMessage env
        (.document householdId nodeId .lastAuth document true)).coordinator = after ∧
      SameView coordinator after ∧
      after.getNode nodeId =
        some { (coordinator.ensureNode nodeId).2 with lastAuth := some auth } := by
  subst same
  refine ⟨_, rfl, ?_, ?_⟩
  · have effect := effect_asyncHandleMessage env coordinator
      (.document coordinator.householdId nodeId .lastAuth document true)
    rw [lockReport_document env named] at effect
    exact effect
  · rw [asyncHandleMessage_document env coordinator named rfl, getNode_finish, handleJson,
      handleLastAuth, parsed]
    exact coordinator.getNode_update nodeId
      (fun node => { node with lastAuth := some auth }) fun _ => rfl

end Coordinator

namespace Node

/-- The record after messages about it; each arrives in the world of its subtopic. -/
def receiveAll (env : Subtopic → Env) (householdId : String) (node : Node)
    (messages : List HomeKeyMessage) : Node :=
  messages.foldl
    (fun current message =>
      current.receive (env ((Subtopic.ofString? message.subtopic).getD .status)) householdId
        message)
    node

@[simp]
theorem receiveAll_nil (env : Subtopic → Env) (householdId : String) (node : Node) :
    node.receiveAll env householdId [] = node := rfl

@[simp]
theorem receiveAll_cons (env : Subtopic → Env) (householdId : String) (node : Node)
    (message : HomeKeyMessage) (rest : List HomeKeyMessage) :
    node.receiveAll env householdId (message :: rest) =
      (node.receive (env ((Subtopic.ofString? message.subtopic).getD .status)) householdId
        message).receiveAll env householdId rest := rfl

theorem receiveAll_append (env : Subtopic → Env) (householdId : String) (node : Node)
    (first second : List HomeKeyMessage) :
    node.receiveAll env householdId (first ++ second) =
      (node.receiveAll env householdId first).receiveAll env householdId second :=
  List.foldl_append

end Node

namespace Coordinator

variable {coordinator : Coordinator} {householdId nodeId : String} {node : Node}

/-- The refinement: ingesting messages about a known node moves its record as the
messages alone say. -/
theorem getNode_ingest (env : Subtopic → Env) {messages : List HomeKeyMessage}
    (home : coordinator.householdId = householdId) (filled : nodeId ≠ "")
    (about : ∀ message ∈ messages, message.About householdId nodeId)
    (known : coordinator.getNode nodeId = some node) :
    (coordinator.ingest env messages).getNode nodeId =
      some (node.receiveAll env householdId messages) := by
  induction messages generalizing coordinator node with
  | nil => exact known
  | cons message rest ih =>
      have addressed := about message List.mem_cons_self
      rw [ingest_cons, Node.receiveAll_cons]
      refine ih ?_ (fun later member => about later (List.mem_cons_of_mem message member)) ?_
      · rw [householdId_asyncHandleMessage, home]
      · rw [getNode_asyncHandleMessage _ (addressed.1.trans home.symm) known
          (namedNode_of_about addressed filled), home]

/-- Messages about one node leave all other records alone. -/
theorem getNode_ingest_of_ne {env : Subtopic → Env} {other : String}
    {messages : List HomeKeyMessage} (coordinator : Coordinator)
    (about : ∀ message ∈ messages, message.About householdId nodeId) (apart : other ≠ nodeId) :
    (coordinator.ingest env messages).getNode other = coordinator.getNode other := by
  induction messages generalizing coordinator with
  | nil => rfl
  | cons message rest ih =>
      rw [ingest_cons,
        ih _ fun later member => about later (List.mem_cons_of_mem message member)]
      apply getNode_asyncHandleMessage_of_ne
      intro named
      have addressed := (about message List.mem_cons_self).2
      rw [namedNode, addressed, Option.filter_eq_some_iff] at named
      exact apart (Option.some.inj named.1).symm

end Coordinator

variable {householdId nodeId : String}

/-- The record of a node that has just said it is online. -/
def Node.shown (env : Env) (node : Node) : Node :=
  { node with online := true, lastSeen := some (Coordinator.nowIso env) }

/-- A feed moves the record from where it shows the node online. -/
theorem getNode_ingest_online (env : Subtopic → Env) {coordinator : Coordinator}
    (home : coordinator.householdId = householdId) (filled : nodeId ≠ "")
    {rest : List HomeKeyMessage} (about : ∀ message ∈ rest, message.About householdId nodeId) :
    (coordinator.ingest env (.online householdId nodeId :: rest)).getNode nodeId =
      some (((coordinator.ensureNode nodeId).2.shown (env .status)).receiveAll env householdId
        rest) := by
  obtain ⟨after, moved, -, known⟩ := Coordinator.handled_online (env .status) home filled
  have same : after.householdId = householdId := by
    rw [← moved, Coordinator.householdId_asyncHandleMessage, home]
  rw [Coordinator.ingest_cons, HomeKeyMessage.ofString?_subtopic_online, Option.getD_some, moved]
  exact Coordinator.getNode_ingest env same filled about known

end HomeKeyHousehold
