import HomeKeyHousehold.Library.Announcer
import HomeKeyHousehold.Coordinator

/-!
# The coordinator as an announcer of lock changes

Of everything a node keeps, four fields decide what is written to the logbook.
On these the coordinator is an announcer: an accepted `health` document is a
snapshot, an accepted `lock/last` document is an event, and no other message
changes them or writes an entry.
-/

namespace HomeKeyHousehold

open Library

/-- The value an event reports. -/
def eventValue (cause : LockChangeKey) : Int := cause.current

/-- The events Home Assistant attributes itself. -/
def isReportable (cause : LockChangeKey) : Bool := cause.source.isDeviceInitiated

/-- Reports about the lock of one node. -/
abbrev LockReport : Type := Report Int LockChangeKey

/-- What a node keeps about the cause of its lock's changes. -/
abbrev LockView : Type := Announcer Int LockChangeKey

def Node.lockView (node : Node) : LockView :=
  { reading := node.health.bind NodeHealth.lockCurrent
    event := node.lockChangeKey
    fresh := node.lockChangeIsFresh
    announced := node.attributedLockChange }

/-- A stamp that is found to be recent. -/
def isTimely (env : Env) (timestamp : Option String) : Bool :=
  match isRecent env timestamp with
  | .ok recent => recent
  | .error _ => false

namespace Coordinator

variable {env : Env} {coordinator : Coordinator}

def lockView (coordinator : Coordinator) (nodeId : String) : LockView :=
  ((coordinator.getNode nodeId).map Node.lockView).getD Announcer.initial

/-- The report a document makes about the lock of its node, when it is accepted. -/
def documentReport (env : Env) (householdId nodeId : String) (payload : Json) :
    Subtopic → Option (String × LockReport)
  | .health =>
      match NodeHealth.fromDict payload householdId nodeId with
      | .ok health => some (nodeId, .snapshot health.lockCurrent)
      | .error _ => none
  | .lockLast =>
      match LockChange.fromDict payload householdId nodeId with
      | .ok change => some (nodeId, .event change.key (isTimely env change.timestamp))
      | .error _ => none
  | _ => none

/-- The report a message makes about the lock of its node, when it is accepted. -/
def lockReport (env : Env) (householdId : String) (message : HomeKeyMessage) :
    Option (String × LockReport) :=
  if message.householdId = householdId then
    match Subtopic.ofString? message.subtopic, namedNode message, Json.loads message.payload with
    | some subtopic, some nodeId, some payload =>
        documentReport env householdId nodeId payload subtopic
    | _, _, _ => none
  else none

/-- A document sent about a node makes the report its parser accepts. -/
theorem lockReport_document (env : Env) {householdId nodeId : String} (named : nodeId ≠ "")
    (subtopic : Subtopic) (document : Json) (retain : Bool) :
    lockReport env householdId (.document householdId nodeId subtopic document retain) =
      documentReport env householdId nodeId document subtopic := by
  have identified : namedNode (.document householdId nodeId subtopic document retain) =
      some nodeId := namedNode_eq_some rfl named
  have decoded : Json.loads
      (HomeKeyMessage.document householdId nodeId subtopic document retain).payload =
        some document := Json.loads_dumps document
  rw [lockReport, identified, decoded]
  simp [HomeKeyMessage.document]

/-- A reported event is timely exactly when its stamp is found to be recent. -/
theorem timely_of_lockReport {householdId nodeId : String} {message : HomeKeyMessage}
    {cause : LockChangeKey} {timely : Bool}
    (made : lockReport env householdId message = some (nodeId, .event cause timely)) :
    timely = isTimely env cause.timestamp := by
  unfold lockReport at made
  split at made
  · split at made
    · next subtopic _ _ _ _ _ =>
        unfold documentReport at made
        split at made
        · split at made
          · cases made
          · cases made
        · split at made
          · cases made
            rfl
          · cases made
        · cases made
    · cases made
  · cases made

/-! ## What keeps the view -/

/-- Nothing that decides about announcements differs, and nothing was written. -/
structure SameView (before after : Coordinator) : Prop where
  householdId : after.householdId = before.householdId
  view : ∀ nodeId, after.lockView nodeId = before.lockView nodeId
  logbook : after.logbook = before.logbook
  contexts : after.contexts = before.contexts

theorem SameView.refl (coordinator : Coordinator) : SameView coordinator coordinator :=
  ⟨rfl, fun _ => rfl, rfl, rfl⟩

theorem SameView.trans {first second third : Coordinator} (one : SameView first second)
    (two : SameView second third) : SameView first third :=
  ⟨two.householdId.trans one.householdId, fun nodeId => (two.view nodeId).trans (one.view nodeId),
    two.logbook.trans one.logbook, two.contexts.trans one.contexts⟩

theorem lockView_putNode (coordinator : Coordinator) (node : Node) (nodeId : String) :
    (coordinator.putNode node).lockView nodeId =
      if nodeId = node.nodeId then node.lockView else coordinator.lockView nodeId := by
  rw [lockView, getNode_putNode]
  split
  · rfl
  · rfl

/-- Storing a node that looks the same keeps every view. -/
theorem sameView_putNode {node : Node}
    (same : node.lockView = coordinator.lockView node.nodeId) :
    SameView coordinator (coordinator.putNode node) := by
  refine ⟨rfl, ?_, rfl, rfl⟩
  intro nodeId
  rw [lockView_putNode]
  split
  · next named => rw [named, same]
  · rfl

theorem sameView_register (coordinator : Coordinator) (knownNodeIds : Finset String) :
    SameView coordinator { coordinator with knownNodeIds } :=
  ⟨rfl, fun _ => rfl, rfl, rfl⟩

theorem ensureNode_lockView (coordinator : Coordinator) (nodeId : String) :
    (coordinator.ensureNode nodeId).2.lockView = coordinator.lockView nodeId := by
  unfold ensureNode lockView
  split
  · next node known =>
      rw [known]
      rfl
  · next unknown =>
      rw [unknown]
      rfl

/-- Registering a node keeps every view. -/
theorem sameView_ensureNode (coordinator : Coordinator) (nodeId : String) :
    SameView coordinator (coordinator.ensureNode nodeId).1 := by
  unfold ensureNode
  split
  · exact SameView.refl coordinator
  · next unknown =>
      have same : (Node.ofId coordinator.householdId nodeId).lockView =
          coordinator.lockView (Node.ofId coordinator.householdId nodeId).nodeId := by
        rw [lockView]
        change _ = ((coordinator.getNode nodeId).map Node.lockView).getD Announcer.initial
        rw [unknown]
        rfl
      exact (sameView_putNode same).trans (sameView_register _ _)

/-- Registering a node and storing a change that the view does not show. -/
theorem sameView_update {nodeId : String} (change : Node → Node)
    (named : ∀ node, (change node).nodeId = node.nodeId)
    (unseen : ∀ node, (change node).lockView = node.lockView) :
    SameView coordinator
      ((coordinator.ensureNode nodeId).1.putNode (change (coordinator.ensureNode nodeId).2)) := by
  refine (sameView_ensureNode coordinator nodeId).trans (sameView_putNode ?_)
  rw [unseen, named, ensureNode_nodeId, (sameView_ensureNode coordinator nodeId).view,
    ensureNode_lockView]

theorem sameView_orReject {α : Type} {base : Coordinator} {result : Validated α}
    {accept : α → Coordinator} (kept : SameView base coordinator)
    (accepted : ∀ value, SameView base (accept value)) :
    SameView base (coordinator.orReject result accept).coordinator := by
  cases result with
  | ok value => exact accepted value
  | error reason => exact kept

theorem sameView_mergeNode (coordinator : Coordinator) {incoming : Node}
    (blank : incoming.lockView = Announcer.initial) :
    SameView coordinator (coordinator.mergeNode incoming) := by
  unfold mergeNode
  split
  · next unknown =>
      have same : incoming.lockView = coordinator.lockView incoming.nodeId := by
        rw [blank, lockView, unknown]
        rfl
      exact (sameView_putNode same).trans (sameView_register _ _)
  · next existing known =>
      apply sameView_putNode
      have named : existing.nodeId = incoming.nodeId := Keyed.key_of_get? known
      change existing.lockView = coordinator.lockView existing.nodeId
      rw [lockView, named, known]
      rfl

theorem lockView_of_fromState {householdId nodeId : String} {payload : Json} {node : Node}
    (parsed : Node.fromState householdId nodeId payload = .ok node) :
    node.lockView = Announcer.initial := by
  unfold Node.fromState at parsed
  cases document : NodeState.fromDict payload householdId nodeId with
  | error reason =>
      rw [document] at parsed
      cases parsed
  | ok state =>
      rw [document] at parsed
      cases parsed
      rfl

theorem sameView_finishUpdate (env : Env) (coordinator : Coordinator) :
    SameView coordinator (coordinator.finishUpdate env).coordinator := by
  unfold finishUpdate
  dsimp only
  split
  · exact ⟨rfl, fun _ => rfl, rfl, rfl⟩
  · exact ⟨rfl, fun _ => rfl, rfl, rfl⟩

theorem sameView_finish (env : Env) (handled : Handled) :
    SameView handled.coordinator (handled.finish env).coordinator := by
  unfold Handled.finish
  split
  · exact sameView_finishUpdate env handled.coordinator
  · exact SameView.refl _

/-! ## Announcements -/

/-- Announce a cause, if there is one. -/
def announceSome (env : Env) (coordinator : Coordinator) (node : Node) :
    Option LockChangeKey → Coordinator
  | none => coordinator
  | some cause => coordinator.announce env node cause

/-- The entries of an announcement, if there is one and the logbook works. -/
def newEntries (env : Env) (node : Node) (context : Nat) (made : Option LockChangeKey) :
    List LogbookEntry :=
  if env.logbookWorks then
    made.toList.map fun cause => lockCauseEntry env node cause context
  else []

@[simp]
theorem lockView_announceSome (coordinator : Coordinator) (node : Node)
    (made : Option LockChangeKey) (nodeId : String) :
    (coordinator.announceSome env node made).lockView nodeId = coordinator.lockView nodeId := by
  cases made with
  | none => rfl
  | some cause => rfl

@[simp]
theorem householdId_announceSome (coordinator : Coordinator) (node : Node)
    (made : Option LockChangeKey) :
    (coordinator.announceSome env node made).householdId = coordinator.householdId := by
  cases made with
  | none => rfl
  | some cause => rfl

theorem logbook_announceSome (coordinator : Coordinator) (node : Node)
    (made : Option LockChangeKey) :
    (coordinator.announceSome env node made).logbook =
      coordinator.logbook ++ newEntries env node coordinator.contexts made := by
  unfold newEntries
  cases made with
  | none =>
      split
      · exact (List.append_nil _).symm
      · exact (List.append_nil _).symm
  | some cause =>
      unfold announceSome announce
      dsimp only
      split
      · rfl
      · exact (List.append_nil _).symm

/-- The snapshot path announces what the announcer does. -/
theorem attributeLockChange_eq (coordinator : Coordinator) (node : Node)
    (previousCurrent : Option Int) (health : NodeHealth) :
    coordinator.attributeLockChange env node previousCurrent health =
      coordinator.announceSome env node
        ({ node.lockView with reading := previousCurrent }.announces eventValue isReportable
          (.snapshot health.lockCurrent)) := by
  unfold attributeLockChange Announcer.announces Node.lockView Node.lockChangeKey
  cases previousCurrent with
  | none => rfl
  | some previous =>
      cases health.lockCurrent with
      | none => rfl
      | some current =>
          cases node.lockChange with
          | none => rfl
          | some change =>
              simp only [Option.map_some, eventValue, isReportable, LockChange.key]
              by_cases same : current = previous
              · simp [same, announceSome]
              by_cases other : change.current = current
              swap
              · simp [same, other, announceSome]
              subst other
              by_cases known : node.attributedLockChange =
                  some ⟨change.timestamp, change.current, change.source⟩
              · simp [same, known, announceSome]
              by_cases initiated : change.source.isDeviceInitiated = true
              · simp [same, known, initiated, announceSome]
              · simp [same, initiated, announceSome]

/-- The event path announces what the announcer does, and remembers it. -/
theorem attributeLockEvent_eq (coordinator : Coordinator) (node : Node) (change : LockChange) :
    coordinator.attributeLockEvent env node change =
      match node.lockView.announces eventValue isReportable
          (.event change.key (isTimely env change.timestamp)) with
      | none => coordinator
      | some cause =>
          (coordinator.putNode { node with attributedLockChange := some cause }).announce env node
            cause := by
  unfold attributeLockEvent Announcer.announces Node.lockView isTimely
  simp only [isReportable, LockChange.key]
  by_cases initiated : change.source.isDeviceInitiated = true
  swap
  · simp [initiated]
  by_cases known : node.attributedLockChange =
      some ⟨change.timestamp, change.current, change.source⟩
  · simp [initiated, known]
  · cases recent : isRecent env change.timestamp with
    | error raised => simp [initiated, known]
    | ok value =>
        cases value with
        | false => simp [initiated, known]
        | true => simp [initiated, known]

/-- A node is called, and was last opened by, what is on record for its id. -/
structure Described (coordinator : Coordinator) (nodeId : String) (node : Node) : Prop where
  named : node.nodeId = nodeId
  nodeName : node.nodeName = (coordinator.ensureNode nodeId).2.nodeName
  lastAuth : node.lastAuth = (coordinator.ensureNode nodeId).2.lastAuth

/-- What an accepted report does to the views and the logbook. -/
structure Reported (env : Env) (before after : Coordinator) (nodeId : String)
    (report : LockReport) : Prop where
  householdId : after.householdId = before.householdId
  view : after.lockView nodeId =
    (before.lockView nodeId).next eventValue isReportable report
  others : ∀ other, other ≠ nodeId → after.lockView other = before.lockView other
  logbook : ∃ node : Node, Described before nodeId node ∧
    after.logbook = before.logbook ++ newEntries env node before.contexts
      ((before.lockView nodeId).announces eventValue isReportable report)

theorem Reported.trans {before middle after : Coordinator} {nodeId : String}
    {report : LockReport} (reported : Reported env before middle nodeId report)
    (same : SameView middle after) : Reported env before after nodeId report := by
  obtain ⟨node, described, logbook⟩ := reported.logbook
  exact ⟨same.householdId.trans reported.householdId, (same.view nodeId).trans reported.view,
    fun other apart => (same.view other).trans (reported.others other apart),
    node, described, same.logbook.trans logbook⟩

/-- What a message does, by the report it makes. -/
def Effect (env : Env) (before after : Coordinator) : Option (String × LockReport) → Prop
  | none => SameView before after
  | some (nodeId, report) => Reported env before after nodeId report

theorem Effect.trans {before middle after : Coordinator} {made : Option (String × LockReport)}
    (effect : Effect env before middle made) (same : SameView middle after) :
    Effect env before after made := by
  cases made with
  | none => exact SameView.trans effect same
  | some report => exact Reported.trans effect same

/-! ## The handlers -/

theorem sameView_handlePlain (coordinator : Coordinator) (nodeId payload : String)
    (subtopic : Subtopic) :
    SameView coordinator (coordinator.handlePlain env nodeId payload subtopic).coordinator := by
  have refl := SameView.refl coordinator
  cases subtopic with
  | legacyStatus =>
      rw [handlePlain, handleLegacyStatus]
      refine sameView_orReject refl fun online => ?_
      split
      · exact refl
      · next node known =>
          apply sameView_putNode
          have named : node.nodeId = nodeId := Keyed.key_of_get? known
          change node.lockView = coordinator.lockView node.nodeId
          rw [lockView, named, known]
          rfl
  | status =>
      rw [handlePlain, handleNodeStatus]
      exact sameView_orReject refl fun online =>
        sameView_update (fun node => { node with online, lastSeen := some (nowIso env) })
          (fun _ => rfl) (fun _ => rfl)
  | security =>
      rw [handlePlain, handleSecurity]
      exact sameView_orReject refl fun value =>
        sameView_update (fun node => { node with security := some value })
          (fun _ => rfl) (fun _ => rfl)
  | backupStatus =>
      rw [handlePlain, handleBackupStatus]
      exact sameView_orReject refl fun outcome =>
        sameView_update (fun node => { node with backupStatus := some outcome })
          (fun _ => rfl) (fun _ => rfl)
  | state | health | lockLast | backupLast | lastAuth | guestStatus => exact refl

/-- An accepted health document is a snapshot. -/
theorem reported_handleHealth {nodeId : String} {payload : Json} {health : NodeHealth}
    (parsed : NodeHealth.fromDict payload coordinator.householdId nodeId = .ok health) :
    Reported env coordinator (coordinator.handleHealth env nodeId payload).coordinator nodeId
      (.snapshot health.lockCurrent) := by
  have ensured := sameView_ensureNode coordinator nodeId
  have named := ensureNode_nodeId coordinator nodeId
  have viewed := ensureNode_lockView coordinator nodeId
  rw [handleHealth]
  dsimp only
  rw [parsed, orReject]
  dsimp only
  rw [attributeLockChange_eq]
  refine ⟨?_, ?_, ?_, _, ⟨named, rfl, rfl⟩, ?_⟩
  · rw [householdId_announceSome]
    exact ensured.householdId
  · rw [lockView_announceSome, lockView_putNode, if_pos named.symm, ← viewed]
    rfl
  · intro other apart
    rw [lockView_announceSome, lockView_putNode, if_neg (by rwa [named])]
    exact ensured.view other
  · rw [logbook_announceSome]
    change (coordinator.ensureNode nodeId).1.logbook ++
      newEntries env _ (coordinator.ensureNode nodeId).1.contexts _ = _
    rw [ensured.logbook, ensured.contexts, ← viewed]
    rfl

/-- Storing an event, and announcing it when it is to be announced. -/
theorem reported_attributeLockEvent {ensured : Coordinator} {nodeId : String} {stored : Node}
    {change : LockChange} (same : SameView coordinator ensured)
    (described : Described coordinator nodeId stored)
    (viewed : stored.lockView =
      { coordinator.lockView nodeId with event := some change.key, fresh := true }) :
    Reported env coordinator
      ((ensured.putNode stored).attributeLockEvent env stored change) nodeId
      (.event change.key (isTimely env change.timestamp)) := by
  obtain rfl := described.named
  have decided : stored.lockView.announces eventValue isReportable
        (.event change.key (isTimely env change.timestamp)) =
      (coordinator.lockView stored.nodeId).announces eventValue isReportable
        (.event change.key (isTimely env change.timestamp)) := by
    rw [viewed]
    rfl
  rw [attributeLockEvent_eq, decided]
  cases made : (coordinator.lockView stored.nodeId).announces eventValue isReportable
      (.event change.key (isTimely env change.timestamp)) with
  | none =>
      refine ⟨same.householdId, ?_, ?_, stored, described, ?_⟩
      · rw [lockView_putNode, if_pos rfl, Announcer.next, made, viewed]
        rfl
      · intro other apart
        rw [lockView_putNode, if_neg apart]
        exact same.view other
      · rw [made, newEntries, Option.toList_none, List.map_nil, ite_self, List.append_nil]
        exact same.logbook
  | some cause =>
      obtain ⟨rfl, -⟩ := Announcer.announces_event_eq_some made
      have remembered : ({ stored with attributedLockChange := some change.key } : Node).lockView =
          { stored.lockView with announced := some change.key } := rfl
      refine ⟨same.householdId, ?_, ?_, stored, described, ?_⟩
      · change ((ensured.putNode stored).putNode
          { stored with attributedLockChange := some change.key }).lockView stored.nodeId = _
        rw [lockView_putNode, if_pos rfl, Announcer.next, made, remembered, viewed]
        rfl
      · intro other apart
        change ((ensured.putNode stored).putNode
          { stored with attributedLockChange := some change.key }).lockView other = _
        rw [lockView_putNode, if_neg apart, lockView_putNode, if_neg apart]
        exact same.view other
      · rw [made]
        change (((ensured.putNode stored).putNode
          { stored with attributedLockChange := some change.key }).announceSome env stored
            (some change.key)).logbook = _
        rw [logbook_announceSome]
        change ensured.logbook ++ newEntries env stored ensured.contexts _ = _
        rw [same.logbook, same.contexts]

/-- An accepted `lock/last` document is an event. -/
theorem reported_handleLockLast {nodeId : String} {payload : Json} {change : LockChange}
    (parsed : LockChange.fromDict payload coordinator.householdId nodeId = .ok change) :
    Reported env coordinator (coordinator.handleLockLast env nodeId payload).coordinator nodeId
      (.event change.key (isTimely env change.timestamp)) := by
  have named := ensureNode_nodeId coordinator nodeId
  have viewed := ensureNode_lockView coordinator nodeId
  rw [handleLockLast]
  dsimp only
  rw [parsed, orReject]
  dsimp only
  refine reported_attributeLockEvent (sameView_ensureNode coordinator nodeId)
    ⟨named, rfl, rfl⟩ ?_
  rw [← viewed]
  rfl

theorem effect_handleJson (coordinator : Coordinator) (nodeId : String) (payload : Json)
    (subtopic : Subtopic) :
    Effect env coordinator (coordinator.handleJson env nodeId payload subtopic).coordinator
      (documentReport env coordinator.householdId nodeId payload subtopic) := by
  have refl := SameView.refl coordinator
  cases subtopic with
  | health =>
      rw [handleJson, documentReport]
      cases parsed : NodeHealth.fromDict payload coordinator.householdId nodeId with
      | ok health => exact reported_handleHealth parsed
      | error reason =>
          rw [handleHealth]
          dsimp only
          rw [parsed]
          exact sameView_ensureNode coordinator nodeId
  | lockLast =>
      rw [handleJson, documentReport]
      cases parsed : LockChange.fromDict payload coordinator.householdId nodeId with
      | ok change => exact reported_handleLockLast parsed
      | error reason =>
          rw [handleLockLast]
          dsimp only
          rw [parsed]
          exact sameView_ensureNode coordinator nodeId
  | state =>
      rw [handleJson, handleState]
      cases parsed : Node.fromState coordinator.householdId nodeId payload with
      | ok node => exact sameView_mergeNode coordinator (lockView_of_fromState parsed)
      | error reason => exact refl
  | backupLast =>
      rw [handleJson, handleBackupLast]
      exact sameView_orReject refl fun record =>
        sameView_update (fun node => { node with backup := some record })
          (fun _ => rfl) (fun _ => rfl)
  | lastAuth =>
      rw [handleJson, handleLastAuth]
      exact sameView_orReject refl fun auth =>
        sameView_update (fun node => { node with lastAuth := some auth })
          (fun _ => rfl) (fun _ => rfl)
  | guestStatus =>
      rw [handleJson, handleGuestStatus]
      exact sameView_orReject refl fun guest =>
        sameView_update (fun node => { node with guest := some guest })
          (fun _ => rfl) (fun _ => rfl)
  | legacyStatus | status | security | backupStatus => exact refl

/-- The simulation: a message acts on the views and the logbook as the report it
makes does. -/
theorem effect_asyncHandleMessage (env : Env) (coordinator : Coordinator)
    (message : HomeKeyMessage) :
    Effect env coordinator (coordinator.asyncHandleMessage env message).coordinator
      (lockReport env coordinator.householdId message) := by
  have refl := SameView.refl coordinator
  unfold asyncHandleMessage lockReport
  by_cases addressed : message.householdId = coordinator.householdId
  swap
  · rw [if_neg addressed, if_neg addressed]
    exact refl
  rw [if_pos addressed, if_pos addressed]
  unfold dispatch decodeJson
  cases Subtopic.ofString? message.subtopic with
  | none =>
      cases namedNode message with
      | none => exact refl
      | some nodeId =>
          cases Json.loads message.payload with
          | none => exact refl
          | some payload => exact refl
  | some subtopic =>
      dsimp only
      cases documented : subtopic.isJson with
      | true =>
          rw [if_pos rfl]
          cases Json.loads message.payload with
          | none =>
              cases namedNode message with
              | none => exact refl
              | some nodeId => exact refl
          | some payload =>
              cases namedNode message with
              | none => exact refl
              | some nodeId =>
                  exact (effect_handleJson coordinator nodeId payload subtopic).trans
                    (sameView_finish env _)
      | false =>
          rw [if_neg Bool.false_ne_true]
          cases namedNode message with
          | none => exact refl
          | some nodeId =>
              have plain := (@sameView_handlePlain env coordinator nodeId message.payload
                subtopic).trans (sameView_finish env _)
              cases Json.loads message.payload with
              | none => exact plain
              | some payload =>
                  cases subtopic with
                  | legacyStatus | status | security | backupStatus => exact plain
                  | state | health | lockLast | backupLast | lastAuth | guestStatus =>
                      cases documented

end Coordinator

end HomeKeyHousehold
