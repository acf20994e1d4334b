import HomeKeyHousehold.LockCauses

/-!
# Causes waiting for the entities

A cause waits under its node from the moment it is announced until the update has
been delivered.  It is dropped by the last statement of that update, which an
entity that raises is enough to skip.
-/

namespace HomeKeyHousehold

open Library

namespace Coordinator

variable {env : Env} {coordinator : Coordinator} {message : HomeKeyMessage}

/-- `pending_context`. -/
def pendingContext (coordinator : Coordinator) (nodeId : String) : Option Nat :=
  (coordinator.pendingContexts.get? nodeId).map Prod.snd

/-! ## One message, up to its listeners -/

/-- What the branch of a message makes of it, before the update is finished. -/
def branch (env : Env) (coordinator : Coordinator) (message : HomeKeyMessage) : Option Handled :=
  if message.householdId = coordinator.householdId then
    match Subtopic.ofString? message.subtopic, namedNode message with
    | some subtopic, some nodeId =>
        if subtopic.isJson then
          match decodeJson message.payload with
          | .ok payload => some (coordinator.handleJson env nodeId payload subtopic)
          | .error _ => none
        else some (coordinator.handlePlain env nodeId message.payload subtopic)
    | _, _ => none
  else none

/-- A message is its branch, finished. -/
theorem coordinator_asyncHandleMessage (env : Env) (coordinator : Coordinator)
    (message : HomeKeyMessage) :
    (coordinator.asyncHandleMessage env message).coordinator =
      match branch env coordinator message with
      | none => coordinator
      | some handled => (handled.finish env).coordinator := by
  unfold asyncHandleMessage branch dispatch
  by_cases home : message.householdId = coordinator.householdId
  · rw [if_pos home, if_pos home]
    cases Subtopic.ofString? message.subtopic with
    | none => rfl
    | some subtopic =>
        dsimp only
        cases namedNode message with
        | none => split <;> [(cases decodeJson message.payload <;> rfl); rfl]
        | some nodeId =>
            dsimp only
            cases json : subtopic.isJson with
            | true =>
                rw [if_pos rfl, if_pos rfl]
                cases decodeJson message.payload <;> rfl
            | false => rw [if_neg Bool.false_ne_true, if_neg Bool.false_ne_true]
  · rw [if_neg home, if_neg home]

/-- What the listeners see while they run, if the message leads to an update. -/
def shown (env : Env) (coordinator : Coordinator) (message : HomeKeyMessage) :
    Option Coordinator :=
  (branch env coordinator message).bind fun handled =>
    match handled.raised with
    | none => some { handled.coordinator with pool := some handled.coordinator.nodes }
    | some _ => none

/-- The cause a message makes the coordinator announce, and its node: that of a timely
event, or of the change a health document shows. -/
def announcement (env : Env) (coordinator : Coordinator) (message : HomeKeyMessage) :
    Option (String × LockChangeKey) :=
  (lockReport env coordinator.householdId message).bind fun entry =>
    ((coordinator.lockView entry.1).announces eventValue isReportable entry.2).map
      (Prod.mk entry.1)

/-! ## What a branch leaves pending -/

/-- The pending causes with that of an announcement. -/
def withCause (coordinator : Coordinator) :
    Option (String × LockChangeKey) → Keyed (Prod.fst : PendingContext → String)
  | none => coordinator.pendingContexts
  | some (nodeId, _) => coordinator.pendingContexts.put (nodeId, coordinator.contexts)

/-- What a document announces. -/
def documentAnnouncement (env : Env) (coordinator : Coordinator) (nodeId : String)
    (payload : Json) (subtopic : Subtopic) : Option (String × LockChangeKey) :=
  (documentReport env coordinator.householdId nodeId payload subtopic).bind fun entry =>
    ((coordinator.lockView entry.1).announces eventValue isReportable entry.2).map
      (Prod.mk entry.1)

theorem framed_pendingContexts : Framed Coordinator.pendingContexts :=
  ⟨fun _ _ => rfl, fun _ _ => rfl⟩

theorem pendingContexts_announceSome (coordinator : Coordinator) (node : Node)
    (made : Option LockChangeKey) :
    (coordinator.announceSome env node made).pendingContexts =
      coordinator.withCause (made.map (Prod.mk node.nodeId)) := by
  cases made with
  | none => rfl
  | some cause => rfl

theorem withCause_congr {other : Coordinator}
    (pending : other.pendingContexts = coordinator.pendingContexts)
    (contexts : other.contexts = coordinator.contexts) (made : Option (String × LockChangeKey)) :
    other.withCause made = coordinator.withCause made := by
  cases made with
  | none => exact pending
  | some cause => rw [withCause, withCause, pending, contexts]

/-- The snapshot path leaves the cause the announcer names. -/
theorem pendingContexts_handleHealth {nodeId : String} {payload : Json} {health : NodeHealth}
    (parsed : NodeHealth.fromDict payload coordinator.householdId nodeId = .ok health) :
    (coordinator.handleHealth env nodeId payload).coordinator.pendingContexts =
      coordinator.withCause (((coordinator.lockView nodeId).announces eventValue isReportable
        (.snapshot health.lockCurrent)).map (Prod.mk nodeId)) := by
  have ensured := sameView_ensureNode coordinator nodeId
  have named := ensureNode_nodeId coordinator nodeId
  rw [handleHealth]
  dsimp only
  rw [parsed, orReject]
  dsimp only
  rw [attributeLockChange_eq, pendingContexts_announceSome, named,
    ← ensureNode_lockView coordinator nodeId]
  exact withCause_congr (framed_pendingContexts.ensureNode coordinator nodeId) ensured.contexts _

theorem pendingContexts_attributeLockEvent (coordinator : Coordinator) (node : Node)
    (change : LockChange) :
    (coordinator.attributeLockEvent env node change).pendingContexts =
      coordinator.withCause ((node.lockView.announces eventValue isReportable
        (.event change.key (isTimely env change.timestamp))).map (Prod.mk node.nodeId)) := by
  rw [attributeLockEvent_eq]
  cases node.lockView.announces eventValue isReportable
    (.event change.key (isTimely env change.timestamp)) with
  | none => rfl
  | some cause => rfl

/-- The event path leaves the cause the announcer names. -/
theorem pendingContexts_handleLockLast {nodeId : String} {payload : Json} {change : LockChange}
    (parsed : LockChange.fromDict payload coordinator.householdId nodeId = .ok change) :
    (coordinator.handleLockLast env nodeId payload).coordinator.pendingContexts =
      coordinator.withCause (((coordinator.lockView nodeId).announces eventValue isReportable
        (.event change.key (isTimely env change.timestamp))).map (Prod.mk nodeId)) := by
  have ensured := sameView_ensureNode coordinator nodeId
  have named := ensureNode_nodeId coordinator nodeId
  have pending := framed_pendingContexts.ensureNode coordinator nodeId
  rw [handleLockLast]
  dsimp only
  rw [parsed, orReject]
  dsimp only
  rw [pendingContexts_attributeLockEvent, ← ensureNode_lockView coordinator nodeId]
  generalize (coordinator.ensureNode nodeId).2 = node at named
  subst named
  exact withCause_congr pending ensured.contexts
    ((node.lockView.announces eventValue isReportable
      (.event change.key (isTimely env change.timestamp))).map (Prod.mk node.nodeId))

/-- An accepted document raises nothing. -/
theorem raised_handleJson {nodeId : String} {payload : Json} {subtopic : Subtopic}
    {entry : String × LockReport}
    (made : documentReport env coordinator.householdId nodeId payload subtopic = some entry) :
    (coordinator.handleJson env nodeId payload subtopic).raised = none := by
  cases subtopic with
  | health =>
      rw [documentReport] at made
      rw [handleJson, handleHealth]
      cases parsed : NodeHealth.fromDict payload coordinator.householdId nodeId with
      | ok health => rfl
      | error reason =>
          rw [parsed] at made
          cases made
  | lockLast =>
      rw [documentReport] at made
      rw [handleJson, handleLockLast]
      cases parsed : LockChange.fromDict payload coordinator.householdId nodeId with
      | ok change => rfl
      | error reason =>
          rw [parsed] at made
          cases made
  | state | backupLast | lastAuth | guestStatus | legacyStatus | status | security
  | backupStatus => cases made

/-- Only documents about the lock announce anything. -/
theorem documentAnnouncement_of_other {nodeId : String} {payload : Json} {subtopic : Subtopic}
    (unsampled : subtopic ≠ .health) (eventless : subtopic ≠ .lockLast) :
    coordinator.documentAnnouncement env nodeId payload subtopic = none := by
  cases subtopic with
  | health => exact absurd rfl unsampled
  | lockLast => exact absurd rfl eventless
  | state | backupLast | lastAuth | guestStatus | legacyStatus | status | security
  | backupStatus => rfl

theorem pendingContexts_handleJson (coordinator : Coordinator) (nodeId : String) (payload : Json)
    (subtopic : Subtopic) :
    (coordinator.handleJson env nodeId payload subtopic).coordinator.pendingContexts =
      coordinator.withCause
        (coordinator.documentAnnouncement env nodeId payload subtopic) := by
  have ensured := framed_pendingContexts.ensureNode coordinator nodeId
  by_cases sampled : subtopic = .health
  · subst sampled
    rw [handleJson, documentAnnouncement, documentReport]
    cases parsed : NodeHealth.fromDict payload coordinator.householdId nodeId with
    | ok health => exact pendingContexts_handleHealth parsed
    | error reason =>
        rw [handleHealth]
        dsimp only
        rw [parsed]
        exact ensured
  · by_cases event : subtopic = .lockLast
    · subst event
      rw [handleJson, documentAnnouncement, documentReport]
      cases parsed : LockChange.fromDict payload coordinator.householdId nodeId with
      | ok change => exact pendingContexts_handleLockLast parsed
      | error reason =>
          rw [handleLockLast]
          dsimp only
          rw [parsed]
          exact ensured
    · rw [documentAnnouncement_of_other sampled event]
      exact framed_pendingContexts.handleJson coordinator nodeId payload sampled event

/-- What a branch does about causes: it leaves that of an announcement pending, writes
its entry if the logbook works, and then raises nothing. -/
structure LeavesCause (env : Env) (before : Coordinator) (handled : Handled)
    (made : Option (String × LockChangeKey)) : Prop where
  pending : handled.coordinator.pendingContexts = before.withCause made
  raised : made ≠ none → handled.raised = none
  logbook : ∀ nodeId cause, made = some (nodeId, cause) → ∃ node : Node, node.nodeId = nodeId ∧
    handled.coordinator.logbook = before.logbook ++
      newEntries env node before.contexts (some cause)

theorem leavesCause_handleJson (coordinator : Coordinator) (nodeId : String) (payload : Json)
    (subtopic : Subtopic) :
    LeavesCause env coordinator (coordinator.handleJson env nodeId payload subtopic)
      (coordinator.documentAnnouncement env nodeId payload subtopic) where
  pending := pendingContexts_handleJson coordinator nodeId payload subtopic
  raised := by
    intro announced
    unfold documentAnnouncement at announced
    cases made : documentReport env coordinator.householdId nodeId payload subtopic with
    | none => exact absurd (by rw [made]; rfl) announced
    | some entry => exact raised_handleJson made
  logbook := by
    intro named cause announced
    have effect : Effect env coordinator _ _ :=
      effect_handleJson coordinator nodeId payload subtopic
    unfold documentAnnouncement at announced
    obtain ⟨⟨about, report⟩, made, named⟩ := Option.bind_eq_some_iff.mp announced
    obtain ⟨told, announces, same⟩ := Option.map_eq_some_iff.mp named
    cases same
    rw [made] at effect
    obtain ⟨node, described, logbook⟩ := Reported.logbook effect
    exact ⟨node, described.named, announces ▸ logbook⟩

theorem leavesCause_handlePlain (coordinator : Coordinator) (nodeId payload : String)
    (subtopic : Subtopic) :
    LeavesCause env coordinator (coordinator.handlePlain env nodeId payload subtopic) none where
  pending := framed_pendingContexts.handlePlain coordinator nodeId payload subtopic
  raised := fun announced => absurd rfl announced
  logbook := by
    intro named cause announced
    cases announced

/-- A message that is decoded announces what its document does. -/
theorem announcement_eq {nodeId : String} {payload : Json} {subtopic : Subtopic}
    (home : message.householdId = coordinator.householdId)
    (spelled : Subtopic.ofString? message.subtopic = some subtopic)
    (named : namedNode message = some nodeId) (loaded : Json.loads message.payload = some payload) :
    announcement env coordinator message =
      coordinator.documentAnnouncement env nodeId payload subtopic := by
  rw [announcement, lockReport, if_pos home, spelled, named, loaded]
  rfl

/-- What a message announces is announced by its branch. -/
theorem leavesCause_branch {handled : Handled}
    (reached : branch env coordinator message = some handled) :
    LeavesCause env coordinator handled (announcement env coordinator message) := by
  unfold branch at reached
  split at reached
  · next home =>
      split at reached
      · next subtopic nodeId spelled named =>
          cases json : subtopic.isJson with
          | true =>
              rw [json, if_pos rfl] at reached
              cases loaded : Json.loads message.payload with
              | none =>
                  rw [decodeJson, loaded] at reached
                  cases reached
              | some payload =>
                  rw [decodeJson, loaded] at reached
                  cases reached
                  rw [announcement_eq home spelled named loaded]
                  exact leavesCause_handleJson coordinator nodeId payload subtopic
          | false =>
              rw [json, if_neg Bool.false_ne_true] at reached
              cases reached
              have silent : announcement env coordinator message = none := by
                cases loaded : Json.loads message.payload with
                | none => rw [announcement, lockReport, if_pos home, spelled, named, loaded]; rfl
                | some payload =>
                    rw [announcement_eq home spelled named loaded]
                    refine documentAnnouncement_of_other ?_ ?_
                    · rintro rfl
                      cases json
                    · rintro rfl
                      cases json
              rw [silent]
              exact leavesCause_handlePlain coordinator nodeId message.payload subtopic
      · cases reached
  · cases reached

/-- A message that reaches no branch announces nothing. -/
theorem announcement_of_no_branch (unreached : branch env coordinator message = none) :
    announcement env coordinator message = none := by
  cases announced : announcement env coordinator message with
  | none => rfl
  | some cause =>
      obtain ⟨entry, made, -⟩ := Option.bind_eq_some_iff.mp announced
      unfold lockReport at made
      split at made
      · next home =>
          split at made
          · next subtopic nodeId payload spelled named loaded =>
              unfold branch at unreached
              rw [if_pos home, spelled, named] at unreached
              dsimp only at unreached
              rw [decodeJson, loaded] at unreached
              split at unreached
              · cases unreached
              · cases unreached
          · cases made
      · cases made

/-! ## The promise about causes -/

/-- After a message no cause is pending, and while its listeners run a cause is pending
for a node only if this message wrote an entry about the node with that context. -/
structure CausesOwn (env : Env) (before : Coordinator) (message : HomeKeyMessage) : Prop where
  cleared : ∀ nodeId,
    (before.asyncHandleMessage env message).coordinator.pendingContext nodeId = none
  own : ∀ listened, shown env before message = some listened →
    ∀ nodeId context, listened.pendingContext nodeId = some context →
      ∃ written, listened.logbook = before.logbook ++ written ∧
        ∃ entry ∈ written, entry.nodeId = nodeId ∧ entry.context = context

/-- A message that announces a cause does so while the logbook works and to listeners
that do not raise. -/
def CauseDelivered (env : Env) (before : Coordinator) (message : HomeKeyMessage) : Prop :=
  announcement env before message ≠ none → env.logbookWorks = true ∧ env.listenersRaise = false

/-- No cause is pending. -/
def Clear (coordinator : Coordinator) : Prop := ∀ nodeId, coordinator.pendingContext nodeId = none

theorem pendingContext_of_withCause {after : Coordinator} {made : Option (String × LockChangeKey)}
    (clear : Clear coordinator) (pending : after.pendingContexts = coordinator.withCause made)
    (nodeId : String) :
    after.pendingContext nodeId =
      if made.map Prod.fst = some nodeId then some coordinator.contexts else none := by
  rw [pendingContext, pending]
  cases made with
  | none => exact clear nodeId
  | some cause =>
      rw [withCause, Keyed.get?_put]
      by_cases same : nodeId = cause.1
      · rw [if_pos same]
        exact (if_pos (congrArg some same.symm)).symm
      · rw [if_neg same]
        exact (clear nodeId).trans (if_neg fun equal => same (Option.some.inj equal).symm).symm

/-- Where a cause is announced, the listeners of the update see it under its node. -/
theorem shown_of_announcement {nodeId : String} {cause : LockChangeKey}
    (announced : announcement env coordinator message = some (nodeId, cause)) :
    ∃ handled, branch env coordinator message = some handled ∧ handled.raised = none ∧
      LeavesCause env coordinator handled (some (nodeId, cause)) ∧
      shown env coordinator message =
        some { handled.coordinator with pool := some handled.coordinator.nodes } := by
  cases reached : branch env coordinator message with
  | none =>
      rw [announcement_of_no_branch reached] at announced
      cases announced
  | some handled =>
      have leaves := leavesCause_branch reached
      rw [announced] at leaves
      have raised := leaves.raised (Option.some_ne_none _)
      exact ⟨handled, rfl, raised, leaves, by rw [shown, reached, Option.bind_some, raised]⟩

/-- An update that is delivered drops all causes; one that is not keeps them. -/
theorem pendingContexts_finish {handled : Handled} (raised : handled.raised = none) :
    (handled.finish env).coordinator.pendingContexts =
      if env.listenersRaise then handled.coordinator.pendingContexts else .empty := by
  rw [Handled.finish, raised]
  dsimp only
  rw [finishUpdate]
  split <;> rfl

/-- A message that announces nothing leaves a clear state clear. -/
theorem clear_of_silent (clear : Clear coordinator)
    (silent : announcement env coordinator message = none) :
    Clear (coordinator.asyncHandleMessage env message).coordinator := by
  intro nodeId
  rw [coordinator_asyncHandleMessage]
  cases reached : branch env coordinator message with
  | none => exact clear nodeId
  | some handled =>
      have leaves := leavesCause_branch reached
      rw [silent] at leaves
      have kept : handled.coordinator.pendingContext nodeId = none :=
        pendingContext_of_withCause clear leaves.pending nodeId
      dsimp only
      cases raised : handled.raised with
      | some exception =>
          rw [Handled.finish, raised]
          exact kept
      | none =>
          rw [pendingContext, pendingContexts_finish raised]
          split
          · exact kept
          · rfl

/-- A message that announces nothing shows its listeners no cause. -/
theorem causesOwn_of_silent (clear : Clear coordinator)
    (silent : announcement env coordinator message = none) :
    CausesOwn env coordinator message where
  cleared := clear_of_silent clear silent
  own := by
    intro listened seen nodeId context waiting
    obtain ⟨handled, reached, made⟩ := Option.bind_eq_some_iff.mp seen
    have leaves := leavesCause_branch reached
    rw [silent] at leaves
    have nothing : listened.pendingContext nodeId = none := by
      split at made
      · cases made
        exact pendingContext_of_withCause clear leaves.pending nodeId
      · cases made
    rw [nothing] at waiting
    cases waiting

/-- After an update a cause is still there exactly when a listener raised. -/
theorem pendingContext_after {handled : Handled}
    (reached : branch env coordinator message = some handled) (raised : handled.raised = none)
    (nodeId : String) :
    (coordinator.asyncHandleMessage env message).coordinator.pendingContext nodeId =
      if env.listenersRaise then handled.coordinator.pendingContext nodeId else none := by
  rw [coordinator_asyncHandleMessage, reached, pendingContext]
  dsimp only
  rw [pendingContexts_finish raised]
  split
  · rfl
  · rfl

/-- An announced cause needs a logbook that works and listeners that do not raise. -/
theorem delivered_of_causesOwn (clear : Clear coordinator) {nodeId : String}
    {cause : LockChangeKey}
    (announced : announcement env coordinator message = some (nodeId, cause))
    (promise : CausesOwn env coordinator message) :
    env.logbookWorks = true ∧ env.listenersRaise = false := by
  obtain ⟨handled, reached, raised, leaves, seen⟩ := shown_of_announcement announced
  obtain ⟨node, same, logbook⟩ := leaves.logbook nodeId cause rfl
  have waiting : handled.coordinator.pendingContext nodeId = some coordinator.contexts :=
    (pendingContext_of_withCause clear leaves.pending nodeId).trans (if_pos rfl)
  constructor
  · obtain ⟨written, grown, entry, member, -⟩ :=
      promise.own _ seen nodeId coordinator.contexts waiting
    have entries : written = newEntries env node coordinator.contexts (some cause) :=
      List.append_cancel_left (grown.symm.trans logbook)
    by_contra fails
    rw [entries, newEntries, if_neg fails] at member
    cases member
  · have dropped := promise.cleared nodeId
    rw [pendingContext_after reached raised, waiting] at dropped
    cases raises : env.listenersRaise with
    | false => rfl
    | true =>
        rw [raises, if_pos rfl] at dropped
        cases dropped

/-- With a logbook that works and listeners that do not raise, an announced cause is
logged, shown and dropped. -/
theorem causesOwn_of_delivered (clear : Clear coordinator) {named : String}
    {cause : LockChangeKey}
    (announced : announcement env coordinator message = some (named, cause))
    (works : env.logbookWorks = true) (quiet : env.listenersRaise = false) :
    CausesOwn env coordinator message := by
  obtain ⟨handled, reached, raised, leaves, seen⟩ := shown_of_announcement announced
  obtain ⟨node, same, logbook⟩ := leaves.logbook named cause rfl
  have waiting := pendingContext_of_withCause clear leaves.pending
  constructor
  · intro nodeId
    rw [pendingContext_after reached raised, quiet, if_neg Bool.false_ne_true]
  · intro listened shows nodeId context pending
    cases Option.some.inj (seen.symm.trans shows)
    have found := (waiting nodeId).symm.trans pending
    split at found
    · next about =>
        cases found
        refine ⟨_, logbook, lockCauseEntry env node cause coordinator.contexts, ?_, ?_, rfl⟩
        · rw [newEntries, if_pos works]
          exact List.mem_singleton_self _
        · exact same.trans (Option.some.inj about)
    · cases found

/-- From a clear state, a message keeps the promise exactly when its cause, if any, is
logged and delivered. -/
theorem causesOwn_iff (clear : Clear coordinator) :
    CausesOwn env coordinator message ↔ CauseDelivered env coordinator message := by
  cases announced : announcement env coordinator message with
  | none =>
      exact iff_of_true (causesOwn_of_silent clear announced) fun made => absurd announced made
  | some made =>
      obtain ⟨named, cause⟩ := made
      constructor
      · intro promise _
        exact delivered_of_causesOwn clear announced promise
      · intro delivered
        obtain ⟨works, quiet⟩ := delivered (by rw [announced]; exact Option.some_ne_none _)
        exact causesOwn_of_delivered clear announced works quiet

/-! ## Runs -/

/-- A message arrives. -/
def handle (coordinator : Coordinator) (delivery : Delivery) : Coordinator :=
  (coordinator.asyncHandleMessage delivery.env delivery.message).coordinator

/-- From a new coordinator, every message of a run keeps the promise exactly when every
cause the run announces is logged and delivered to listeners that do not raise. -/
theorem causes_own_iff (householdId : String) (pool : Option (Keyed Node.nodeId))
    (deliveries : List Delivery) :
    Along handle (fun before delivery => CausesOwn delivery.env before delivery.message)
        (.new householdId pool) deliveries ↔
      Along handle (fun before delivery => CauseDelivered delivery.env before delivery.message)
        (.new householdId pool) deliveries := by
  have initially : Clear (.new householdId pool) := fun _ => rfl
  refine @along_congr_of_kept _ _ handle
    (fun before delivery => CausesOwn delivery.env before delivery.message)
    (fun before delivery => CauseDelivered delivery.env before delivery.message) Clear
    ?_ ?_ _ deliveries initially
  · intro before delivery _ promise
    exact promise.cleared
  · intro before delivery clear
    exact causesOwn_iff clear

/-- A tap at the gate, told to an entity that raises. -/
def raisingTap : Delivery :=
  ⟨{ Observed.causeEnv with listenersRaise := true }, (Observed.gateEvent .homekey 0 .null).message⟩

/-- The cause of the tap is still there after it. -/
theorem raisingTap_leaves_cause :
    ¬ Along handle (fun before delivery => CausesOwn delivery.env before delivery.message)
        (.new "HOME001") [raisingTap] := by
  rintro ⟨promise, -⟩
  have clear : Clear (.new "HOME001") := fun _ => rfl
  have announced : announcement raisingTap.env (.new "HOME001") raisingTap.message ≠ none := by
    have made : lockReport raisingTap.env "HOME001" raisingTap.message =
        some ("GATE-001", .event ⟨none, 0, .homekey⟩ true) :=
      Observed.lockReport_unstampedEvent .homekey 0
    rw [announcement]
    change ((lockReport raisingTap.env "HOME001" raisingTap.message).bind _) ≠ none
    rw [made]
    exact Option.some_ne_none _
  exact absurd ((causesOwn_iff clear).mp promise announced).2 (by decide)

end Coordinator

end HomeKeyHousehold
