import HomeKeyHousehold.Record

/-!
# Who is online

A record says that its node is online from the last status message about it.  A
poll that is ingested brings one; a poll that fails changes the registry only when
it completes a run of failures.
-/

namespace HomeKeyHousehold

open Library

/-! ## Messages -/

namespace Node

variable {node : Node}

theorem online_afterPlain (env : Env) (node : Node) (payload : String) {subtopic : Subtopic}
    (apart : subtopic ≠ .status) : (node.afterPlain env payload subtopic).online = node.online := by
  cases subtopic with
  | status => exact absurd rfl apart
  | legacyStatus =>
      rw [afterPlain]
      exact field_accept Node.online fun online => rfl
  | security =>
      rw [afterPlain]
      exact field_accept Node.online fun value => rfl
  | backupStatus =>
      rw [afterPlain]
      exact field_accept Node.online fun outcome => rfl
  | state | health | lockLast | backupLast | lastAuth | guestStatus => rfl

theorem online_afterJson (env : Env) (householdId : String) (node : Node) (payload : Json)
    (subtopic : Subtopic) :
    (node.afterJson env householdId payload subtopic).online = node.online := by
  cases subtopic with
  | lockLast =>
      rw [afterJson]
      apply field_accept Node.online
      intro change
      rw [withEvent]
      split
      · rfl
      · rfl
  | state =>
      rw [afterJson]
      exact field_accept Node.online fun incoming => rfl
  | health =>
      rw [afterJson]
      exact field_accept Node.online fun health => rfl
  | backupLast =>
      rw [afterJson]
      exact field_accept Node.online fun record => rfl
  | lastAuth =>
      rw [afterJson]
      exact field_accept Node.online fun auth => rfl
  | guestStatus =>
      rw [afterJson]
      exact field_accept Node.online fun guest => rfl
  | legacyStatus | status | security | backupStatus => rfl

/-- Only a status message says whether a node is online. -/
theorem online_receive (env : Env) (householdId : String) (node : Node) {message : HomeKeyMessage}
    (other : message.subtopic ≠ Subtopic.status.spelling) :
    (node.receive env householdId message).online = node.online := by
  unfold receive
  cases parsed : Subtopic.ofString? message.subtopic with
  | none => rfl
  | some subtopic =>
      have apart : subtopic ≠ .status := by
        rintro rfl
        exact other (Subtopic.spelling_of_ofString? parsed).symm
      dsimp only
      split
      · cases Coordinator.decodeJson message.payload with
        | error reason => rfl
        | ok payload => exact online_afterJson env householdId node payload subtopic
      · exact online_afterPlain env node message.payload apart

theorem online_receiveAll (env : Subtopic → Env) (householdId : String) (node : Node)
    {messages : List HomeKeyMessage}
    (other : ∀ message ∈ messages, message.subtopic ≠ Subtopic.status.spelling) :
    (node.receiveAll env householdId messages).online = node.online := by
  induction messages generalizing node with
  | nil => rfl
  | cons message rest ih =>
      rw [receiveAll_cons, ih _ fun later member => other later (List.mem_cons_of_mem _ member)]
      exact online_receive _ householdId node (other message List.mem_cons_self)

end Node

namespace Coordinator

/-- Whether a node is online, if it is known. -/
def onlineOf (coordinator : Coordinator) (nodeId : String) : Option Bool :=
  (coordinator.getNode nodeId).map Node.online

variable {coordinator : Coordinator} {householdId nodeId : String}

theorem onlineOf_eq_none_iff :
    coordinator.onlineOf nodeId = none ↔ coordinator.getNode nodeId = none :=
  Option.map_eq_none_iff

/-- Messages about one node do not say whether another is online. -/
theorem onlineOf_ingest_of_ne {env : Subtopic → Env} {other : String}
    {messages : List HomeKeyMessage} (coordinator : Coordinator)
    (about : ∀ message ∈ messages, message.About householdId nodeId) (apart : other ≠ nodeId) :
    (coordinator.ingest env messages).onlineOf other = coordinator.onlineOf other := by
  rw [onlineOf, onlineOf, coordinator.getNode_ingest_of_ne about apart]

/-- Messages after the one that says so leave a node online. -/
theorem onlineOf_ingest_online (env : Subtopic → Env)
    (home : coordinator.householdId = householdId) (filled : nodeId ≠ "")
    {rest : List HomeKeyMessage} (about : ∀ message ∈ rest, message.About householdId nodeId)
    (other : ∀ message ∈ rest, message.subtopic ≠ Subtopic.status.spelling) :
    (coordinator.ingest env (.online householdId nodeId :: rest)).onlineOf nodeId = some true := by
  rw [onlineOf, getNode_ingest_online env home filled about, Option.map_some,
    Node.online_receiveAll env householdId _ other]
  rfl

/-- An offline message takes its node offline, and registers it if it is new. -/
theorem getNode_ingest_offline (env : Subtopic → Env)
    (home : coordinator.householdId = householdId) (filled : nodeId ≠ "") :
    (coordinator.ingest env [DirectPoller.offlineMessage householdId nodeId]).getNode nodeId =
      some { (coordinator.ensureNode nodeId).2 with
        online := false, lastSeen := some (nowIso (env .status)) } := by
  subst home
  have handled := @asyncHandleMessage_plain coordinator nodeId
    (DirectPoller.offlineMessage coordinator.householdId nodeId) .status (env .status) rfl rfl
    filled rfl rfl
  rw [ingest_cons, ingest_nil, DirectPoller.ofString?_subtopic_offlineMessage, Option.getD_some,
    handled, getNode_finish, DirectPoller.offlineMessage, handlePlain, handleNodeStatus,
    parseOnline_offline]
  exact coordinator.getNode_update nodeId
    (fun node => { node with online := false, lastSeen := some (nowIso (env .status)) })
    fun _ => rfl

theorem onlineOf_ingest_offline (env : Subtopic → Env)
    (home : coordinator.householdId = householdId) (filled : nodeId ≠ "") :
    (coordinator.ingest env [DirectPoller.offlineMessage householdId nodeId]).onlineOf nodeId =
      some false := by
  rw [onlineOf, getNode_ingest_offline env home filled, Option.map_some]

end Coordinator

theorem subtopic_lockLastMessages {state : Dict} {householdId nodeId : String}
    {message : HomeKeyMessage} (member : message ∈ lockLastMessages state householdId nodeId) :
    message.subtopic = Subtopic.lockLast.spelling := by
  unfold lockLastMessages at member
  split at member
  · split at member
    · rw [List.mem_singleton.mp member]
      rfl
    · cases member
  · cases member

theorem subtopic_lastAuthMessages {state : Dict} {householdId nodeId : String}
    {messages : List HomeKeyMessage} (made : lastAuthMessages state householdId nodeId = .ok messages)
    {message : HomeKeyMessage} (member : message ∈ messages) :
    message.subtopic = Subtopic.lastAuth.spelling := by
  unfold lastAuthMessages at made
  split at made
  · split at made
    · split at made
      · cases made
        rw [List.mem_singleton.mp member]
        rfl
      · cases made
        cases member
    · split at made
      · cases made
        cases member
      · cases made
  · cases made
    cases member

/-- A response is replayed as a status message, the lock's last event, and reports
of other kinds. -/
theorem stateToMessages_split {state info : Dict} {householdId nodeId : String}
    {messages : List HomeKeyMessage}
    (translated : stateToMessages state info householdId nodeId = .ok messages) :
    ∃ rest, messages = .online householdId nodeId ::
        (lockLastMessages state householdId nodeId ++ rest) ∧
      ∀ message ∈ rest, message.About householdId nodeId ∧
        ∃ subtopic : Subtopic, message.subtopic = subtopic.spelling ∧ subtopic ≠ .status ∧
          subtopic ≠ .lockLast := by
  obtain ⟨health, lastAuth, -, made, split⟩ := stateToMessages_ok translated
  refine ⟨[.document householdId nodeId .state (identityDocument state info householdId nodeId)
        true, .document householdId nodeId .health (.obj health) false] ++
      (plainMessage householdId nodeId .security SecurityState.ofString?
          (Json.get state "security") ++
        (plainMessage householdId nodeId .backupStatus BackupOutcome.ofString?
          (Json.get state "backup_status") ++ lastAuth)), ?_, ?_⟩
  · rw [split]
    simp only [HomeKeyMessage.online, List.append_assoc, List.cons_append, List.nil_append]
  · intro message member
    simp only [List.mem_append, List.mem_cons, List.not_mem_nil, or_false] at member
    rcases member with (rfl | rfl) | security | backup | auth
    · exact ⟨⟨rfl, rfl⟩, .state, rfl, by decide, by decide⟩
    · exact ⟨⟨rfl, rfl⟩, .health, rfl, by decide, by decide⟩
    · exact ⟨about_plainMessage security, .security, subtopic_plainMessage security, by decide,
        by decide⟩
    · exact ⟨about_plainMessage backup, .backupStatus, subtopic_plainMessage backup, by decide,
        by decide⟩
    · exact ⟨about_lastAuthMessages made auth, .lastAuth, subtopic_lastAuthMessages made auth,
        by decide, by decide⟩

/-- A response is replayed as one status message and others that are none. -/
theorem stateToMessages_online {state info : Dict} {householdId nodeId : String}
    {messages : List HomeKeyMessage}
    (translated : stateToMessages state info householdId nodeId = .ok messages) :
    ∃ rest, messages = .online householdId nodeId :: rest ∧
      ∀ message ∈ rest, message.About householdId nodeId ∧
        message.subtopic ≠ Subtopic.status.spelling := by
  obtain ⟨rest, split, others⟩ := stateToMessages_split translated
  refine ⟨lockLastMessages state householdId nodeId ++ rest, split, ?_⟩
  intro message member
  rcases List.mem_append.mp member with cause | other
  · rw [subtopic_lockLastMessages cause]
    exact ⟨about_lockLastMessages cause, Subtopic.spelling_injective.ne (by decide)⟩
  · obtain ⟨about, subtopic, spelled, apart, -⟩ := others message other
    rw [spelled]
    exact ⟨about, Subtopic.spelling_injective.ne apart⟩

/-! ## Polls -/

@[simp]
theorem Coordinator.householdId_ingest (env : Subtopic → Env) (coordinator : Coordinator)
    (messages : List HomeKeyMessage) :
    (coordinator.ingest env messages).householdId = coordinator.householdId := by
  induction messages generalizing coordinator with
  | nil => rfl
  | cons message rest ih => rw [ingest_cons, ih, householdId_asyncHandleMessage]

namespace DirectPoller

variable {poller : DirectPoller} {world : PollWorld} {nodeId : String} {raised : Raised}

/-- What a poll raises, whatever its coordinator. -/
def failure (poller : DirectPoller) (world : PollWorld) : Option Raised :=
  (asyncPollOnce (.new poller.householdId) poller world).raised

/-- What keeps a poll from ingesting anything. -/
theorem asyncPollOnce_raised_eq (coordinator : Coordinator) :
    (poller.asyncPollOnce coordinator world).raised =
      match poller.identify world with
      | .error raised => some raised
      | .ok (householdId, nodeId, state, info) =>
          if householdId = poller.householdId then
            match messagesOf state info householdId nodeId with
            | .error raised => some raised
            | .ok _ => none
          else none := by
  unfold asyncPollOnce
  cases poller.identify world with
  | error raised => rfl
  | ok identity =>
      obtain ⟨householdId, nodeId, state, info⟩ := identity
      dsimp only
      by_cases home : householdId = poller.householdId
      · rw [if_pos home, if_pos home]
        cases messagesOf state info householdId nodeId with
        | error raised => rfl
        | ok messages => rfl
      · rw [if_neg home, if_neg home]

theorem failure_eq :
    poller.failure world =
      match poller.identify world with
      | .error raised => some raised
      | .ok (householdId, nodeId, state, info) =>
          if householdId = poller.householdId then
            match messagesOf state info householdId nodeId with
            | .error raised => some raised
            | .ok _ => none
          else none :=
  asyncPollOnce_raised_eq _

theorem asyncPollOnce_raised (coordinator : Coordinator) :
    (poller.asyncPollOnce coordinator world).raised = poller.failure world :=
  (asyncPollOnce_raised_eq coordinator).trans failure_eq.symm

/-- A poll that fails may have learnt a node id, and does nothing else. -/
theorem asyncPollOnce_of_failure (coordinator : Coordinator)
    (failed : poller.failure world = some raised) :
    ∃ learnt, poller.asyncPollOnce coordinator world =
      ⟨coordinator, { poller with nodeId := learnt }, some raised⟩ := by
  rw [failure_eq] at failed
  rw [asyncPollOnce]
  cases identified : poller.identify world with
  | error cause =>
      rw [identified] at failed
      cases failed
      exact ⟨poller.nodeId, rfl⟩
  | ok identity =>
      obtain ⟨householdId, learnt, state, info⟩ := identity
      rw [identified] at failed
      dsimp only at failed ⊢
      by_cases home : householdId = poller.householdId
      · rw [if_pos home] at failed ⊢
        cases translated : messagesOf state info householdId learnt with
        | error cause =>
            rw [translated] at failed
            cases failed
            exact ⟨some learnt, rfl⟩
        | ok messages =>
            rw [translated] at failed
            cases failed
      · rw [if_neg home] at failed
        cases failed

/-- A poll without an answer changes nothing. -/
theorem asyncPollOnce_of_unidentified (coordinator : Coordinator)
    (unidentified : poller.identify world = .error raised) :
    poller.asyncPollOnce coordinator world = ⟨coordinator, poller, some raised⟩ := by
  rw [asyncPollOnce, unidentified]

theorem reports_of_unidentified (unidentified : poller.identify world = .error raised) :
    poller.reports world = none := by
  rw [reports_eq, unidentified]

theorem reports_named (reported : poller.reports world = some nodeId) : nodeId ≠ "" := by
  rw [reports_eq] at reported
  split at reported
  · cases reported
  · next householdId named state info identified =>
      split at reported
      · split at reported
        · cases reported
        · cases reported
          exact identify_named identified
      · cases reported

/-- A poll that reports a node shows it online. -/
theorem asyncPollOnce_of_online {coordinator : Coordinator}
    (home : coordinator.householdId = poller.householdId)
    (reported : poller.reports world = some nodeId) :
    ∃ after, poller.asyncPollOnce coordinator world =
        ⟨after, { poller with nodeId := some nodeId, failures := 0 }, none⟩ ∧
      after.householdId = coordinator.householdId ∧ after.onlineOf nodeId = some true := by
  rw [reports_eq] at reported
  split at reported
  · cases reported
  · next householdId named state info identified =>
      split at reported
      · next same =>
          subst same
          split at reported
          · cases reported
          · next messages translated =>
              cases reported
              have filled := identify_named identified
              refine ⟨_, asyncPollOnce_of_messages coordinator identified translated, ?_, ?_⟩
              · exact Coordinator.householdId_ingest world.env coordinator _
              · obtain ⟨stateMembers, infoMembers, rfl, rfl, made⟩ := messagesOf_eq_ok translated
                obtain ⟨rest, rfl, others⟩ := stateToMessages_online made
                rw [List.cons_append]
                apply Coordinator.onlineOf_ingest_online world.env home filled
                · intro message member
                  rcases List.mem_append.mp member with response | guest
                  · exact (others message response).1
                  · exact guestMessages_about guest
                · intro message member
                  rcases List.mem_append.mp member with response | guest
                  · exact (others message response).2
                  · rw [guestMessages_subtopic guest]
                    exact Subtopic.spelling_injective.ne (by decide)
      · cases reported

theorem asyncPollOnce_poller_householdId (coordinator : Coordinator) (poller : DirectPoller)
    (world : PollWorld) :
    (poller.asyncPollOnce coordinator world).poller.householdId = poller.householdId := by
  unfold asyncPollOnce
  split
  · rfl
  · split
    · dsimp only
      split
      · rfl
      · rfl
    · rfl

theorem asyncPollOnce_coordinator_householdId (coordinator : Coordinator) (poller : DirectPoller)
    (world : PollWorld) :
    (poller.asyncPollOnce coordinator world).coordinator.householdId =
      coordinator.householdId := by
  unfold asyncPollOnce
  split
  · rfl
  · split
    · dsimp only
      split
      · rfl
      · exact Coordinator.householdId_ingest ..
    · rfl

@[simp]
theorem householdId_asyncMarkOffline (poller : DirectPoller) (coordinator : Coordinator)
    (world : PollWorld) :
    (poller.asyncMarkOffline coordinator world).householdId = coordinator.householdId := by
  unfold asyncMarkOffline
  split
  · rfl
  · exact Coordinator.householdId_ingest ..

/-- A scheduled poll adds a count and an offline message to what a poll does. -/
theorem asyncPollSafely_poller_householdId (coordinator : Coordinator) (poller : DirectPoller)
    (world : PollWorld) :
    (poller.asyncPollSafely coordinator world).poller.householdId =
      (poller.asyncPollOnce coordinator world).poller.householdId := by
  unfold asyncPollSafely
  dsimp only
  split
  · rfl
  · split
    · split
      · rfl
      · rfl
    · rfl

theorem asyncPollSafely_coordinator_householdId (coordinator : Coordinator)
    (poller : DirectPoller) (world : PollWorld) :
    (poller.asyncPollSafely coordinator world).coordinator.householdId =
      (poller.asyncPollOnce coordinator world).coordinator.householdId := by
  unfold asyncPollSafely
  dsimp only
  split
  · rfl
  · split
    · split
      · exact householdId_asyncMarkOffline ..
      · rfl
    · rfl

/-- A scheduled poll that raises is counted when its exception is known, and
completes an outage when the count is met. -/
theorem asyncPollSafely_of_raised {coordinator after : Coordinator} {polled : DirectPoller}
    (once : poller.asyncPollOnce coordinator world = ⟨after, polled, some raised⟩) :
    poller.asyncPollSafely coordinator world =
      if countsAsFailure raised then
        ⟨if polled.failures + 1 = directOfflineAfterFailures then
            { polled with failures := polled.failures + 1 }.asyncMarkOffline after world
          else after,
          { polled with failures := polled.failures + 1 }, none⟩
      else ⟨after, polled, some raised⟩ := by
  rw [asyncPollSafely, once]
  dsimp only
  split
  · split
    · rfl
    · rfl
  · rfl

theorem asyncPollSafely_of_returned {coordinator after : Coordinator} {polled : DirectPoller}
    (once : poller.asyncPollOnce coordinator world = ⟨after, polled, none⟩) :
    poller.asyncPollSafely coordinator world =
      ⟨after, { polled with failures := 0 }, none⟩ := by
  rw [asyncPollSafely, once]

/-- A scheduled poll without an answer is counted. -/
theorem asyncPollSafely_of_unidentified (coordinator : Coordinator)
    (unidentified : poller.identify world = .error raised)
    (counted : countsAsFailure raised = true) :
    poller.asyncPollSafely coordinator world =
      ⟨if poller.failures + 1 = directOfflineAfterFailures then
          { poller with failures := poller.failures + 1 }.asyncMarkOffline coordinator world
        else coordinator,
        { poller with failures := poller.failures + 1 }, none⟩ := by
  rw [asyncPollSafely_of_raised (asyncPollOnce_of_unidentified coordinator unidentified),
    if_pos counted]

end DirectPoller

end HomeKeyHousehold
