import HomeKeyHousehold.LockCommand
import HomeKeyHousehold.Record

/-!
# A device that changes its node id

On a direct entry the node id is read anew from every poll, while commands and
registry entries keep the id they were made for.  A command goes to the device
whatever node it is for, and a poll touches only the node it reports.
-/

namespace HomeKeyHousehold

open Library

/-- A direct entry, with the node its most recent successful poll reported. -/
structure DirectEntry where
  coordinator : Coordinator
  poller : DirectPoller
  reported : Option String

/-- What happens on a direct entry: a scheduled poll, or a command with the poll
that refreshes its node. -/
inductive DirectEvent where
  | tick (world : PollWorld)
  | lock (nodeId action : String) (reply : Reply) (refresh : PollWorld)
  | guest (nodeId : String) (command : GuestCommand) (reply : Reply) (refresh : PollWorld)

/-- A guest command that is not refused before a request is made. -/
def GuestCommand.isRequest : GuestCommand → Bool
  | .setAccess enabled none => enabled.isSome
  | .setAccess _ (some (.ok _)) => true
  | .setAccess _ (some (.error _)) => false
  | .teach .. => true
  | .revoke tagId => tagId ≠ ""
  | .cancel => true

namespace DirectEvent

/-- The node a command is issued for. -/
def target : DirectEvent → Option String
  | .tick _ => none
  | .lock nodeId .. => some nodeId
  | .guest nodeId .. => some nodeId

/-- A command that is not refused, and whose request leaves. -/
def leaves : DirectEvent → Bool
  | .tick _ => false
  | .lock _ action reply _ => (Action.ofString? action).isSome && reply.leaves
  | .guest _ command reply _ => command.isRequest && reply.leaves

end DirectEvent

namespace DirectEntry

/-- A new direct entry. -/
def new (client : DirectClient) (householdId : String) : DirectEntry :=
  ⟨.new householdId, .new client householdId, none⟩

/-- The node reported by the poll that follows a delivered command. -/
def refreshReports (poller : DirectPoller) (posted : Posted) (refresh : PollWorld) :
    Option String :=
  match posted.result with
  | .ok _ => poller.reports refresh
  | .error _ => none

/-- The node reported by the poll an event makes. -/
def polled (entry : DirectEntry) : DirectEvent → Option String
  | .tick world => entry.poller.reports world
  | .lock _ action reply refresh =>
      match Action.ofString? action with
      | none => none
      | some _ => refreshReports entry.poller (entry.poller.client.asyncLock action reply) refresh
  | .guest _ command reply refresh =>
      refreshReports entry.poller (entry.poller.postGuest command reply) refresh

/-- The commands an event sends to the device. -/
def posted (entry : DirectEntry) : DirectEvent → List Request
  | .tick _ => []
  | .lock nodeId action reply refresh =>
      (entry.poller.asyncSendDirectCommand entry.coordinator nodeId action reply refresh).posted
  | .guest nodeId command reply refresh =>
      (entry.poller.asyncGuestCommand entry.coordinator nodeId command reply refresh).posted

/-- One event. -/
def step (entry : DirectEntry) (event : DirectEvent) : DirectEntry :=
  let reported := entry.polled event <|> entry.reported
  match event with
  | .tick world =>
      let polled := entry.poller.asyncPollSafely entry.coordinator world
      ⟨polled.coordinator, polled.poller, reported⟩
  | .lock nodeId action reply refresh =>
      let sent := entry.poller.asyncSendDirectCommand entry.coordinator nodeId action reply refresh
      ⟨sent.coordinator, sent.poller, reported⟩
  | .guest nodeId command reply refresh =>
      let sent := entry.poller.asyncGuestCommand entry.coordinator nodeId command reply refresh
      ⟨sent.coordinator, sent.poller, reported⟩

/-- The entry whose only transport is the direct one. -/
def toEntry (entry : DirectEntry) : Entry :=
  { coordinator := entry.coordinator
    commandKeyProvider := none
    mqtt := none
    direct := some entry.poller }

variable {entry : DirectEntry} {event : DirectEvent} {nodeId other : String}

/-- A lock event is what a lock command does to the entry. -/
theorem step_lock (hmac : HmacSha256) (entry : DirectEntry) (nodeId action : String)
    (world : CommandWorld) :
    (entry.toEntry.asyncSendLockCommand hmac nodeId action world).entry =
      (entry.step (.lock nodeId action world.reply world.refresh)).toEntry := rfl

/-- A guest event is what a guest command does to the entry. -/
theorem step_guest (entry : DirectEntry) (nodeId : String) (command : GuestCommand)
    (reply : Reply) (refresh : PollWorld) :
    (entry.toEntry.asyncGuestCommand nodeId command reply refresh).entry =
      (entry.step (.guest nodeId command reply refresh)).toEntry := rfl

/-! ## What is sent -/

theorem sent_post (client : DirectClient) (path : String) (body : Json) (reply : Reply) :
    (client.post path body reply).sent ≠ [] ↔ reply.leaves = true := by
  rw [DirectClient.post]
  cases reply.leaves with
  | true => simp
  | false => simp

theorem sent_postGuest (poller : DirectPoller) (command : GuestCommand) (reply : Reply) :
    (poller.postGuest command reply).sent ≠ [] ↔
      (command.isRequest && reply.leaves) = true := by
  cases command with
  | setAccess enabled validity =>
      cases validity with
      | none =>
          cases enabled with
          | none => simp [DirectPoller.postGuest, DirectClient.asyncSetGuestConfig,
              DirectClient.refuse, GuestCommand.isRequest]
          | some value => exact sent_post ..
      | some rounded =>
          cases rounded with
          | error raised => simp [DirectPoller.postGuest, GuestCommand.isRequest]
          | ok seconds =>
              cases enabled with
              | none => exact sent_post ..
              | some value => exact sent_post ..
  | teach label validDays => exact sent_post ..
  | revoke tagId =>
      rw [DirectPoller.postGuest, DirectClient.asyncGuestRevoke]
      by_cases blank : tagId = ""
      · simp [blank, DirectClient.refuse, GuestCommand.isRequest]
      · rw [if_neg blank, sent_post]
        simp [GuestCommand.isRequest, blank]
  | cancel => exact sent_post ..

theorem posted_refreshed (coordinator : Coordinator) (poller : DirectPoller) (posted : Posted)
    (refresh : PollWorld) :
    (poller.refreshed coordinator posted refresh).posted = posted.sent := by
  unfold DirectPoller.refreshed
  split
  · rfl
  · rfl

/-- A command is sent exactly when it is not refused and its request leaves. -/
theorem posted_ne_nil_iff (entry : DirectEntry) (event : DirectEvent) :
    entry.posted event ≠ [] ↔ event.leaves = true := by
  cases event with
  | tick world => simp [posted, DirectEvent.leaves]
  | lock nodeId action reply refresh =>
      rw [posted, DirectPoller.asyncSendDirectCommand, DirectEvent.leaves]
      cases supported : Action.ofString? action with
      | none => simp
      | some act =>
          dsimp only
          rw [posted_refreshed, DirectClient.asyncLock, supported]
          simpa using sent_post entry.poller.client "/api/ha/lock"
            (.obj [("action", .str action)]) reply
  | guest nodeId command reply refresh =>
      rw [posted, DirectPoller.asyncGuestCommand, posted_refreshed]
      exact sent_postGuest entry.poller command reply

/-! ## What a poll touches -/

/-- A poll that reports a node leaves all other nodes alone. -/
theorem getNode_asyncPollOnce_of_ne {poller : DirectPoller} {world : PollWorld}
    (coordinator : Coordinator) (reported : poller.reports world = some nodeId)
    (apart : other ≠ nodeId) :
    (poller.asyncPollOnce coordinator world).coordinator.getNode other =
      coordinator.getNode other := by
  obtain ⟨messages, about, polled⟩ := poller.asyncPollOnce_of_reports coordinator reported
  rw [polled]
  exact Coordinator.getNode_ingest_of_ne coordinator about apart

theorem getNode_refreshed_of_ne {poller : DirectPoller} {posted : Posted} {refresh : PollWorld}
    (coordinator : Coordinator) (reported : refreshReports poller posted refresh = some nodeId)
    (apart : other ≠ nodeId) :
    (poller.refreshed coordinator posted refresh).coordinator.getNode other =
      coordinator.getNode other := by
  unfold refreshReports at reported
  unfold DirectPoller.refreshed
  split at reported
  · next answered =>
      rw [answered]
      exact getNode_asyncPollOnce_of_ne coordinator reported apart
  · cases reported

/-- A poll that reports a node leaves its messages' effect and the new identity. -/
theorem step_tick {world : PollWorld} (reported : entry.poller.reports world = some nodeId) :
    entry.step (.tick world) =
      ⟨(entry.poller.asyncPollOnce entry.coordinator world).coordinator,
        { entry.poller with nodeId := some nodeId, failures := 0 }, some nodeId⟩ := by
  obtain ⟨messages, -, polled⟩ := entry.poller.asyncPollOnce_of_reports entry.coordinator reported
  rw [step, DirectEntry.polled, reported]
  dsimp only
  rw [DirectPoller.asyncPollSafely, polled]
  rfl

/-- An event whose poll reports a node leaves all other nodes alone. -/
theorem getNode_step_of_ne (reported : entry.polled event = some nodeId)
    (apart : other ≠ nodeId) :
    (entry.step event).coordinator.getNode other = entry.coordinator.getNode other := by
  cases event with
  | tick world =>
      rw [step_tick reported]
      exact getNode_asyncPollOnce_of_ne entry.coordinator reported apart
  | lock target action reply refresh =>
      rw [polled] at reported
      change (entry.poller.asyncSendDirectCommand entry.coordinator target action reply
        refresh).coordinator.getNode other = _
      unfold DirectPoller.asyncSendDirectCommand
      split
      · next unsupported =>
          simp only [unsupported, reduceCtorEq] at reported
      · next act supported =>
          rw [supported] at reported
          exact getNode_refreshed_of_ne entry.coordinator reported apart
  | guest target command reply refresh =>
      exact getNode_refreshed_of_ne entry.coordinator reported apart

/-! ## One live identity -/

/-- A command reaches the device only for the node the last successful poll
reported, and after a poll every node but the reported one is unavailable. -/
structure Lawful (entry : DirectEntry) (event : DirectEvent) : Prop where
  commanded : ∀ nodeId, event.target = some nodeId → entry.posted event ≠ [] →
    entry.reported = some nodeId
  replaced : ∀ nodeId, entry.polled event = some nodeId → ∀ other node, other ≠ nodeId →
    (entry.step event).coordinator.getNode other = some node → node.available = false

/-- A command that can leave is issued for the node the last successful poll
reported, and a poll finds every node but the one it reports unavailable. -/
structure KeepsIdentity (entry : DirectEntry) (event : DirectEvent) : Prop where
  commanded : ∀ nodeId, event.target = some nodeId → event.leaves = true →
    entry.reported = some nodeId
  alone : ∀ nodeId, entry.polled event = some nodeId → ∀ other node, other ≠ nodeId →
    entry.coordinator.getNode other = some node → node.available = false

theorem lawful_iff (entry : DirectEntry) (event : DirectEvent) :
    Lawful entry event ↔ KeepsIdentity entry event := by
  constructor
  · intro lawful
    refine ⟨?_, ?_⟩
    · intro nodeId target leaves
      exact lawful.commanded nodeId target ((posted_ne_nil_iff entry event).mpr leaves)
    · intro nodeId reported other node apart known
      exact lawful.replaced nodeId reported other node apart
        ((getNode_step_of_ne reported apart).trans known)
  · intro keeps
    refine ⟨?_, ?_⟩
    · intro nodeId target sent
      exact keeps.commanded nodeId target ((posted_ne_nil_iff entry event).mp sent)
    · intro nodeId reported other node apart known
      exact keeps.alone nodeId reported other node apart
        ((getNode_step_of_ne reported apart).symm.trans known)

/-- A run of a direct entry sends commands only to the device they are for and
keeps one node live exactly when the device keeps its identity along the run. -/
theorem one_live_identity_iff {start : DirectEntry} {events : List DirectEvent} :
    Along step Lawful start events ↔ Along step KeepsIdentity start events :=
  along_iff lawful_iff

/-! ## A sample device -/

def quietEnv : Env :=
  { now := 1700000000 * microsPerSecond
    parseDatetime := fun _ => .ok none
    logbookWorks := true
    lockEntityId := fun _ => none
    listenersRaise := false }

def identityOf (nodeId : String) : Dict :=
  [("household_id", .str "HOME001"), ("node_id", .str nodeId)]

/-- A device that reports an identity and nothing else. -/
def pollOf (nodeId : String) : PollWorld :=
  { info := .answer (.obj [])
    state := .answer (.obj (identityOf nodeId))
    guest := .timedOut false
    env := fun _ => quietEnv }

def sampleClient : DirectClient := ⟨"192.0.2.1", 443⟩

theorem identify_pollOf (poller : DirectPoller) {nodeId : String}
    (resolved : resolveIdentity (.obj (identityOf nodeId)) (.obj []) = .ok ("HOME001", nodeId)) :
    poller.identify (pollOf nodeId) =
      .ok ("HOME001", nodeId, .obj (identityOf nodeId), .obj []) := by
  rw [DirectPoller.identify]
  simp only [pollOf, request_answer]
  change (resolveIdentity (.obj (identityOf nodeId)) (.obj []) >>= _) = _
  rw [resolved]
  rfl

theorem messagesOf_identityOf :
    DirectPoller.messagesOf (.obj (identityOf "GATE-001")) (.obj []) "HOME001" "GATE-001" =
      .ok
        [{ householdId := "HOME001", nodeId := "GATE-001", subtopic := "status",
            payload := "online", retain := true },
          .document "HOME001" "GATE-001" .state
            (.obj [("household_id", .str "HOME001"), ("node_id", .str "GATE-001")]) true,
          .document "HOME001" "GATE-001" .health
            (.obj [("network", .str "UNKNOWN"), ("certificate", .str "unknown"),
              ("nfc", .str "ERROR"), ("mqtt", .str "ERROR")]) false] := by
  rfl

/-- The first poll of the sample device leaves its node available. -/
theorem first_poll_available :
    ∃ node, ((DirectPoller.new sampleClient "HOME001").asyncPollOnce (.new "HOME001")
      (pollOf "GATE-001")).coordinator.getNode "GATE-001" = some node ∧
        node.available = true := by
  have online (coordinator : Coordinator) (home : coordinator.householdId = "HOME001") :=
    @Coordinator.asyncHandleMessage_plain coordinator "GATE-001"
      { householdId := "HOME001", nodeId := "GATE-001", subtopic := "status",
        payload := "online", retain := true } .status quietEnv home.symm rfl (by decide) rfl rfl
  have document (coordinator : Coordinator) (home : coordinator.householdId = "HOME001")
      (subtopic : Subtopic) (json : subtopic.isJson = true) (content : Json) (retain : Bool) :=
    @Coordinator.asyncHandleMessage_json coordinator "GATE-001"
      (.document "HOME001" "GATE-001" subtopic content retain) subtopic quietEnv home.symm rfl
      (by decide) rfl json content (Json.loads_dumps content)
  rw [DirectPoller.asyncPollOnce_of_messages _
      (identify_pollOf (DirectPoller.new sampleClient "HOME001") (by rfl)) messagesOf_identityOf,
    Coordinator.ingest_append, Coordinator.ingest_cons, Coordinator.ingest_cons,
    Coordinator.ingest_cons]
  simp only [pollOf]
  rw [online _ rfl, document _ rfl .state rfl, document _ rfl .health rfl]
  exact ⟨_, rfl, rfl⟩

theorem reports_pollOf {poller : DirectPoller} (home : poller.householdId = "HOME001")
    {nodeId : String}
    (resolved : resolveIdentity (.obj (identityOf nodeId)) (.obj []) = .ok ("HOME001", nodeId)) :
    poller.reports (pollOf nodeId) = some nodeId := by
  rw [DirectPoller.reports_eq, identify_pollOf poller resolved]
  dsimp only
  rw [if_pos home.symm]
  rfl

/-- When the sample device changes its node id, its old node stays available. -/
theorem replaced_node_stays_live :
    ¬ ∀ (client : DirectClient) (householdId : String) (events : List DirectEvent),
      Along step Lawful (new client householdId) events := by
  intro lawful
  have along :=
    lawful sampleClient "HOME001" [.tick (pollOf "GATE-001"), .tick (pollOf "GATE-002")]
  have first : (DirectPoller.new sampleClient "HOME001").reports (pollOf "GATE-001") =
      some "GATE-001" := reports_pollOf rfl (by rfl)
  have keeps := (lawful_iff _ _).mp along.2.1
  rw [new, step_tick first] at keeps
  obtain ⟨node, known, live⟩ := first_poll_available
  revert known keeps
  generalize ((DirectPoller.new sampleClient "HOME001").asyncPollOnce (.new "HOME001")
    (pollOf "GATE-001")).coordinator = coordinator
  intro keeps known
  have reported : DirectPoller.reports ⟨sampleClient, "HOME001", some "GATE-001", 0, false⟩
      (pollOf "GATE-002") = some "GATE-002" := reports_pollOf rfl (by rfl)
  have apart : "GATE-001" ≠ "GATE-002" := by decide
  have dead := keeps.alone "GATE-002" reported "GATE-001" node apart known
  rw [live] at dead
  cases dead

end DirectEntry

end HomeKeyHousehold
