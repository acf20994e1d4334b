import HomeKeyHousehold.Coordinator
import HomeKeyHousehold.Direct

/-!
# The direct poller

One node's coordinator state is kept fresh over the direct API.  What a poll
learns is handed to the coordinator as messages; a run of failures marks the
node offline.
-/

namespace HomeKeyHousehold

open Library

/-- The state of `DirectPoller`. -/
structure DirectPoller where
  client : DirectClient
  householdId : String
  nodeId : Option String := none
  failures : Nat := 0
  identityMismatchLogged : Bool := false
  deriving DecidableEq, Repr

/-- What the world contributes to one poll: the replies, and Home Assistant while
the message of each subtopic is handled. -/
structure PollWorld where
  info : Reply
  state : Reply
  guest : Reply
  env : Subtopic → Env

/-- What one poll leaves behind. -/
structure Polled where
  coordinator : Coordinator
  poller : DirectPoller
  raised : Option Raised

namespace Coordinator

/-- Handle messages one after the other; each is dispatched in the world of its
own subtopic. -/
def ingest (env : Subtopic → Env) (coordinator : Coordinator) (messages : List HomeKeyMessage) :
    Coordinator :=
  messages.foldl
    (fun current message =>
      (current.asyncHandleMessage
        (env ((Subtopic.ofString? message.subtopic).getD .status)) message).coordinator)
    coordinator

@[simp]
theorem ingest_nil (env : Subtopic → Env) (coordinator : Coordinator) :
    coordinator.ingest env [] = coordinator := rfl

@[simp]
theorem ingest_cons (env : Subtopic → Env) (coordinator : Coordinator)
    (message : HomeKeyMessage) (rest : List HomeKeyMessage) :
    coordinator.ingest env (message :: rest) =
      (coordinator.asyncHandleMessage
        (env ((Subtopic.ofString? message.subtopic).getD .status)) message).coordinator.ingest
          env rest := rfl

theorem ingest_append (env : Subtopic → Env) (coordinator : Coordinator)
    (first second : List HomeKeyMessage) :
    coordinator.ingest env (first ++ second) = (coordinator.ingest env first).ingest env second :=
  List.foldl_append

end Coordinator

namespace DirectPoller

/-- A new poller. -/
def new (client : DirectClient) (householdId : String) : DirectPoller := { client, householdId }

/-- The identity a device reports, with what it reports it in. -/
def identify (poller : DirectPoller) (world : PollWorld) :
    Except Raised (String × String × Json × Json) := do
  let info ← poller.client.request "/api/ha/info" world.info
  let state ← poller.client.request "/api/ha/state" world.state
  let (householdId, nodeId) ← resolveIdentity state info
  pure (householdId, nodeId, state, info)

/-- `guest/status`, replayed when the endpoint answers; failures are swallowed. -/
def guestMessages (poller : DirectPoller) (world : PollWorld) (householdId nodeId : String) :
    List HomeKeyMessage :=
  match poller.client.asyncGetGuest world.guest with
  | .ok (some guest) => [.document householdId nodeId .guestStatus guest true]
  | _ => []

/-- The messages of a response whose documents are objects. -/
def messagesOf (state info : Json) (householdId nodeId : String) :
    Except Raised (List HomeKeyMessage) := do
  let state ← membersOf state
  let info ← membersOf info
  stateToMessages state info householdId nodeId

/-- `async_poll_once`. -/
def asyncPollOnce (coordinator : Coordinator) (poller : DirectPoller) (world : PollWorld) :
    Polled :=
  match poller.identify world with
  | .error raised => ⟨coordinator, poller, some raised⟩
  | .ok (householdId, nodeId, state, info) =>
      if householdId = poller.householdId then
        let poller := { poller with nodeId := some nodeId }
        match messagesOf state info householdId nodeId with
        | .error raised => ⟨coordinator, poller, some raised⟩
        | .ok messages =>
            ⟨coordinator.ingest world.env
                (messages ++ poller.guestMessages world householdId nodeId),
              { poller with failures := 0 }, none⟩
      else ⟨coordinator, { poller with identityMismatchLogged := true }, none⟩

/-- The node a poll reports: the one it takes for its own when nothing is raised. -/
def reports (poller : DirectPoller) (world : PollWorld) : Option String :=
  let polled := asyncPollOnce (.new poller.householdId) { poller with nodeId := none } world
  match polled.raised with
  | none => polled.poller.nodeId
  | some _ => none

/-- A node is reported when the response names the household of the entry and can be
translated. -/
theorem reports_eq (poller : DirectPoller) (world : PollWorld) :
    poller.reports world =
      match poller.identify world with
      | .error _ => none
      | .ok (householdId, nodeId, state, info) =>
          if householdId = poller.householdId then
            match messagesOf state info householdId nodeId with
            | .error _ => none
            | .ok _ => some nodeId
          else none := by
  have same : ({ poller with nodeId := none } : DirectPoller).identify world =
      poller.identify world := rfl
  unfold reports asyncPollOnce
  rw [same]
  cases poller.identify world with
  | error raised => rfl
  | ok identity =>
      obtain ⟨householdId, nodeId, state, info⟩ := identity
      dsimp only
      by_cases home : householdId = poller.householdId
      · simp only [if_pos home]
        cases messagesOf state info householdId nodeId with
        | error raised => rfl
        | ok messages => rfl
      · simp only [if_neg home]

/-- The message a retained offline status would bring. -/
def offlineMessage (householdId nodeId : String) : HomeKeyMessage :=
  { householdId, nodeId, subtopic := Subtopic.status.spelling, payload := "offline",
    retain := true }

theorem about_offlineMessage (householdId nodeId : String) :
    (offlineMessage householdId nodeId).About householdId nodeId := ⟨rfl, rfl⟩

@[simp]
theorem ofString?_subtopic_offlineMessage (householdId nodeId : String) :
    Subtopic.ofString? (offlineMessage householdId nodeId).subtopic = some .status :=
  Subtopic.ofString?_spelling .status

/-- `_async_mark_offline`. -/
def asyncMarkOffline (coordinator : Coordinator) (poller : DirectPoller) (world : PollWorld) :
    Coordinator :=
  match poller.nodeId with
  | none => coordinator
  | some nodeId => coordinator.ingest world.env [offlineMessage poller.householdId nodeId]

/-- The failures a poll turns into availability. -/
def countsAsFailure : Raised → Bool
  | .validation _ => true
  | .direct .. => true
  | .other => false

/-- `async_poll_safely`. -/
def asyncPollSafely (coordinator : Coordinator) (poller : DirectPoller) (world : PollWorld) :
    Polled :=
  let polled := poller.asyncPollOnce coordinator world
  match polled.raised with
  | none => { polled with poller := { polled.poller with failures := 0 } }
  | some raised =>
      if countsAsFailure raised then
        let poller := { polled.poller with failures := polled.poller.failures + 1 }
        if poller.failures = directOfflineAfterFailures then
          ⟨poller.asyncMarkOffline polled.coordinator world, poller, none⟩
        else ⟨polled.coordinator, poller, none⟩
      else polled

variable {coordinator : Coordinator} {poller : DirectPoller} {world : PollWorld}
variable {nodeId : String}

/-- A device that is identified has a node id. -/
theorem identify_named {householdId : String} {state info : Json}
    (identified : poller.identify world = .ok (householdId, nodeId, state, info)) :
    nodeId ≠ "" := by
  unfold identify at identified
  cases answered : poller.client.request "/api/ha/info" world.info with
  | error raised =>
      rw [answered] at identified
      cases identified
  | ok told =>
      rw [answered] at identified
      cases reported : poller.client.request "/api/ha/state" world.state with
      | error raised =>
          rw [reported] at identified
          cases identified
      | ok shown =>
          rw [reported] at identified
          cases resolved : resolveIdentity shown told with
          | error raised =>
              simp [resolved, bind, Except.bind] at identified
          | ok identity =>
              simp only [resolved, bind, Except.bind, pure, Except.pure, Except.ok.injEq,
                Prod.mk.injEq] at identified
              obtain ⟨rfl, rfl, rfl, rfl⟩ := identified
              exact resolveIdentity_named resolved

/-- Only objects are translated. -/
theorem messagesOf_eq_ok {state info : Json} {householdId : String}
    {messages : List HomeKeyMessage}
    (translated : messagesOf state info householdId nodeId = .ok messages) :
    ∃ stateMembers infoMembers, state = .obj stateMembers ∧ info = .obj infoMembers ∧
      stateToMessages stateMembers infoMembers householdId nodeId = .ok messages := by
  unfold messagesOf at translated
  cases state with
  | obj state =>
      cases info with
      | obj info => exact ⟨state, info, rfl, rfl, translated⟩
      | null | bool _ | int _ | float _ | str _ | arr _ => cases translated
  | null | bool _ | int _ | float _ | str _ | arr _ => cases translated

theorem messagesOf_about {state info : Json} {householdId : String}
    {messages : List HomeKeyMessage}
    (translated : messagesOf state info householdId nodeId = .ok messages)
    {message : HomeKeyMessage} (member : message ∈ messages) :
    message.About householdId nodeId := by
  obtain ⟨stateMembers, infoMembers, rfl, rfl, made⟩ := messagesOf_eq_ok translated
  exact about_stateToMessages made member

theorem guestMessages_about {householdId : String} {message : HomeKeyMessage}
    (member : message ∈ poller.guestMessages world householdId nodeId) :
    message.About householdId nodeId := by
  unfold guestMessages at member
  split at member
  · rw [List.mem_singleton.mp member]
    exact ⟨rfl, rfl⟩
  · cases member

theorem guestMessages_subtopic {householdId : String} {message : HomeKeyMessage}
    (member : message ∈ poller.guestMessages world householdId nodeId) :
    message.subtopic = Subtopic.guestStatus.spelling := by
  unfold guestMessages at member
  split at member
  · rw [List.mem_singleton.mp member]
    rfl
  · cases member

/-- A response that names the household of the entry and can be translated is
ingested. -/
theorem asyncPollOnce_of_messages (coordinator : Coordinator) {state info : Json}
    {messages : List HomeKeyMessage}
    (identified : poller.identify world = .ok (poller.householdId, nodeId, state, info))
    (translated : messagesOf state info poller.householdId nodeId = .ok messages) :
    poller.asyncPollOnce coordinator world =
      ⟨coordinator.ingest world.env
          (messages ++ poller.guestMessages world poller.householdId nodeId),
        { poller with nodeId := some nodeId, failures := 0 }, none⟩ := by
  rw [asyncPollOnce, identified]
  dsimp only
  rw [if_pos rfl, translated]
  rfl

/-- A poll that reports a node ingests messages about that node only. -/
theorem asyncPollOnce_of_reports (coordinator : Coordinator)
    (reported : poller.reports world = some nodeId) :
    ∃ messages, (∀ message ∈ messages, message.About poller.householdId nodeId) ∧
      poller.asyncPollOnce coordinator world =
        ⟨coordinator.ingest world.env messages,
          { poller with nodeId := some nodeId, failures := 0 }, none⟩ := by
  rw [reports_eq] at reported
  cases identified : poller.identify world with
  | error raised =>
      rw [identified] at reported
      cases reported
  | ok identity =>
      obtain ⟨householdId, named, state, info⟩ := identity
      rw [identified] at reported
      dsimp only at reported
      split at reported
      · next home =>
          subst home
          split at reported
          · cases reported
          · next messages translated =>
              cases reported
              refine ⟨_, ?_, asyncPollOnce_of_messages coordinator identified translated⟩
              intro message member
              rcases List.mem_append.mp member with response | guest
              · exact messagesOf_about translated response
              · exact guestMessages_about guest
      · cases reported

/-- A poll learns a node id or leaves what is known. -/
theorem asyncPollOnce_nodeId (poller : DirectPoller) (coordinator : Coordinator)
    (world : PollWorld) :
    (poller.asyncPollOnce coordinator world).poller.nodeId = poller.nodeId ∨
      ∃ nodeId, nodeId ≠ "" ∧
        (poller.asyncPollOnce coordinator world).poller.nodeId = some nodeId := by
  unfold asyncPollOnce
  split
  · exact Or.inl rfl
  · next householdId nodeId state info identified =>
      have named := identify_named identified
      split
      · dsimp only
        split
        · exact Or.inr ⟨nodeId, named, rfl⟩
        · exact Or.inr ⟨nodeId, named, rfl⟩
      · exact Or.inl rfl

theorem asyncPollSafely_poller_nodeId (poller : DirectPoller) (coordinator : Coordinator)
    (world : PollWorld) :
    (poller.asyncPollSafely coordinator world).poller.nodeId =
      (poller.asyncPollOnce coordinator world).poller.nodeId := by
  unfold asyncPollSafely
  dsimp only
  split
  · rfl
  · split
    · split
      · rfl
      · rfl
    · rfl

end DirectPoller

end HomeKeyHousehold
