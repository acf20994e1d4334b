import HomeKeyHousehold.LockCommand

/-!
# Delivering lock commands

Over the direct transport every action but the two lock actions is refused at
two layers.  Over MQTT the coordinator takes every action but `lock` for
`unlock`, so the guard of the client never sees the action that was asked for.
-/

namespace HomeKeyHousehold

open Library

/-- The action of a publication: nodes take it from the topic. -/
def Publication.lockAction (base : String) (publication : Publication) : Option String :=
  match actionForTopic base publication.topic with
  | .ok action => some action.spelling
  | .error _ => none

/-- The action of a request to the lock endpoint. -/
def Request.lockAction (request : Request) : Option String :=
  if request.path = "/api/ha/lock" then
    match request.body with
    | .obj members =>
        match Json.get members "action" with
        | .str action => some action
        | _ => none
    | _ => none
  else none

namespace Commanded

/-- The actions of everything that left, on either transport. -/
def actions (base : String) (commanded : Commanded) : List (Option String) :=
  commanded.published.map (Publication.lockAction base) ++
    commanded.posted.map Request.lockAction

/-- A command call raised before anything left, or let exactly one command leave,
with the requested action. -/
def FailsClosed (commanded : Commanded) (base action : String) : Prop :=
  (∃ raised, commanded.result = .error raised) ∧ commanded.actions base = [] ∨
    commanded.actions base = [some action]

end Commanded

namespace Entry

variable {hmac : HmacSha256} {entry : Entry} {nodeId action : String} {world : CommandWorld}

/-- Over MQTT an action that is no lock action reaches `async_unlock` of a keyed
client that draws a fresh nonce, and what is published leaves. -/
def FallsThrough (entry : Entry) (action : String) (world : CommandWorld) : Prop :=
  entry.direct = none ∧ Action.ofString? action = none ∧
    world.publishing.transmission.leaves = true ∧
      ∃ key client, entry.commandKey = some key ∧ entry.mqtt = some client ∧
        ∃ bytes ∈ world.publishing.entropy.draws.toList, newNonce bytes ∉ client.nonces.seen

theorem commandKey_ne_nil {key : Bytes} (keyed : entry.commandKey = some key) : key ≠ [] := by
  unfold commandKey at keyed
  split at keyed
  · split at keyed
    · cases keyed
    · next present =>
        cases keyed
        exact present
  · cases keyed

theorem lockAction_commandPublication (householdId nodeId : String) (act : Action)
    (command : AuthenticatedCommand) :
    (HomeKeyMqttClient.commandPublication householdId nodeId act.spelling command).lockAction
      (nodeBase householdId nodeId) = some act.spelling := by
  have topical : (HomeKeyMqttClient.commandPublication householdId nodeId act.spelling
      command).topic = nodeBase householdId nodeId ++ "/" ++ act.subtopic := by
    cases act with
    | lock => rfl
    | unlock => rfl
  rw [Publication.lockAction, topical, actionForTopic_subtopic]

/-- A keyed client either refuses for want of a fresh nonce, or signs one command
for the action it was asked for, which leaves or not. -/
theorem published_cases (hmac : HmacSha256) (client : HomeKeyMqttClient)
    (householdId nodeId : String) {key : Bytes} (keyed : key ≠ []) (act : Action)
    (ts : Option Int) (circumstances : HomeKeyMqttClient.Circumstances) :
    let sent := client.asyncPublishAuthenticatedCommand hmac householdId nodeId key act.spelling
      ts circumstances
    ((∃ raised, sent.result = .error raised) ∧ sent.sent = [] ∧
      ((∀ bytes ∈ circumstances.entropy.draws.toList, newNonce bytes ∈ client.nonces.seen) ∨
        circumstances.transmission.leaves = false)) ∨
    circumstances.transmission.leaves = true ∧
      (∃ bytes ∈ circumstances.entropy.draws.toList, newNonce bytes ∉ client.nonces.seen) ∧
      ∃ command, sent.sent =
        [HomeKeyMqttClient.commandPublication householdId nodeId act.spelling command] := by
  intro sent
  unfold sent HomeKeyMqttClient.asyncPublishAuthenticatedCommand
  rcases client.signCommand_cases hmac keyed act ts circumstances.clock circumstances.entropy with
    ⟨refused, stale⟩ | ⟨bytes, drawn, fresh, signed⟩
  · rw [refused]
    exact Or.inl ⟨⟨_, rfl⟩, rfl, Or.inl stale⟩
  · rw [signed]
    cases transmission : circumstances.transmission with
    | accepted => exact Or.inr ⟨rfl, ⟨bytes, drawn, fresh⟩, _, rfl⟩
    | failed left =>
        cases left with
        | true => exact Or.inr ⟨rfl, ⟨bytes, drawn, fresh⟩, _, rfl⟩
        | false => exact Or.inl ⟨⟨_, rfl⟩, rfl, Or.inr rfl⟩

/-- A request that does not leave has no answer. -/
theorem request_of_not_leaves (client : DirectClient) (path : String) {reply : Reply}
    (stays : reply.leaves = false) : ∃ raised, client.request path reply = .error raised := by
  cases reply with
  | response status body => cases stays
  | certificateMismatch => exact ⟨_, rfl⟩
  | tlsFailed reason => exact ⟨_, rfl⟩
  | unreachable reason left => exact ⟨_, rfl⟩
  | timedOut left => exact ⟨_, rfl⟩

/-- What the direct transport does: refuse, fail before the request leaves, or
post the one action. -/
theorem posted_cases (coordinator : Coordinator) (poller : DirectPoller)
    (nodeId action : String) (reply : Reply) (refresh : PollWorld) :
    let sent := poller.asyncSendDirectCommand coordinator nodeId action reply refresh
    ((∃ raised, sent.result = .error raised) ∧ sent.posted = []) ∨
      sent.posted = [⟨"/api/ha/lock", .obj [("action", .str action)]⟩] := by
  intro sent
  unfold sent DirectPoller.asyncSendDirectCommand DirectClient.asyncLock
  cases supported : Action.ofString? action with
  | none => exact Or.inl ⟨⟨_, rfl⟩, rfl⟩
  | some act =>
      dsimp only [DirectClient.post, DirectPoller.refreshed]
      cases leaving : reply.leaves with
      | true =>
          right
          split
          · rfl
          · rfl
      | false =>
          left
          obtain ⟨raised, failed⟩ :=
            request_of_not_leaves poller.client "/api/ha/lock" leaving
          rw [failed]
          exact ⟨⟨raised, rfl⟩, rfl⟩

/-- What the MQTT transport does when there is a key and a client. -/
theorem asyncSendLockCommand_mqtt (hmac : HmacSha256) (nodeId action : String)
    (world : CommandWorld) (indirect : entry.direct = none) {key : Bytes}
    (keyed : entry.commandKey = some key) {client : HomeKeyMqttClient}
    (connected : entry.mqtt = some client) :
    let act := if action = "lock" then Action.lock else .unlock
    let sent := client.asyncPublishAuthenticatedCommand hmac entry.coordinator.householdId nodeId
      key act.spelling none world.publishing
    entry.asyncSendLockCommand hmac nodeId action world =
      { entry := { entry with mqtt := some sent.client }
        published := sent.sent
        posted := []
        result := sent.result.map .published } := by
  unfold asyncSendLockCommand
  rw [indirect, keyed, connected]
  dsimp only
  split
  · rfl
  · rfl

/-- The action an MQTT entry sends is the requested one exactly when that is a
lock action. -/
theorem dispatched_iff (action : String) :
    (if action = "lock" then Action.lock else .unlock).spelling = action ↔
      Action.ofString? action ≠ none := by
  constructor
  · intro same unsupported
    rw [← same, Action.ofString?_spelling] at unsupported
    cases unsupported
  · intro supported
    obtain ⟨act, parsed⟩ := Option.ne_none_iff_exists'.mp supported
    rw [Action.ofString?_eq_some_iff.mp parsed]
    cases act with
    | lock => rfl
    | unlock => rfl

theorem failsClosed_direct {poller : DirectPoller} (direct : entry.direct = some poller) :
    (entry.asyncSendLockCommand hmac nodeId action world).FailsClosed
      (nodeBase entry.coordinator.householdId nodeId) action := by
  unfold asyncSendLockCommand
  rw [direct]
  dsimp only [Commanded.FailsClosed, Commanded.actions]
  rcases posted_cases entry.coordinator poller nodeId action world.reply world.refresh with
    ⟨⟨raised, failed⟩, stayed⟩ | left
  · left
    rw [failed, stayed]
    exact ⟨⟨raised, rfl⟩, rfl⟩
  · right
    rw [left]
    rfl

/-- Over MQTT a command call fails closed unless the action falls through. -/
theorem failsClosed_mqtt_iff (indirect : entry.direct = none) {key : Bytes}
    (keyed : entry.commandKey = some key) {client : HomeKeyMqttClient}
    (connected : entry.mqtt = some client) :
    (entry.asyncSendLockCommand hmac nodeId action world).FailsClosed
        (nodeBase entry.coordinator.householdId nodeId) action ↔
      ¬ (Action.ofString? action = none ∧ world.publishing.transmission.leaves = true ∧
        ∃ bytes ∈ world.publishing.entropy.draws.toList,
          newNonce bytes ∉ client.nonces.seen) := by
  rw [asyncSendLockCommand_mqtt hmac nodeId action world indirect keyed connected]
  dsimp only [Commanded.FailsClosed, Commanded.actions]
  rcases published_cases hmac client entry.coordinator.householdId nodeId
      (commandKey_ne_nil keyed) (if action = "lock" then Action.lock else .unlock) none
      world.publishing with
    ⟨⟨raised, failed⟩, stayed, why⟩ | ⟨leaves, fresh, command, sent⟩
  · refine iff_of_true (Or.inl ⟨⟨raised, by rw [failed]; rfl⟩, by rw [stayed]; rfl⟩) ?_
    rintro ⟨-, leaves, bytes, drawn, fresh⟩
    rcases why with stale | stays
    · exact fresh (stale bytes drawn)
    · rw [leaves] at stays
      cases stays
  · rw [sent]
    simp only [List.map_cons, List.map_nil, List.append_nil, lockAction_commandPublication]
    constructor
    · rintro (⟨-, nothing⟩ | same) ⟨unsupported, -, -⟩
      · cases nothing
      · have named := Option.some.inj (List.singleton_inj.mp same)
        exact (dispatched_iff action).mp named unsupported
    · intro held
      right
      have supported : Action.ofString? action ≠ none :=
        fun unsupported => held ⟨unsupported, leaves, fresh⟩
      rw [(dispatched_iff action).mpr supported]

/-- A lock command call raises with nothing sent, or sends exactly the requested
action, precisely when the action does not fall through to `unlock`. -/
theorem command_fails_closed_iff (hmac : HmacSha256) (entry : Entry) (nodeId action : String)
    (world : CommandWorld) :
    (entry.asyncSendLockCommand hmac nodeId action world).FailsClosed
        (nodeBase entry.coordinator.householdId nodeId) action ↔
      ¬ entry.FallsThrough action world := by
  cases direct : entry.direct with
  | some poller =>
      refine iff_of_true (failsClosed_direct direct) ?_
      rintro ⟨indirect, -⟩
      rw [direct] at indirect
      cases indirect
  | none =>
      cases keyed : entry.commandKey with
      | none =>
          refine iff_of_true (Or.inl ?_) ?_
          · unfold asyncSendLockCommand
            rw [direct, keyed]
            exact ⟨⟨_, rfl⟩, rfl⟩
          · rintro ⟨-, -, -, key, client, other, -⟩
            rw [keyed] at other
            cases other
      | some key =>
          cases connected : entry.mqtt with
          | none =>
              refine iff_of_true (Or.inl ?_) ?_
              · unfold asyncSendLockCommand
                rw [direct, keyed, connected]
                exact ⟨⟨_, rfl⟩, rfl⟩
              · rintro ⟨-, -, -, other, client, -, present, -⟩
                rw [connected] at present
                cases present
          | some client =>
              rw [failsClosed_mqtt_iff direct keyed connected]
              refine not_congr ⟨?_, ?_⟩
              · rintro ⟨unsupported, leaves, fresh⟩
                exact ⟨direct, unsupported, leaves, key, client, keyed, connected, fresh⟩
              · rintro ⟨-, unsupported, leaves, other, same, -, present, fresh⟩
                cases connected.symm.trans present
                exact ⟨unsupported, leaves, fresh⟩

/-! ## Sample commands -/

/-- An entry over MQTT that can sign commands. -/
def sampleEntry : Entry :=
  { coordinator := .new "HOME001"
    commandKeyProvider := some (some [1])
    mqtt := some (.new "HOME001")
    direct := none }

/-- A world in which a publication is accepted. -/
def acceptingWorld : CommandWorld :=
  { publishing :=
      { clock := 1700000000
        entropy := { draws := Vector.replicate _ (Vector.replicate _ 0x11)
                     uuid := Vector.replicate _ 0 }
        transmission := .accepted }
    reply := .timedOut false
    refresh :=
      { info := .timedOut false
        state := .timedOut false
        guest := .timedOut false
        env := fun _ =>
          { now := 0
            parseDatetime := fun _ => .ok none
            logbookWorks := false
            lockEntityId := fun _ => none
            listenersRaise := false } } }

theorem open_fallsThrough : sampleEntry.FallsThrough "open" acceptingWorld :=
  ⟨rfl, by decide, rfl, [1], .new "HOME001", rfl, rfl, Vector.replicate _ 0x11, by decide,
    List.not_mem_nil⟩

/-- Asked to `open`, an MQTT entry unlocks. -/
theorem open_unlocks :
    ¬ ∀ (hmac : HmacSha256) (entry : Entry) (nodeId action : String) (world : CommandWorld),
      (entry.asyncSendLockCommand hmac nodeId action world).FailsClosed
        (nodeBase entry.coordinator.householdId nodeId) action := by
  intro closed
  obtain ⟨indirect, unsupported, leaves, key, client, keyed, connected, fresh⟩ :=
    open_fallsThrough
  have failsClosed := closed (fun _ text => text) sampleEntry "GATE-001" "open" acceptingWorld
  rw [failsClosed_mqtt_iff indirect keyed connected] at failsClosed
  exact failsClosed ⟨unsupported, leaves, fresh⟩

end Entry

end HomeKeyHousehold
