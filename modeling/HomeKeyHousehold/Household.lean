import HomeKeyHousehold.Library.Run
import HomeKeyHousehold.FirmwareVerifier

/-!
# A household on an open broker

One client publishes commands to the nodes of its household, which all hold the
household key.  Whoever sees the traffic may submit any payload on any topic of
any node at any time.  The history keeps what the client signed and what the
nodes accepted, in order.
-/

namespace HomeKeyHousehold

open Library

/-- A command the client signed, and what left the client on its account. -/
structure Issued where
  nodeId : String
  action : String
  command : AuthenticatedCommand
  sent : List Publication
  deriving DecidableEq

/-- The string the MAC of an issued command is computed over. -/
def Issued.canonical (issued : Issued) : String :=
  canonicalInput issued.command.ts issued.command.nonce issued.command.reqId issued.action

/-- A payload a node accepted, for the action of its topic. -/
structure Acceptance where
  nodeId : String
  action : Action
  fields : AuthenticatedCommand
  deriving DecidableEq

/-- The string the MAC of an accepted payload was checked against. -/
def Acceptance.canonical (acceptance : Acceptance) : String :=
  canonicalInput acceptance.fields.ts acceptance.fields.nonce acceptance.fields.reqId
    acceptance.action.spelling

/-- The client, the replay window of every node, and the history so far. -/
structure Household where
  householdId : String
  key : Bytes
  client : HomeKeyMqttClient
  windows : String → List String
  issued : List Issued
  accepted : List Acceptance

/-- What can happen next. -/
inductive HouseholdEvent where
  | publish (nodeId action : String) (ts : Option Int) (world : HomeKeyMqttClient.Circumstances)
  | submit (nodeId topic payload : String) (now : Option Int)

namespace Household

/-- A new client, and nodes that have accepted nothing. -/
def start (householdId : String) (key : Bytes) : Household :=
  { householdId
    key
    client := .new householdId
    windows := fun _ => []
    issued := []
    accepted := [] }

/-- The verifier of a node, at a reading of its clock. -/
def verifier (state : Household) (nodeId : String) (now : Option Int) : FirmwareVerifier :=
  ⟨state.key, now, state.windows nodeId⟩

def publish (hmac : HmacSha256) (state : Household) (nodeId action : String)
    (ts : Option Int) (world : HomeKeyMqttClient.Circumstances) : Household :=
  let outcome := state.client.asyncPublishAuthenticatedCommand hmac state.householdId nodeId
    state.key action ts world
  match (state.client.signCommand hmac state.key action ts world.clock world.entropy).2 with
  | .error _ => { state with client := outcome.client }
  | .ok command =>
      { state with
        client := outcome.client
        issued := state.issued ++ [{ nodeId, action, command, sent := outcome.sent }] }

def submit (hmac : HmacSha256) (state : Household) (nodeId topic payload : String)
    (now : Option Int) : Household :=
  let (verifier, outcome) := (state.verifier nodeId now).verify hmac
    (nodeBase state.householdId nodeId) topic payload
  { state with
    windows := Function.update state.windows nodeId verifier.seenNonces
    accepted :=
      match outcome, commandFields payload with
      | .ok action, .ok fields => state.accepted ++ [{ nodeId, action, fields }]
      | _, _ => state.accepted }

def step (hmac : HmacSha256) (state : Household) : HouseholdEvent → Household
  | .publish nodeId action ts world => state.publish hmac nodeId action ts world
  | .submit nodeId topic payload now => state.submit hmac nodeId topic payload now

/-- What a node accepted, oldest first. -/
def acceptedAt (state : Household) (nodeId : String) : List Acceptance :=
  state.accepted.filter fun acceptance => acceptance.nodeId = nodeId

def acceptedNonces (state : Household) (nodeId : String) : List String :=
  (state.acceptedAt nodeId).map fun acceptance => acceptance.fields.nonce

/-- The nonces of the commands that left for a node, oldest first. -/
def publishedTo (state : Household) (nodeId : String) : List String :=
  (state.issued.filter fun issued => issued.nodeId = nodeId ∧ issued.sent ≠ []).map
    fun issued => issued.command.nonce

/-- A submitted payload verifies only if its canonical string was signed by the
client: what an unforgeable MAC leaves to an adversary. -/
def Unforged (hmac : HmacSha256) (state : Household) : HouseholdEvent → Prop
  | .publish .. => True
  | .submit nodeId topic payload _ =>
      ∀ action fields, actionForTopic (nodeBase state.householdId nodeId) topic = .ok action →
        commandFields payload = .ok fields →
        fields.mac = expectedMac hmac state.key fields.ts fields.nonce fields.reqId action →
        ∃ issued ∈ state.issued, issued.canonical =
          canonicalInput fields.ts fields.nonce fields.reqId action.spelling

/-! ## What one event does -/

/-- Everything a publication can do: nothing, or sign under a nonce the tracker
did not hold. -/
theorem publish_cases (hmac : HmacSha256) (state : Household) (nodeId action : String)
    (ts : Option Int) (world : HomeKeyMqttClient.Circumstances) :
    state.publish hmac nodeId action ts world = state ∨
    ∃ act bytes command sent, action = Action.spelling act ∧
      bytes ∈ world.entropy.draws.toList ∧ newNonce bytes ∉ state.client.nonces.seen ∧
      command = HomeKeyMqttClient.commandOf hmac state.key act (ts.getD world.clock) bytes
        world.entropy.uuid ∧
      sent =
        (if world.transmission.leaves then
          [HomeKeyMqttClient.commandPublication state.householdId nodeId action command]
        else []) ∧
      state.publish hmac nodeId action ts world =
        { state with
          client :=
            { state.client with nonces := state.client.nonces.remember (newNonce bytes) }
          issued := state.issued ++ [{ nodeId, action, command, sent }] } := by
  unfold publish HomeKeyMqttClient.asyncPublishAuthenticatedCommand
  rcases signing : state.client.signCommand hmac state.key action ts world.clock
      world.entropy with ⟨after, outcome⟩
  cases outcome with
  | error reason =>
      left
      rw [HomeKeyMqttClient.client_of_signCommand_error signing]
  | ok command =>
      right
      obtain ⟨-, act, bytes, spelled, drawn, fresh, remembered, made⟩ :=
        HomeKeyMqttClient.signCommand_ok signing
      refine ⟨act, bytes, command, _, spelled, drawn, fresh, made, rfl, ?_⟩
      rw [remembered]

/-- Everything a submission can do. -/
theorem submit_cases (hmac : HmacSha256) (state : Household) (nodeId topic payload : String)
    (now : Option Int) :
    state.submit hmac nodeId topic payload now = state ∨
    ∃ action fields,
      actionForTopic (nodeBase state.householdId nodeId) topic = .ok action ∧
      commandFields payload = .ok fields ∧
      (state.verifier nodeId now).check hmac action fields = .ok () ∧
      state.submit hmac nodeId topic payload now =
        { state with
          windows := Function.update state.windows nodeId
            ((state.verifier nodeId now).remember fields.nonce).seenNonces
          accepted := state.accepted ++ [{ nodeId, action, fields }] } := by
  unfold submit
  rcases (state.verifier nodeId now).verify_cases hmac (nodeBase state.householdId nodeId)
      topic payload with
    ⟨action, fields, topical, read, passed, accepted⟩ | ⟨reject, rejected⟩
  · right
    refine ⟨action, fields, topical, read, passed, ?_⟩
    rw [accepted, read]
  · left
    rw [rejected]
    simp only [verifier, Function.update_eq_self]

/-- A written payload that passes the checks of a node is accepted there. -/
theorem submit_of_check {hmac : HmacSha256} {state : Household} {nodeId topic : String}
    (action : Action) {fields : AuthenticatedCommand} {now : Option Int}
    (topical : topic = nodeTopic state.householdId nodeId action.subtopic)
    (passed : (state.verifier nodeId now).check hmac action fields = .ok ()) :
    state.submit hmac nodeId topic (dumpsCommand fields) now =
      { state with
        windows := Function.update state.windows nodeId
          ((state.verifier nodeId now).remember fields.nonce).seenNonces
        accepted := state.accepted ++ [{ nodeId, action, fields }] } := by
  unfold submit FirmwareVerifier.verify
  rw [topical, nodeTopic, actionForTopic_subtopic, commandFields_dumpsCommand]
  simp only [passed]

end Household

end HomeKeyHousehold
