import HomeKeyHousehold.Library.JsonRoundTrip
import HomeKeyHousehold.Command

/-!
# The MQTT client

Parsed messages on the way in, and authenticated commands on the way out.  The
broker is an input: it takes a publication, or the transport raises before or
after the publication has left.
-/

namespace HomeKeyHousehold

open Library

/-- A parsed message scoped to a node. -/
structure HomeKeyMessage where
  householdId : String
  subtopic : String
  payload : String
  nodeId : Option String := none
  qos : Nat := 0
  retain : Bool := false
  legacy : Bool := false
  deriving DecidableEq, Repr

/-- A message that carries the text of a JSON document. -/
def HomeKeyMessage.document (householdId nodeId : String) (subtopic : Subtopic)
    (document : Json) (retain : Bool) : HomeKeyMessage :=
  { householdId
    nodeId
    subtopic := subtopic.spelling
    payload := Json.dumps document
    retain }

/-- The arguments of `transport.publish`. -/
structure Publication where
  topic : String
  payload : String
  qos : Nat
  retain : Bool
  deriving DecidableEq, Repr

/-- What becomes of a publication. -/
inductive Transmission where
  | accepted
  | failed (left : Bool)
  deriving DecidableEq, Repr

/-- Whether a publication leaves the client. -/
def Transmission.leaves : Transmission → Bool
  | .accepted => true
  | .failed left => left

/-- The state of `HomeKeyMqttClient`. -/
structure HomeKeyMqttClient where
  householdId : String
  legacyPrefix : Option String
  nonces : NonceTracker

namespace HomeKeyMqttClient

/-- A new client, with a nonce tracker of its own. -/
def new (householdId : String) (legacyPrefix : Option String := none) : HomeKeyMqttClient :=
  { householdId, legacyPrefix, nonces := .new }

/-- What the world contributes to one command. -/
structure Circumstances where
  clock : Int
  entropy : Entropy
  transmission : Transmission

/-- The refusals and the signing of `async_publish_authenticated_command`. -/
def signCommand (hmac : HmacSha256) (client : HomeKeyMqttClient) (key : Bytes)
    (action : String) (ts : Option Int) (clock : Int) (entropy : Entropy) :
    HomeKeyMqttClient × Validated AuthenticatedCommand :=
  if key = [] then
    (client, invalid "command credential unavailable; refusing to publish")
  else
    match Action.ofString? action with
    | none => (client, invalid (unsupportedAction action))
    | some _ =>
        let (tracker, command) :=
          buildCommand hmac key action clock entropy (some (ts.getD clock)) none none
            (some client.nonces)
        ({ client with nonces := tracker.getD client.nonces }, command)

/-- The publication of a signed command. -/
def commandPublication (householdId nodeId action : String) (command : AuthenticatedCommand) :
    Publication :=
  { topic :=
      nodeTopic householdId nodeId (if action = "lock" then topicCmdLock else topicCmdUnlock)
    payload := dumpsCommand command
    qos := 1
    retain := false }

/-- What one publishing call leaves behind. -/
structure Published where
  client : HomeKeyMqttClient
  sent : List Publication
  result : Except Raised AuthenticatedCommand

/-- `async_publish_authenticated_command`. -/
def asyncPublishAuthenticatedCommand (hmac : HmacSha256) (client : HomeKeyMqttClient)
    (householdId nodeId : String) (key : Bytes) (action : String) (ts : Option Int)
    (world : Circumstances) : Published :=
  match client.signCommand hmac key action ts world.clock world.entropy with
  | (client, .error reason) => { client, sent := [], result := .error (.validation reason) }
  | (client, .ok command) =>
      { client
        sent :=
          if world.transmission.leaves then
            [commandPublication householdId nodeId action command]
          else []
        result :=
          match world.transmission with
          | .accepted => .ok command
          | .failed _ => .error .other }

/-- `async_lock` of the MQTT client. -/
def asyncLock (hmac : HmacSha256) (client : HomeKeyMqttClient) (householdId nodeId : String)
    (key : Bytes) (ts : Option Int) (world : Circumstances) : Published :=
  client.asyncPublishAuthenticatedCommand hmac householdId nodeId key "lock" ts world

/-- `async_unlock` of the MQTT client. -/
def asyncUnlock (hmac : HmacSha256) (client : HomeKeyMqttClient) (householdId nodeId : String)
    (key : Bytes) (ts : Option Int) (world : Circumstances) : Published :=
  client.asyncPublishAuthenticatedCommand hmac householdId nodeId key "unlock" ts world

/-- The command signed for an action, a time and two draws of random bytes. -/
def commandOf (hmac : HmacSha256) (key : Bytes) (action : Action) (ts : Int)
    (bytes uuid : RandomBytes) : AuthenticatedCommand :=
  { ts
    nonce := newNonce bytes
    reqId := newRequestId uuid
    mac := hmac key
      (canonicalInput ts (newNonce bytes) (newRequestId uuid) action.spelling) }

/-- Everything `signCommand` can do for a valid request: refuse for want of a
fresh nonce, or sign under a nonce the tracker had not seen. -/
theorem signCommand_cases (hmac : HmacSha256) (client : HomeKeyMqttClient) {key : Bytes}
    (keyed : key ≠ []) (action : Action) (ts : Option Int) (clock : Int) (entropy : Entropy) :
    (client.signCommand hmac key action.spelling ts clock entropy =
        (client, invalid "could not generate a fresh nonce") ∧
      ∀ bytes ∈ entropy.draws.toList, newNonce bytes ∈ client.nonces.seen) ∨
    ∃ bytes ∈ entropy.draws.toList, newNonce bytes ∉ client.nonces.seen ∧
      client.signCommand hmac key action.spelling ts clock entropy =
        ({ client with nonces := client.nonces.remember (newNonce bytes) },
          .ok (commandOf hmac key action (ts.getD clock) bytes entropy.uuid)) := by
  unfold signCommand buildCommand
  simp only [if_neg keyed, Action.ofString?_spelling, chooseNonce]
  rcases client.nonces.freshNonce_cases entropy.draws with
    ⟨refused, all⟩ | ⟨bytes, drawn, fresh, taken⟩
  · left
    refine ⟨?_, all⟩
    rw [refused]
    rfl
  · right
    refine ⟨bytes, drawn, fresh, ?_⟩
    rw [taken]
    simp only [Option.getD_some, Option.getD_none]
    rw [signFields_ok]
    rfl

/-- A refusal leaves the client alone. -/
theorem client_of_signCommand_error {hmac : HmacSha256} {client after : HomeKeyMqttClient}
    {key : Bytes} {action : String} {ts : Option Int} {clock : Int} {entropy : Entropy}
    {reason : ValidationError}
    (refused : client.signCommand hmac key action ts clock entropy = (after, .error reason)) :
    after = client := by
  by_cases keyed : key = []
  · rw [signCommand, if_pos keyed] at refused
    exact (congrArg Prod.fst refused).symm
  · cases supported : Action.ofString? action with
    | none =>
        rw [signCommand, if_neg keyed, supported] at refused
        exact (congrArg Prod.fst refused).symm
    | some act =>
        rw [Action.ofString?_eq_some_iff.mp supported] at refused
        rcases client.signCommand_cases hmac keyed act ts clock entropy with
          ⟨stale, -⟩ | ⟨bytes, -, -, signed⟩
        · rw [stale] at refused
          exact (congrArg Prod.fst refused).symm
        · rw [signed] at refused
          cases congrArg Prod.snd refused

/-- Only a keyed client signs, only a lock action, and only under a nonce its
tracker had not seen and now remembers. -/
theorem signCommand_ok {hmac : HmacSha256} {client after : HomeKeyMqttClient}
    {key : Bytes} {action : String} {ts : Option Int} {clock : Int} {entropy : Entropy}
    {command : AuthenticatedCommand}
    (signed : client.signCommand hmac key action ts clock entropy = (after, .ok command)) :
    key ≠ [] ∧ ∃ act bytes, action = Action.spelling act ∧ bytes ∈ entropy.draws.toList ∧
      newNonce bytes ∉ client.nonces.seen ∧
      after = { client with nonces := client.nonces.remember (newNonce bytes) } ∧
      command = commandOf hmac key act (ts.getD clock) bytes entropy.uuid := by
  by_cases keyed : key = []
  · rw [signCommand, if_pos keyed] at signed
    cases congrArg Prod.snd signed
  · refine ⟨keyed, ?_⟩
    cases supported : Action.ofString? action with
    | none =>
        rw [signCommand, if_neg keyed, supported] at signed
        cases congrArg Prod.snd signed
    | some act =>
        have spelled := Action.ofString?_eq_some_iff.mp supported
        rw [spelled] at signed
        rcases client.signCommand_cases hmac keyed act ts clock entropy with
          ⟨stale, -⟩ | ⟨bytes, drawn, fresh, made⟩
        · rw [stale] at signed
          cases congrArg Prod.snd signed
        · rw [made] at signed
          have command := congrArg Prod.snd signed
          exact ⟨act, bytes, spelled, drawn, fresh, (congrArg Prod.fst signed).symm,
            (Except.ok.inj command).symm⟩

/-- What leaves is the publication of the one command that was signed. -/
theorem signCommand_of_sent {hmac : HmacSha256} {client : HomeKeyMqttClient}
    {householdId nodeId : String} {key : Bytes} {action : String} {ts : Option Int}
    {world : Circumstances} {publication : Publication}
    (sent : publication ∈ (client.asyncPublishAuthenticatedCommand hmac householdId nodeId key
      action ts world).sent) :
    ∃ after command,
      client.signCommand hmac key action ts world.clock world.entropy = (after, .ok command) ∧
      publication = commandPublication householdId nodeId action command := by
  unfold asyncPublishAuthenticatedCommand at sent
  rcases signing : client.signCommand hmac key action ts world.clock world.entropy with
    ⟨after, outcome⟩
  rw [signing] at sent
  cases outcome with
  | error reason => cases sent
  | ok command =>
      refine ⟨after, command, rfl, ?_⟩
      dsimp only at sent
      split at sent
      · exact List.mem_singleton.mp sent
      · cases sent

end HomeKeyMqttClient

/-- Different commands are written differently. -/
theorem dumpsCommand_injective : Function.Injective dumpsCommand := by
  intro first second equal
  obtain ⟨firstTs, firstNonce, firstReqId, firstMac⟩ := first
  obtain ⟨secondTs, secondNonce, secondReqId, secondMac⟩ := second
  have documents := congrArg Json.loads equal
  simp only [dumpsCommand, Json.loads_dumpsCompact, AuthenticatedCommand.toDict] at documents
  simpa using documents

/-- Reading a published payload back gives the command's fields. -/
@[simp]
theorem loads_dumpsCommand (command : AuthenticatedCommand) :
    Json.loads (dumpsCommand command) = some command.toDict :=
  Json.loads_dumpsCompact command.toDict

end HomeKeyHousehold
