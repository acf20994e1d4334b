import HomeKeyHousehold.Library.JsonRoundTrip
import HomeKeyHousehold.Mqtt

/-!
# The direct API

Requests to the node's own HTTPS endpoints, and the translation of what
`/api/ha/state` reports into the messages MQTT would have delivered.  The network
is an input: a reply, or the way in which there was none.
-/

namespace HomeKeyHousehold

open Library

/-! ## Requests -/

/-- What becomes of one request.  A body that cannot be decoded is `none`. -/
inductive Reply where
  | response (status : Nat) (body : Option String)
  | certificateMismatch
  | tlsFailed (reason : String)
  | unreachable (reason : String) (left : Bool)
  | timedOut (left : Bool)
  deriving DecidableEq, Repr

/-- Whether the request leaves for the device that holds the pinned key. -/
def Reply.leaves : Reply → Bool
  | .response .. => true
  | .certificateMismatch => false
  | .tlsFailed _ => false
  | .unreachable _ left => left
  | .timedOut left => left

/-- A `POST` with its JSON body. -/
structure Request where
  path : String
  body : Json

/-- The state of `DirectClient` that its requests depend on. -/
structure DirectClient where
  host : String
  port : Nat
  deriving DecidableEq, Repr

/-- What one posting call leaves behind. -/
structure Posted where
  sent : List Request
  result : Except Raised Json

/-- `response.json(content_type=None)`: an empty body reads as `None`. -/
def readJson (body : Option String) : Except Raised Json :=
  match body with
  | none => .error .other
  | some text =>
      if stripBytes text = "" then .ok .null
      else
        match Json.loads (stripBytes text) with
        | some value => .ok value
        | none => .error .other

/-- An HTTP error, with the stripped text of its body. -/
def failWithText (error : DirectError) (body : Option String) (message : String → String) :
    Except Raised Json :=
  match body with
  | none => .error .other
  | some text => .error (.direct error (message (strip text)))

def fingerprintMismatchMessage : String :=
  "The node presented a certificate that does not match the pinned fingerprint. It may have " ++
    "been factory reset or replaced."

namespace DirectClient

/-- `_request`. -/
def request (client : DirectClient) (path : String) : Reply → Except Raised Json
  | .response status body =>
      if status = 401 then .error (.direct .auth "The node rejected the credentials")
      else if status = 503 then
        failWithText .tlsUnavailable body fun text =>
          if text = "" then "HTTPS is not active" else text
      else if status = 404 then
        .error (.direct .protocol ("The node does not implement " ++ path))
      else if 400 ≤ status then
        failWithText .transport body fun text => "HTTP " ++ toString status ++ ": " ++ text
      else readJson body
  | .certificateMismatch => .error (.direct .fingerprintMismatch fingerprintMismatchMessage)
  | .tlsFailed reason => .error (.direct .transport ("TLS handshake failed: " ++ reason))
  | .unreachable reason _ =>
      .error (.direct .transport
        ("Could not reach the node at " ++ client.host ++ ": " ++ reason))
  | .timedOut _ => .error (.direct .transport "Timed out talking to the node")

/-- Post a body, and read the answer. -/
def post (client : DirectClient) (path : String) (body : Json) (reply : Reply) : Posted :=
  { sent := if reply.leaves then [⟨path, body⟩] else []
    result := client.request path reply }

/-- Refuse without a request. -/
def refuse (message : String) : Posted := ⟨[], .error (.direct .protocol message)⟩

/-- `async_lock` of the direct client. -/
def asyncLock (client : DirectClient) (action : String) (reply : Reply) : Posted :=
  match Action.ofString? action with
  | none => refuse ("Unsupported lock action: " ++ reprString action)
  | some _ => client.post "/api/ha/lock" (.obj [("action", .str action)]) reply

/-- `async_get_guest`: a protocol error means there is no guest feature. -/
def asyncGetGuest (client : DirectClient) (reply : Reply) : Except Raised (Option Json) :=
  match client.request "/api/ha/guest" reply with
  | .ok .null => .ok none
  | .ok guest => .ok (some guest)
  | .error (.direct .protocol _) => .ok none
  | .error (.direct .noHousehold _) => .ok none
  | .error raised => .error raised

/-- `async_set_guest_config`. -/
def asyncSetGuestConfig (client : DirectClient) (enabled : Option Bool)
    (defaultValiditySeconds : Option Int) (reply : Reply) : Posted :=
  let body :=
    (enabled.map fun value => ("enabled", Json.bool value)).toList ++
      (defaultValiditySeconds.map fun value =>
        ("default_validity_seconds", Json.int value)).toList
  if body.isEmpty then refuse "No guest configuration was given"
  else client.post "/api/ha/guest/config" (.obj body) reply

/-- `async_guest_teach` with the arguments the coordinator passes. -/
def asyncGuestTeach (client : DirectClient) (label : Option String) (validDays : Option Json)
    (reply : Reply) : Posted :=
  let named := label.filter fun text => text ≠ ""
  client.post "/api/ha/guest/teach"
    (.obj ((named.map fun text => ("label", Json.str text)).toList ++
      (validDays.map fun days => ("valid_days", days)).toList)) reply

/-- `async_guest_revoke`. -/
def asyncGuestRevoke (client : DirectClient) (tagId : String) (reply : Reply) : Posted :=
  if tagId = "" then refuse "A tag id is required to revoke a guest tag"
  else client.post "/api/ha/guest/revoke" (.obj [("tag_id", .str tagId)]) reply

/-- `async_guest_cancel`. -/
def asyncGuestCancel (client : DirectClient) (reply : Reply) : Posted :=
  client.post "/api/ha/guest/cancel" (.obj []) reply

end DirectClient

/-! ## Reading a state response -/

/-- Attribute access on anything but a dictionary raises. -/
def membersOf : Json → Except Raised Dict
  | .obj members => .ok members
  | _ => .error .other

/-- `info.get("device")`, empty unless it is an object. -/
def deviceOf (info : Dict) : Dict :=
  match Json.get info "device" with
  | .obj members => members
  | _ => []

/-- A member that is only passed on when it is truthy. -/
def passOn (key : String) (value : Json) : Dict := if value.truthy then [(key, value)] else []

/-- `health_payload_from_state`. -/
def healthPayloadFromState (state : Dict) : Except Raised Dict := do
  let reader ← membersOf ((Json.get state "reader").orElse (.obj []))
  let mqtt ← membersOf ((Json.get state "mqtt").orElse (.obj []))
  let lock ← membersOf ((Json.get state "lock").orElse (.obj []))
  let connected (part : Dict) : Json :=
    .str (if (Json.get part "connected").truthy then healthOk else healthError)
  -- Absent when the node reports no lock manager.
  let reading (key : String) (value : Json) : Dict :=
    match (Json.get lock "available").truthy, value with
    | true, .null => []
    | true, value => [(key, value)]
    | false, _ => []
  pure
    ([("network", .str healthNetworkUnknown), ("certificate", .str healthCertificateUnknown),
        ("nfc", connected reader), ("mqtt", connected mqtt)] ++
      passOn "firmware_version" (Json.get state "firmware") ++
      reading "lock_current" (Json.get lock "current") ++
      reading "lock_target" (Json.get lock "target"))

/-- A lock reading, without the firmware's sentinel for no reading. -/
def dropNotReported (payload : Dict) (key : String) : Dict :=
  if (Json.get payload key).equalsInt lockStateNotReported then Json.drop payload key
  else payload

/-- `health_from_state`. -/
def healthFromState (state : Dict) : Except Raised Dict :=
  match Json.get state "health" with
  | .obj members =>
      .ok (dropNotReported (dropNotReported members "lock_current") "lock_target")
  | _ => healthPayloadFromState state

/-- `resolve_identity`: the household and the node a response names. -/
def resolveIdentity (state info : Json) : Except Raised (String × String) := do
  let info ← membersOf info
  let state ← membersOf state
  let householdId := (Json.get state "household_id").orElse (.str "")
  let nodeId :=
    ((Json.get state "node_id").orElse (Json.get (deviceOf info) "node_id")).orElse (.str "")
  if nodeId.truthy then
    if householdId.truthy then pure (householdId.text, nodeId.text)
    else
      .error (.direct .noHousehold ("Node " ++ nodeId.text ++
        " has no household. On the node's Web UI open Provision, issue a one-time code, then " ++
        "join with a household id - the Household page only shows what is already there. The " ++
        "household is what its entities are keyed on."))
  else
    .error (.direct .protocol
      "The node did not report a node id, so there is nothing to identify it by")

/-- A response is never resolved to an empty node id. -/
theorem resolveIdentity_named {state info : Json} {householdId nodeId : String}
    (resolved : resolveIdentity state info = .ok (householdId, nodeId)) : nodeId ≠ "" := by
  unfold resolveIdentity at resolved
  cases info with
  | obj info =>
      cases state with
      | obj state =>
          simp only [membersOf, bind, Except.bind] at resolved
          split at resolved
          · next named =>
              split at resolved
              · cases resolved
                exact Json.text_ne_empty named
              · cases resolved
          · cases resolved
      | null | bool _ | int _ | float _ | str _ | arr _ => cases resolved
  | null | bool _ | int _ | float _ | str _ | arr _ => cases resolved

/-- The `state` document: exactly the identity fields of `B/state`. -/
def identityDocument (state info : Dict) (householdId nodeId : String) : Json :=
  .obj ([("household_id", .str householdId), ("node_id", .str nodeId)] ++
    passOn "node_name"
      ((Json.get state "node_name").orElse (Json.get (deviceOf info) "node_name")) ++
    passOn "node_role" (Json.get state "node_role") ++
    passOn "node_state" (Json.get state "node_state") ++
    (match Json.get state "generation" with
      | .int value => [("generation", .int value)]
      | _ => []) ++
    passOn "firmware_version" (Json.get state "firmware"))

/-- A plain-text value the contract defines. -/
def plainMessage {α : Type} (householdId nodeId : String) (subtopic : Subtopic)
    (ofString? : String → Option α) (value : Json) : List HomeKeyMessage :=
  match value with
  | .str text =>
      if (ofString? text).isSome then
        [{ householdId, nodeId, subtopic := subtopic.spelling, payload := text, retain := true }]
      else []
  | _ => []

/-- The `lock/last` message of a response, if it reports a source. -/
def lockLastMessages (state : Dict) (householdId nodeId : String) : List HomeKeyMessage :=
  match Json.get state "lock_last" with
  | .obj members =>
      if (Json.get members "source").truthy then
        [.document householdId nodeId .lockLast (.obj members) true]
      else []
  | _ => []

/-- The `last_auth` message of a response, if its result is one of the contract;
a result that cannot be looked up in a set raises. -/
def lastAuthMessages (state : Dict) (householdId nodeId : String) :
    Except Raised (List HomeKeyMessage) :=
  match Json.get state "last_auth" with
  | .obj members =>
      match Json.get members "result" with
      | .str text =>
          if (AuthResult.ofString? text).isSome then
            .ok [.document householdId nodeId .lastAuth (.obj members) true]
          else .ok []
      | result => if result.hashable then .ok [] else .error .other
  | _ => .ok []

/-- `state_to_messages`: the lock's cause before the health document that shows
the change, and the authorisation last. -/
def stateToMessages (state info : Dict) (householdId nodeId : String) :
    Except Raised (List HomeKeyMessage) := do
  let health ← healthFromState state
  let lastAuth ← lastAuthMessages state householdId nodeId
  pure
    ([{ householdId, nodeId, subtopic := Subtopic.status.spelling, payload := "online",
        retain := true }] ++
      lockLastMessages state householdId nodeId ++
      [.document householdId nodeId .state (identityDocument state info householdId nodeId) true,
        .document householdId nodeId .health (.obj health) false] ++
      plainMessage householdId nodeId .security SecurityState.ofString?
        (Json.get state "security") ++
      plainMessage householdId nodeId .backupStatus BackupOutcome.ofString?
        (Json.get state "backup_status") ++
      lastAuth)

/-! ## Answers -/

/-- The answer of a device that returns a document. -/
def Reply.answer (document : Json) : Reply := .response 200 (some (Json.dumps document))

theorem writeMembers_eq_append (gap : List Char) (members : Dict) :
    ∃ front, Json.writeMembers gap members = front ++ ['}'] := by
  induction members with
  | nil => exact ⟨[], rfl⟩
  | cons member rest ih =>
      obtain ⟨name, value⟩ := member
      obtain ⟨front, closed⟩ := ih
      rw [Json.writeMembers, closed]
      exact ⟨_, by rw [← List.append_assoc, ← List.cons_append]⟩

/-- An object is written without blanks at either end. -/
theorem stripBytes_dumps_obj (members : Dict) :
    stripBytes (Json.dumps (.obj members)) = Json.dumps (.obj members) := by
  obtain ⟨front, written⟩ : ∃ front, Json.write [' '] (.obj members) = '{' :: (front ++ ['}']) := by
    cases members with
    | nil => exact ⟨[], rfl⟩
    | cons member rest =>
        obtain ⟨name, value⟩ := member
        obtain ⟨front, closed⟩ := writeMembers_eq_append [' '] rest
        rw [Json.write, closed]
        exact ⟨_, by rw [← List.append_assoc]⟩
  rw [stripBytes, stripOf, Json.dumps, String.toList_ofList, written]
  simp

/-- A client reads the object a device answers with. -/
theorem request_answer (client : DirectClient) (path : String) (members : Dict) :
    client.request path (.answer (.obj members)) = .ok (.obj members) := by
  have filled : Json.dumps (.obj members) ≠ "" := by
    intro blank
    have loaded := Json.loads_dumps (.obj members)
    rw [blank] at loaded
    cases loaded
  rw [Reply.answer, DirectClient.request]
  simp [readJson, stripBytes_dumps_obj, filled]

/-! ## What the messages are about -/

/-- A translated response consists of the health document, the optional
authorisation, and what never fails. -/
theorem stateToMessages_ok {state info : Dict} {householdId nodeId : String}
    {messages : List HomeKeyMessage}
    (translated : stateToMessages state info householdId nodeId = .ok messages) :
    ∃ health lastAuth, healthFromState state = .ok health ∧
      lastAuthMessages state householdId nodeId = .ok lastAuth ∧
      messages =
        [{ householdId, nodeId, subtopic := Subtopic.status.spelling, payload := "online",
            retain := true }] ++
          lockLastMessages state householdId nodeId ++
          [.document householdId nodeId .state (identityDocument state info householdId nodeId)
              true,
            .document householdId nodeId .health (.obj health) false] ++
          plainMessage householdId nodeId .security SecurityState.ofString?
            (Json.get state "security") ++
          plainMessage householdId nodeId .backupStatus BackupOutcome.ofString?
            (Json.get state "backup_status") ++
          lastAuth := by
  unfold stateToMessages at translated
  cases health : healthFromState state with
  | error raised =>
      rw [health] at translated
      cases translated
  | ok document =>
      rw [health] at translated
      cases lastAuth : lastAuthMessages state householdId nodeId with
      | error raised =>
          rw [lastAuth] at translated
          cases translated
      | ok auth =>
          rw [lastAuth] at translated
          cases translated
          exact ⟨document, auth, rfl, rfl, rfl⟩

/-- A message is about a node of a household. -/
def HomeKeyMessage.About (householdId nodeId : String) (message : HomeKeyMessage) : Prop :=
  message.householdId = householdId ∧ message.nodeId = some nodeId

theorem about_plainMessage {α : Type} {householdId nodeId : String} {subtopic : Subtopic}
    {ofString? : String → Option α} {value : Json} {message : HomeKeyMessage}
    (member : message ∈ plainMessage householdId nodeId subtopic ofString? value) :
    message.About householdId nodeId := by
  unfold plainMessage at member
  split at member
  · split at member
    · rw [List.mem_singleton.mp member]
      exact ⟨rfl, rfl⟩
    · cases member
  · cases member

theorem about_lockLastMessages {state : Dict} {householdId nodeId : String}
    {message : HomeKeyMessage} (member : message ∈ lockLastMessages state householdId nodeId) :
    message.About householdId nodeId := by
  unfold lockLastMessages at member
  split at member
  · split at member
    · rw [List.mem_singleton.mp member]
      exact ⟨rfl, rfl⟩
    · cases member
  · cases member

theorem about_lastAuthMessages {state : Dict} {householdId nodeId : String}
    {messages : List HomeKeyMessage} (made : lastAuthMessages state householdId nodeId = .ok messages)
    {message : HomeKeyMessage} (member : message ∈ messages) :
    message.About householdId nodeId := by
  unfold lastAuthMessages at made
  split at made
  · split at made
    · split at made
      · cases made
        rw [List.mem_singleton.mp member]
        exact ⟨rfl, rfl⟩
      · cases made
        cases member
    · split at made
      · cases made
        cases member
      · cases made
  · cases made
    cases member

/-- Every message of a response is about the node that was resolved. -/
theorem about_stateToMessages {state info : Dict} {householdId nodeId : String}
    {messages : List HomeKeyMessage}
    (translated : stateToMessages state info householdId nodeId = .ok messages)
    {message : HomeKeyMessage} (member : message ∈ messages) :
    message.About householdId nodeId := by
  obtain ⟨health, lastAuth, -, made, rfl⟩ := stateToMessages_ok translated
  simp only [List.mem_append, List.mem_cons, List.not_mem_nil, or_false] at member
  rcases member with ((((rfl | cause) | rfl | rfl) | security) | backup) | auth
  · exact ⟨rfl, rfl⟩
  · exact about_lockLastMessages cause
  · exact ⟨rfl, rfl⟩
  · exact ⟨rfl, rfl⟩
  · exact about_plainMessage security
  · exact about_plainMessage backup
  · exact about_lastAuthMessages made auth

/-- An accepted lock change has a source. -/
theorem LockChange.source_of_fromDict {members : Dict} {householdId nodeId : String}
    {change : LockChange}
    (parsed : LockChange.fromDict (.obj members) householdId nodeId = .ok change) :
    ∃ text, Json.get members "source" = .str text ∧ text ≠ "" := by
  unfold LockChange.fromDict at parsed
  simp only [requireDict, bind, Except.bind] at parsed
  split at parsed
  · cases parsed
  split at parsed
  · cases parsed
  split at parsed
  · cases parsed
  split at parsed
  · cases parsed
  · next source read =>
      unfold optionalStr asOptionalStr at read
      split at read
      · cases read
        cases parsed
      · next text found =>
          cases read
          refine ⟨text, found, ?_⟩
          rintro rfl
          cases parsed
      · cases read

/-- An accepted authorisation has a result of the contract. -/
theorem LastAuth.result_of_fromDict {members : Dict} {householdId nodeId : String}
    {auth : LastAuth}
    (parsed : LastAuth.fromDict (.obj members) householdId nodeId = .ok auth) :
    ∃ text, Json.get members "result" = .str text ∧
      (AuthResult.ofString? text).isSome = true := by
  unfold LastAuth.fromDict at parsed
  simp only [requireDict, bind, Except.bind] at parsed
  split at parsed
  · cases parsed
  split at parsed
  · cases parsed
  · next text read =>
      unfold requireStr at read
      split at read
      · next found =>
          split at read
          · cases read
          · cases read
            refine ⟨text, found, ?_⟩
            split at parsed
            · cases parsed
            · next known =>
                rw [known]
                rfl
      · cases read

theorem subtopic_plainMessage {α : Type} {householdId nodeId : String} {subtopic : Subtopic}
    {ofString? : String → Option α} {value : Json} {message : HomeKeyMessage}
    (member : message ∈ plainMessage householdId nodeId subtopic ofString? value) :
    message.subtopic = subtopic.spelling := by
  unfold plainMessage at member
  split at member
  · split at member
    · rw [List.mem_singleton.mp member]
    · cases member
  · cases member

end HomeKeyHousehold
