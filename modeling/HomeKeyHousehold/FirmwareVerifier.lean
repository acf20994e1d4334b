import HomeKeyHousehold.Mqtt

/-!
# The firmware's command verification

A node takes the action from the topic, recomputes the MAC over the fields it
was sent, checks the time when it knows it, and refuses a nonce that is among
the last 32 it accepted.
-/

namespace HomeKeyHousehold

open Library

/-- Why a command is not accepted. -/
inductive Reject where
  | firmwareReject (reason : String)
  | typeError
  deriving DecidableEq, Repr

def firmwareReject {α : Type} (reason : String) : Except Reject α :=
  .error (.firmwareReject reason)

/-- `action_for_topic`. -/
def actionForTopic (base topic : String) : Except Reject Action :=
  if topic = base ++ "/command/unlock" then .ok .unlock
  else if topic = base ++ "/command/lock" then .ok .lock
  else firmwareReject ("unknown command topic: " ++ topic)

/-- `expected_mac`. -/
def expectedMac (hmac : HmacSha256) (key : Bytes) (ts : Int) (nonce reqId : String)
    (action : Action) : String :=
  hmac key (canonicalInput ts nonce reqId action.spelling)

/-- The four fields of a payload, with the types the firmware asks for. -/
def commandFields (payload : String) : Except Reject AuthenticatedCommand :=
  match Json.loads payload with
  | none => firmwareReject "malformed JSON"
  | some (.obj data) =>
      match Json.get data "ts" with
      | .int ts =>
          match Json.get data "nonce", Json.get data "req_id" with
          | .str nonce, .str reqId =>
              match Json.get data "mac" with
              | .str mac => .ok { ts, nonce, reqId, mac }
              | _ => firmwareReject "mac must be a string"
          | _, _ => firmwareReject "nonce/req_id must be strings"
      | _ => firmwareReject "ts must be a number"
  | some _ => firmwareReject "payload is not an object"

def isAscii (text : String) : Bool := text.toList.all fun ch => ch.toNat < 128

/-- `hmac.compare_digest` of two strings. -/
def compareDigest (expected actual : String) : Except Reject Bool :=
  if isAscii expected && isAscii actual then .ok (expected = actual) else .error .typeError

def maxSkewSeconds : Int := 300
def replayWindow : Nat := 32

/-- A stateful verifier with its own replay window. -/
structure FirmwareVerifier where
  key : Bytes
  now : Option Int
  seenNonces : List String
  deriving DecidableEq

namespace FirmwareVerifier

/-- The time window, when the node knows the time. -/
def inTime (verifier : FirmwareVerifier) (ts : Int) : Bool :=
  match verifier.now with
  | none => true
  | some now => -maxSkewSeconds ≤ ts - now && ts - now ≤ maxSkewSeconds

/-- The checks on the fields, in the order the firmware makes them. -/
def check (hmac : HmacSha256) (verifier : FirmwareVerifier) (action : Action)
    (fields : AuthenticatedCommand) : Except Reject Unit :=
  match compareDigest
      (expectedMac hmac verifier.key fields.ts fields.nonce fields.reqId action) fields.mac with
  | .error reject => .error reject
  | .ok false => firmwareReject "MAC mismatch"
  | .ok true =>
      if verifier.inTime fields.ts then
        if fields.nonce ∈ verifier.seenNonces then firmwareReject "replayed nonce"
        else .ok ()
      else firmwareReject "outside time window"

/-- Append an accepted nonce, and forget the oldest beyond the window. -/
def remember (verifier : FirmwareVerifier) (nonce : String) : FirmwareVerifier :=
  let seen := verifier.seenNonces ++ [nonce]
  { verifier with seenNonces := if replayWindow < seen.length then seen.drop 1 else seen }

/-- `FirmwareVerifier.verify`: the accepted action, or a rejection. -/
def verify (hmac : HmacSha256) (verifier : FirmwareVerifier) (base topic payload : String) :
    FirmwareVerifier × Except Reject Action :=
  match actionForTopic base topic with
  | .error reject => (verifier, .error reject)
  | .ok action =>
      match commandFields payload with
      | .error reject => (verifier, .error reject)
      | .ok fields =>
          match verifier.check hmac action fields with
          | .error reject => (verifier, .error reject)
          | .ok () => (verifier.remember fields.nonce, .ok action)

/-- What it takes to pass the checks. -/
theorem check_ok_iff (hmac : HmacSha256) (verifier : FirmwareVerifier) (action : Action)
    (fields : AuthenticatedCommand) :
    verifier.check hmac action fields = .ok () ↔
      isAscii fields.mac = true ∧
      fields.mac =
        expectedMac hmac verifier.key fields.ts fields.nonce fields.reqId action ∧
      verifier.inTime fields.ts = true ∧ fields.nonce ∉ verifier.seenNonces := by
  unfold check compareDigest
  generalize expectedMac hmac verifier.key fields.ts fields.nonce fields.reqId action = expected
  constructor
  · intro passed
    split at passed
    · cases passed
    · cases passed
    · next compared =>
        split at compared
        · next ascii =>
            have equal : expected = fields.mac := by simpa using compared
            rw [Bool.and_eq_true] at ascii
            split at passed
            · next timely =>
                split at passed
                · cases passed
                · next unseen => exact ⟨ascii.2, equal.symm, timely, unseen⟩
            · cases passed
        · cases compared
  · rintro ⟨ascii, rfl, timely, unseen⟩
    simp only [ascii, Bool.and_self, if_true, decide_true, timely, if_neg unseen]

/-- Everything a verification can do: accept and remember the nonce, or reject
and change nothing. -/
theorem verify_cases (hmac : HmacSha256) (verifier : FirmwareVerifier)
    (base topic payload : String) :
    (∃ action fields, actionForTopic base topic = .ok action ∧
      commandFields payload = .ok fields ∧ verifier.check hmac action fields = .ok () ∧
      verifier.verify hmac base topic payload =
        (verifier.remember fields.nonce, .ok action)) ∨
    ∃ reject, verifier.verify hmac base topic payload = (verifier, .error reject) := by
  unfold verify
  cases topical : actionForTopic base topic with
  | error reject => exact Or.inr ⟨reject, rfl⟩
  | ok action =>
      cases read : commandFields payload with
      | error reject => exact Or.inr ⟨reject, rfl⟩
      | ok fields =>
          cases passed : verifier.check hmac action fields with
          | error reject => exact Or.inr ⟨reject, by simp only [passed]⟩
          | ok passes => exact Or.inl ⟨action, fields, rfl, rfl, passed, by simp only [passed]⟩

end FirmwareVerifier

@[simp]
theorem actionForTopic_subtopic (base : String) (action : Action) :
    actionForTopic base (base ++ "/" ++ action.subtopic) = .ok action := by
  have topics : base ++ "/" ++ Action.lock.subtopic ≠ base ++ "/command/unlock" := by
    intro equal
    have lists := congrArg String.toList equal
    rw [String.toList_append, String.toList_append, String.toList_append,
      List.append_assoc] at lists
    exact absurd (List.append_cancel_left lists) (by decide)
  cases action with
  | lock =>
      rw [actionForTopic, if_neg topics, if_pos]
      rw [String.append_assoc]
      rfl
  | unlock =>
      rw [actionForTopic, if_pos]
      rw [String.append_assoc]
      rfl

/-- A published payload carries the fields of its command. -/
@[simp]
theorem commandFields_dumpsCommand (command : AuthenticatedCommand) :
    commandFields (dumpsCommand command) = .ok command := by
  unfold commandFields
  rw [loads_dumpsCommand]
  rfl

end HomeKeyHousehold
