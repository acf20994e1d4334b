import HomeKeyHousehold.Replay

/-!
# Action binding

The action is the undelimited end of the canonical string, and `lock` is the end
of `unlock`.  A lock MAC can be cut into no unlock command, because a request id
is hexadecimal; an unlock MAC can always be cut into a lock command.
-/

namespace HomeKeyHousehold

open Library

variable {hmac : HmacSha256}

/-- A payload that carries a MAC. -/
def CarriesMac (payload mac : String) : Prop :=
  ∃ data, Json.loads payload = some (.obj data) ∧ Json.get data "mac" = .str mac

theorem carriesMac_dumpsCommand (command : AuthenticatedCommand) :
    CarriesMac (dumpsCommand command) command.mac :=
  ⟨_, loads_dumpsCommand command, rfl⟩

/-- The fields read from a payload have the MAC it carries. -/
theorem mac_of_commandFields {payload mac : String} {fields : AuthenticatedCommand}
    (carries : CarriesMac payload mac) (read : commandFields payload = .ok fields) :
    fields.mac = mac := by
  obtain ⟨data, loaded, carried⟩ := carries
  unfold commandFields at read
  rw [loaded] at read
  dsimp only at read
  split at read
  · split at read
    · rw [carried] at read
      rw [← Except.ok.inj read]
    · cases read
  · cases read

/-- The characters of a canonical string. -/
theorem toList_canonicalInput (ts : Int) (nonce reqId action : String) :
    (canonicalInput ts nonce reqId action).toList =
      Json.writeInt ts ++ nonce.toList ++ reqId.toList ++ action.toList := by
  simp only [canonicalInput, String.toList_append, String.toList_ofList]

/-- No canonical string for an unlock is the one of a lock with a hexadecimal
request id: the letter before `lock` would have to be an `n`. -/
theorem canonicalInput_unlock_ne_lock {ts otherTs : Int} {nonce otherNonce otherReqId : String}
    (uuid : RandomBytes) :
    canonicalInput otherTs otherNonce otherReqId Action.unlock.spelling ≠
      canonicalInput ts nonce (newRequestId uuid) Action.lock.spelling := by
  intro equal
  have lists := congrArg String.toList equal
  rw [toList_canonicalInput, toList_canonicalInput] at lists
  have unlock : Action.unlock.spelling.toList = ['u', 'n'] ++ Action.lock.spelling.toList := rfl
  rw [unlock, ← List.append_assoc] at lists
  have heads := List.append_cancel_right lists
  have length := length_newRequestId uuid
  rcases List.eq_nil_or_concat (newRequestId uuid).toList with empty | ⟨front, last, shape⟩
  · rw [← String.length_toList, empty] at length
    cases length
  · rw [shape, List.concat_eq_append, ← List.append_assoc] at heads
    have ends : ['u', 'n'] = ['u'] ++ ['n'] := rfl
    rw [ends, ← List.append_assoc] at heads
    have letter := List.singleton_inj.mp (List.append_inj' heads rfl).2
    have inText : 'n' ∈ (newRequestId uuid).toList := by
      rw [shape, letter]
      simp
    have digit := hexText_isHexDigit _ 'n' inText
    exact absurd digit (by decide)

/-- The unlock string of any fields is the lock string of a request id that
takes two letters more. -/
theorem canonicalInput_recut (ts : Int) (nonce reqId : String) :
    canonicalInput ts nonce (reqId ++ "un") Action.lock.spelling =
      canonicalInput ts nonce reqId Action.unlock.spelling := by
  apply String.toList_injective
  rw [toList_canonicalInput, toList_canonicalInput, String.toList_append]
  simp only [List.append_assoc]
  rfl

/-- The payload that turns an unlock command into a lock command. -/
def recut (command : AuthenticatedCommand) : AuthenticatedCommand :=
  { command with reqId := command.reqId ++ "un" }

theorem carriesMac_recut (command : AuthenticatedCommand) :
    CarriesMac (dumpsCommand (recut command)) command.mac :=
  carriesMac_dumpsCommand (recut command)

/-- Every node with the key accepts a re-cut unlock command on the lock topic,
once, while the command is in time. -/
theorem recut_accepted (ideal : Ideal hmac) (verifier : FirmwareVerifier) (base : String)
    (command : AuthenticatedCommand)
    (signed : command.mac =
      expectedMac hmac verifier.key command.ts command.nonce command.reqId .unlock)
    (timely : verifier.inTime command.ts = true)
    (unseen : command.nonce ∉ verifier.seenNonces) :
    (verifier.verify hmac base (base ++ "/" ++ Action.lock.subtopic)
      (dumpsCommand (recut command))).2 = .ok .lock := by
  have passed : verifier.check hmac .lock (recut command) = .ok () := by
    rw [FirmwareVerifier.check_ok_iff]
    refine ⟨?_, ?_, timely, unseen⟩
    · change isAscii command.mac = true
      rw [signed, isAscii, List.all_eq_true]
      intro ch member
      exact decide_eq_true (ideal.ascii _ _ ch member)
    · change command.mac = hmac verifier.key _
      rw [signed, expectedMac]
      exact congrArg (hmac verifier.key) (canonicalInput_recut _ _ _).symm
  unfold FirmwareVerifier.verify
  rw [actionForTopic_subtopic, commandFields_dumpsCommand]
  simp only [passed]

/-- A published command is bound to its action exactly when that is `lock`: then
no payload with its MAC is accepted on the topic of the other action. -/
theorem action_bound_iff_lock (ideal : Ideal hmac) {client : HomeKeyMqttClient}
    {householdId nodeId : String} {key : Bytes} {action : Action} {ts : Option Int}
    {world : HomeKeyMqttClient.Circumstances} {command : AuthenticatedCommand}
    (published : HomeKeyMqttClient.commandPublication householdId nodeId action.spelling command ∈
      (client.asyncPublishAuthenticatedCommand hmac householdId nodeId key action.spelling ts
        world).sent) :
    (∀ (verifier : FirmwareVerifier) (base payload : String), verifier.key = key →
        CarriesMac payload command.mac → ∀ accepted,
        (verifier.verify hmac base (base ++ "/" ++ action.other.subtopic) payload).2 ≠
          .ok accepted) ↔
      action = .lock := by
  obtain ⟨after, built, signing, same⟩ := HomeKeyMqttClient.signCommand_of_sent published
  obtain ⟨-, act, bytes, spelled, -, -, -, made⟩ := HomeKeyMqttClient.signCommand_ok signing
  have named : action = act := by
    have parsed := congrArg Action.ofString? spelled
    rw [Action.ofString?_spelling, Action.ofString?_spelling] at parsed
    exact Option.some.inj parsed
  have identical : command = built :=
    dumpsCommand_injective (congrArg Publication.payload same)
  subst named identical made
  constructor
  · intro bound
    cases action with
    | lock => rfl
    | unlock =>
        have accepted := recut_accepted ideal ⟨key, none, []⟩ ""
          (HomeKeyMqttClient.commandOf hmac key .unlock (ts.getD world.clock) bytes
            world.entropy.uuid) rfl rfl List.not_mem_nil
        exact absurd accepted (bound _ _ _ rfl (carriesMac_recut _) .lock)
  · rintro rfl verifier base payload rfl carries accepted verified
    rcases verifier.verify_cases hmac base (base ++ "/" ++ Action.unlock.subtopic) payload with
      ⟨topical, fields, onTopic, read, passed, -⟩ | ⟨reject, rejected⟩
    · rw [actionForTopic_subtopic] at onTopic
      cases onTopic
      obtain ⟨-, mac, -, -⟩ :=
        (FirmwareVerifier.check_ok_iff hmac verifier .unlock fields).mp passed
      have carried := mac_of_commandFields carries read
      exact canonicalInput_unlock_ne_lock world.entropy.uuid
        (ideal.injective verifier.key (mac.symm.trans carried))
    · rw [Action.other, rejected] at verified
      cases verified

open Household (sampleKey sampleWorld sampleLock sampleLockHmac ideal_sampleLockHmac)

theorem sampleLock_published :
    HomeKeyMqttClient.commandPublication "HOME001" "GATE-001" Action.lock.spelling sampleLock ∈
      ((HomeKeyMqttClient.new "HOME001").asyncPublishAuthenticatedCommand sampleLockHmac "HOME001"
        "GATE-001" sampleKey Action.lock.spelling none sampleWorld).sent := by
  have sent : ((HomeKeyMqttClient.new "HOME001").asyncPublishAuthenticatedCommand sampleLockHmac
      "HOME001" "GATE-001" sampleKey Action.lock.spelling none sampleWorld).sent =
      [HomeKeyMqttClient.commandPublication "HOME001" "GATE-001" Action.lock.spelling
        sampleLock] := by
    rfl
  rw [sent]
  exact List.mem_singleton_self _

/-- The sample lock command does not unlock a node that shares its key. -/
theorem sampleLock_never_unlocks :
    ((⟨sampleKey, some 1700000001, []⟩ : FirmwareVerifier).verify sampleLockHmac
        (nodeBase "HOME001" "GATE-001")
        (nodeBase "HOME001" "GATE-001" ++ "/" ++ Action.lock.other.subtopic)
        (dumpsCommand sampleLock)).2 ≠ .ok .unlock :=
  (action_bound_iff_lock ideal_sampleLockHmac sampleLock_published).mpr rfl _ _ _ rfl
    (carriesMac_dumpsCommand sampleLock) .unlock

def sampleUnlockHmac : HmacSha256 :=
  pinnedHmac
    "17000000001111111111111111111111111111111100000000000040008000000000000000unlock"
    "be5ca83fcf24f40dabfe9d415effb8d7265f169eee1218c5cab420d7b7c63d32"

theorem ideal_sampleUnlockHmac : Ideal sampleUnlockHmac :=
  ideal_pinnedHmac _ rfl (by decide)

def sampleUnlock : AuthenticatedCommand :=
  { sampleLock with mac := "be5ca83fcf24f40dabfe9d415effb8d7265f169eee1218c5cab420d7b7c63d32" }

theorem sampleUnlock_published :
    HomeKeyMqttClient.commandPublication "HOME001" "GATE-001" Action.unlock.spelling
        sampleUnlock ∈
      ((HomeKeyMqttClient.new "HOME001").asyncPublishAuthenticatedCommand sampleUnlockHmac
        "HOME001" "GATE-001" sampleKey Action.unlock.spelling none sampleWorld).sent := by
  have sent : ((HomeKeyMqttClient.new "HOME001").asyncPublishAuthenticatedCommand
      sampleUnlockHmac "HOME001" "GATE-001" sampleKey Action.unlock.spelling none
      sampleWorld).sent =
      [HomeKeyMqttClient.commandPublication "HOME001" "GATE-001" Action.unlock.spelling
        sampleUnlock] := by
    rfl
  rw [sent]
  exact List.mem_singleton_self _

/-- The sample unlock MAC locks: a MAC does not always bind its action. -/
theorem unlock_mac_accepted_for_lock :
    ¬ ∀ (hmac : HmacSha256), Ideal hmac →
      ∀ (client : HomeKeyMqttClient) (householdId nodeId : String) (key : Bytes)
        (action : Action) (ts : Option Int) (world : HomeKeyMqttClient.Circumstances)
        (command : AuthenticatedCommand),
        HomeKeyMqttClient.commandPublication householdId nodeId action.spelling command ∈
          (client.asyncPublishAuthenticatedCommand hmac householdId nodeId key action.spelling ts
            world).sent →
        ∀ (verifier : FirmwareVerifier) (base payload : String), verifier.key = key →
          CarriesMac payload command.mac → ∀ accepted,
          (verifier.verify hmac base (base ++ "/" ++ action.other.subtopic) payload).2 ≠
            .ok accepted := by
  intro binding
  have signed : sampleUnlock.mac = expectedMac sampleUnlockHmac sampleKey sampleUnlock.ts
      sampleUnlock.nonce sampleUnlock.reqId .unlock := by
    rfl
  have accepted := recut_accepted ideal_sampleUnlockHmac
    ⟨sampleKey, some 1700000001, []⟩ (nodeBase "HOME001" "GATE-001") sampleUnlock signed
    (by decide) List.not_mem_nil
  exact binding sampleUnlockHmac ideal_sampleUnlockHmac _ _ _ _ .unlock _ _ _
    sampleUnlock_published _ _ _ rfl (carriesMac_recut sampleUnlock) .lock accepted

end HomeKeyHousehold
