import HomeKeyHousehold.Direct

/-!
# Health documents without the sentinel

The direct transport drops the firmware's reading of no lock from a health
document before it is parsed.  A document that is accepted as it stands is still
accepted without it, with the readings that are left.
-/

namespace HomeKeyHousehold

open Library

/-- A reading that is not the sentinel for a lock that was not read. -/
def readingReported (health : Dict) (key : String) : Bool :=
  !(Json.get health key).equalsInt lockStateNotReported

/-- The health document of a response as the direct transport passes it on. -/
def withoutSentinel (health : Dict) : Dict :=
  dropNotReported (dropNotReported health "lock_current") "lock_target"

theorem healthFromState_embedded {state health : Dict}
    (embedded : Json.get state "health" = .obj health) :
    healthFromState state = .ok (withoutSentinel health) := by
  rw [healthFromState, embedded]
  rfl

theorem lookup_dropNotReported (health : Dict) {key other : String} (apart : other ≠ key) :
    Json.lookup (dropNotReported health key) other = Json.lookup health other := by
  unfold dropNotReported
  split
  · rw [Json.lookup_drop, if_neg apart]
  · rfl

theorem get_dropNotReported (health : Dict) (key : String) :
    Json.get (dropNotReported health key) key =
      if readingReported health key then Json.get health key else .null := by
  unfold dropNotReported readingReported
  cases (Json.get health key).equalsInt lockStateNotReported with
  | true =>
      rw [if_pos rfl, Json.get, Json.lookup_drop, if_pos rfl]
      rfl
  | false => rfl

/-- All keys but the two readings are passed on as they are. -/
theorem lookup_withoutSentinel (health : Dict) {key : String} (current : key ≠ "lock_current")
    (target : key ≠ "lock_target") :
    Json.lookup (withoutSentinel health) key = Json.lookup health key := by
  rw [withoutSentinel, lookup_dropNotReported _ target, lookup_dropNotReported _ current]

theorem get_current_withoutSentinel (health : Dict) :
    Json.get (withoutSentinel health) "lock_current" =
      if readingReported health "lock_current" then Json.get health "lock_current" else .null := by
  rw [← get_dropNotReported, withoutSentinel, Json.get, lookup_dropNotReported _ (by decide)]
  rfl

theorem get_target_withoutSentinel (health : Dict) :
    Json.get (withoutSentinel health) "lock_target" =
      if readingReported health "lock_target" then Json.get health "lock_target" else .null := by
  have kept : Json.get (dropNotReported health "lock_current") "lock_target" =
      Json.get health "lock_target" := by
    rw [Json.get, lookup_dropNotReported _ (by decide)]
    rfl
  rw [withoutSentinel, get_dropNotReported, readingReported, kept]
  rfl

theorem withoutSentinel_of_reported {health : Dict}
    (current : readingReported health "lock_current" = true)
    (target : readingReported health "lock_target" = true) : withoutSentinel health = health := by
  have kept {key : String} (reported : readingReported health key = true) :
      dropNotReported health key = health := by
    rw [dropNotReported, if_neg]
    simpa [readingReported] using reported
  rw [withoutSentinel, kept current, kept target]

/-- A reading as the direct transport passes it on. -/
def reportedReading (health : Dict) (key : String) (reading : Option Int) : Option Int :=
  if readingReported health key then reading else none

/-- The sentinel is only read as itself. -/
theorem reading_of_unreported {health : Dict} {key : String} {reading : Option Int}
    (read : optionalInt health key = .ok reading) (sentinel : readingReported health key = false) :
    reading = some lockStateNotReported := by
  unfold optionalInt at read
  unfold readingReported at sentinel
  split at read
  · next absent =>
      rw [absent] at sentinel
      cases sentinel
  · next value found =>
      cases read
      rw [found] at sentinel
      simpa [Json.equalsInt] using sentinel
  · cases read

/-- A reading that is passed on unchanged was no sentinel. -/
theorem reported_of_kept {health : Dict} {key : String} {reading : Option Int}
    (read : optionalInt health key = .ok reading)
    (kept : reportedReading health key reading = reading) : readingReported health key = true := by
  by_contra unreported
  have sentinel := Bool.not_eq_true _ ▸ unreported
  rw [reading_of_unreported read sentinel, reportedReading, if_neg unreported] at kept
  cases kept

/-- A validator that looks at one key reads both documents alike. -/
theorem get_withoutSentinel (health : Dict) {key : String} (current : key ≠ "lock_current")
    (target : key ≠ "lock_target") :
    Json.get (withoutSentinel health) key = Json.get health key := by
  rw [Json.get, lookup_withoutSentinel health current target]
  rfl

theorem validateIdentity_withoutSentinel (health : Dict) (householdId nodeId place : String) :
    validateIdentity (withoutSentinel health) householdId nodeId place =
      validateIdentity health householdId nodeId place := by
  have field {name : String} (expected : String) (current : name ≠ "lock_current")
      (target : name ≠ "lock_target") :
      validateIdentityField (withoutSentinel health) name expected place =
        validateIdentityField health name expected place := by
    rw [validateIdentityField, validateIdentityField, lookup_withoutSentinel _ current target,
      requireIdentityField, requireIdentityField, requireStr, requireStr,
      get_withoutSentinel _ current target]
  rw [validateIdentity, validateIdentity, field householdId (by decide) (by decide),
    field nodeId (by decide) (by decide)]

theorem optionalInt_withoutSentinel {health : Dict} {key : String} {reading : Option Int}
    (read : optionalInt health key = .ok reading)
    (passed : Json.get (withoutSentinel health) key =
      if readingReported health key then Json.get health key else .null) :
    optionalInt (withoutSentinel health) key = .ok (reportedReading health key reading) := by
  unfold reportedReading
  unfold optionalInt at read ⊢
  rw [passed]
  cases readingReported health key with
  | true => exact read
  | false => rfl

/-- A document that is accepted as it stands is accepted without the sentinel,
with the readings that are left. -/
theorem fromDict_withoutSentinel {health : Dict} {householdId nodeId : String}
    {parsed : NodeHealth}
    (accepted : NodeHealth.fromDict (.obj health) householdId nodeId = .ok parsed) :
    optionalInt health "lock_current" = .ok parsed.lockCurrent ∧
      optionalInt health "lock_target" = .ok parsed.lockTarget ∧
      NodeHealth.fromDict (.obj (withoutSentinel health)) householdId nodeId =
        .ok { parsed with
          lockCurrent := reportedReading health "lock_current" parsed.lockCurrent
          lockTarget := reportedReading health "lock_target" parsed.lockTarget } := by
  simp only [NodeHealth.fromDict, requireDict, bind_eq_ok, Except.ok.injEq,
    exists_eq_left', pure, Except.pure] at accepted
  obtain ⟨_, identity, security, secured, network, readNetwork, mqtt, readMqtt, nfc, readNfc,
    certificate, readCertificate, mqttError, readMqttError, lockCurrent, readCurrent, lockTarget,
    readTarget, backup, readBackup, firmwareVersion, readFirmware, uptime, readUptime, freeHeap,
    readFreeHeap, resetReason, readReset, securityAllOk, readAllOk, securityWarnings, readWarnings,
    rfl⟩ := accepted
  refine ⟨readCurrent, readTarget, ?_⟩
  have current := optionalInt_withoutSentinel readCurrent (get_current_withoutSentinel health)
  have target := optionalInt_withoutSentinel readTarget (get_target_withoutSentinel health)
  have secure : securityObject (withoutSentinel health) = .ok security := by
    rw [securityObject, get_withoutSentinel _ (by decide) (by decide)]
    exact secured
  have text {key : String} (apart : key ≠ "lock_current") (other : key ≠ "lock_target") :
      optionalStr (withoutSentinel health) key = optionalStr health key := by
    rw [optionalStr, get_withoutSentinel _ apart other, optionalStr]
  have number {key : String} (apart : key ≠ "lock_current") (other : key ≠ "lock_target") :
      optionalInt (withoutSentinel health) key = optionalInt health key := by
    rw [optionalInt, get_withoutSentinel _ apart other, optionalInt]
  have required : requireStr (withoutSentinel health) "mqtt" = .ok mqtt := by
    rw [requireStr, get_withoutSentinel _ (by decide) (by decide)]
    exact readMqtt
  simp only [NodeHealth.fromDict, requireDict, bind_eq_ok, Except.ok.injEq,
    exists_eq_left', pure, Except.pure]
  refine ⟨(), ?_, security, secure, network, ?_, mqtt, required, nfc, ?_, certificate, ?_,
    mqttError, ?_, _, current, _, target, backup, ?_, firmwareVersion, ?_, uptime, ?_, freeHeap,
    ?_, resetReason, ?_, securityAllOk, readAllOk, securityWarnings, readWarnings, rfl⟩
  · rw [validateIdentity_withoutSentinel]
    exact identity
  · rw [text (by decide) (by decide), readNetwork]
  · rw [text (by decide) (by decide), readNfc]
  · rw [text (by decide) (by decide), readCertificate]
  · rw [number (by decide) (by decide), readMqttError]
  · rw [text (by decide) (by decide), readBackup]
  · rw [text (by decide) (by decide), readFirmware]
  · rw [number (by decide) (by decide), readUptime]
  · rw [number (by decide) (by decide), readFreeHeap]
  · rw [get_withoutSentinel _ (by decide) (by decide), readReset]

end HomeKeyHousehold
