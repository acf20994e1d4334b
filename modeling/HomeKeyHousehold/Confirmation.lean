import HomeKeyHousehold.CommandDelivery
import HomeKeyHousehold.Library.Polling
import HomeKeyHousehold.PendingCauses
import HomeKeyHousehold.Redelivery

/-!
# Confirming a lock command

A command is confirmed by the state its node reports.  The entity looks at that state
when the command call returns and about every half second from then on; a state that is
reported and taken back between two looks confirms nothing.
-/

namespace HomeKeyHousehold

open Library

/-! ## The clock -/

/-- The monotonic clock counts nanoseconds. -/
def nanosPerSecond : Nat := 1000000000

/-- `COMMAND_CONFIRM_TIMEOUT_SECONDS`. -/
def commandConfirmTimeoutSeconds : Nat := 10

/-- `COMMAND_CONFIRM_POLL_SECONDS`, half a second, on the clock. -/
def commandConfirmPoll : Nat := nanosPerSecond / 2

/-- The readings of the clock at which a caller wakes up. -/
def wakeTimes (moments : List (Moment Delivery Nat)) : List Nat :=
  moments.filterMap fun moment =>
    match moment with
    | .arrival .. => none
    | .wake time => some time

/-- What happens from the return of a command call on: messages arrive, and the caller
wakes from each of its sleeps, until a wake-up that is not before the deadline. -/
structure ConfirmationWindow where
  returned : Nat
  moments : List (Moment Delivery Nat)
  ordered : (.wake returned :: moments).Pairwise fun earlier later => earlier.time ≤ later.time
  spaced : (returned :: wakeTimes moments).IsChain fun earlier later =>
    earlier + commandConfirmPoll ≤ later
  ends : ∃ time, returned + commandConfirmTimeoutSeconds * nanosPerSecond ≤ time ∧
    .wake time ∈ moments

namespace ConfirmationWindow

/-- `time.monotonic() + COMMAND_CONFIRM_TIMEOUT_SECONDS`. -/
def deadline (window : ConfirmationWindow) : Nat :=
  window.returned + commandConfirmTimeoutSeconds * nanosPerSecond

/-- The first look is taken at once. -/
def looks (window : ConfirmationWindow) : List (Moment Delivery Nat) :=
  .wake window.returned :: window.moments

end ConfirmationWindow

/-! ## The lock entity -/

/-- What a service call raises. -/
inductive CommandError where
  | homeAssistant (message : String)
  | serviceValidation (message : String)
  deriving DecidableEq

/-- How a service call ends, and when. -/
structure CommandCall where
  raised : Option CommandError
  time : Nat
  deriving DecidableEq

namespace HomeKeyLock

/-- Whether the node is there and in a state. -/
def isIn (nodeId : String) (target : LockState) (coordinator : Coordinator) : Bool :=
  match coordinator.getNode nodeId with
  | none => false
  | some node => node.lockState = target

/-- `_async_wait_for_state`. -/
def asyncWaitForState (nodeId : String) (target : LockState) (coordinator : Coordinator)
    (window : ConfirmationWindow) : Option (Waited Nat) :=
  poll Coordinator.handle (isIn nodeId target) window.deadline coordinator window.looks

/-- The state an action asks for. -/
def targetOf (action : String) : LockState := if action = "lock" then .locked else .unlocked

/-- `Cannot …`. -/
def cannotMessage (action householdId nodeId reason : String) : String :=
  "Cannot " ++ action ++ " " ++ householdId ++ "/" ++ nodeId ++ ": " ++ reason

/-- `Failed to publish …`. -/
def failedMessage (action householdId nodeId : String) : String :=
  "Failed to publish " ++ action ++ " command for " ++ householdId ++ "/" ++ nodeId

/-- `The node did not report …`. -/
def unreportedMessage (target : LockState) (action : String) : String :=
  "The node did not report " ++ target.spelling ++ " within " ++
    toString commandConfirmTimeoutSeconds ++ " s of the " ++ action ++
    " command. The command was published, so this usually means the node rejected it - " ++
    "its audit log records why."

/-- The coordinator at the return of the command call, after the messages that arrived
while it was suspended. -/
def atReturn (hmac : HmacSha256) (entry : Entry) (nodeId action : String) (world : CommandWorld)
    (suspended : List Delivery) : Coordinator :=
  run Coordinator.handle (entry.asyncSendLockCommand hmac nodeId action world).entry.coordinator
    suspended

/-- `_async_send`, of which `async_lock` and `async_unlock` are two cases. -/
def asyncSend (hmac : HmacSha256) (entry : Entry) (nodeId action : String) (world : CommandWorld)
    (suspended : List Delivery) (window : ConfirmationWindow) : Option CommandCall :=
  let target := targetOf action
  let householdId := entry.coordinator.householdId
  match (entry.asyncSendLockCommand hmac nodeId action world).result with
  | .error (.validation error) =>
      some ⟨some (.homeAssistant (cannotMessage action householdId nodeId error.message)),
        window.returned⟩
  | .error _ =>
      some ⟨some (.homeAssistant (failedMessage action householdId nodeId)), window.returned⟩
  | .ok _ =>
      (asyncWaitForState nodeId target (atReturn hmac entry nodeId action world suspended)
        window).map fun waited =>
          if waited.found then ⟨none, waited.time⟩
          else ⟨some (.serviceValidation (unreportedMessage target action)), waited.time⟩

/-! ## The promise about confirmations -/

section
variable (hmac : HmacSha256) (entry : Entry) (nodeId action : String) (world : CommandWorld)
variable (suspended : List Delivery) (window : ConfirmationWindow)

/-- The command call returns. -/
def Returns : Prop :=
  ∃ answer, (entry.asyncSendLockCommand hmac nodeId action world).result = .ok answer

/-- The lock is in the target state when the call returns or after a report before the
deadline. -/
def Reached : Prop :=
  Met Coordinator.handle (isIn nodeId (targetOf action)) window.deadline
    (atReturn hmac entry nodeId action world suspended) window.looks

/-- The lock is in the target state at a look, up to the first that is not before the
deadline. -/
def Sampled : Prop :=
  Seen Coordinator.handle (isIn nodeId (targetOf action)) window.deadline
    (atReturn hmac entry nodeId action world suspended) window.looks

/-- The lock is in the target state at the first look that is not before the deadline. -/
def SampledLast : Prop :=
  SeenLast Coordinator.handle (isIn nodeId (targetOf action)) window.deadline
    (atReturn hmac entry nodeId action world suspended) window.looks

/-- A target that is reached before the deadline is there at some look, and a target that
is there at the last look was reached before the deadline. -/
def LooksInTime : Prop :=
  (Reached hmac entry nodeId action world suspended window →
      Sampled hmac entry nodeId action world suspended window) ∧
    (SampledLast hmac entry nodeId action world suspended window →
      Reached hmac entry nodeId action world suspended window)

/-- A command whose call returned is confirmed exactly when the target was reached, and
else raises, not before the deadline. -/
structure ConfirmsReached : Prop where
  confirmed : Returns hmac entry nodeId action world →
    ((∃ time, asyncSend hmac entry nodeId action world suspended window = some ⟨none, time⟩) ↔
      Reached hmac entry nodeId action world suspended window)
  refused : Returns hmac entry nodeId action world →
    ¬ Reached hmac entry nodeId action world suspended window →
    ∃ raised time, asyncSend hmac entry nodeId action world suspended window =
      some ⟨some raised, time⟩ ∧ window.deadline ≤ time

end

variable {hmac : HmacSha256} {entry : Entry} {nodeId action : String} {world : CommandWorld}
variable {suspended : List Delivery} {window : ConfirmationWindow}

/-- After a command call that returned comes the wait. -/
theorem asyncSend_of_returns (returns : Returns hmac entry nodeId action world)
    (suspended : List Delivery) (window : ConfirmationWindow) :
    asyncSend hmac entry nodeId action world suspended window =
      (asyncWaitForState nodeId (targetOf action)
        (atReturn hmac entry nodeId action world suspended) window).map fun waited =>
          if waited.found then ⟨none, waited.time⟩
          else ⟨some (.serviceValidation (unreportedMessage (targetOf action) action)),
            waited.time⟩ := by
  obtain ⟨answer, answered⟩ := returns
  rw [asyncSend, answered]

/-- The wait ends, with the target found or after the deadline. -/
theorem asyncWaitForState_cases (nodeId : String) (target : LockState)
    (coordinator : Coordinator) (window : ConfirmationWindow) :
    (∃ time, asyncWaitForState nodeId target coordinator window = some ⟨true, time⟩) ∨
      ∃ time, asyncWaitForState nodeId target coordinator window = some ⟨false, time⟩ ∧
        window.deadline ≤ time := by
  obtain ⟨time, passed, member⟩ := window.ends
  obtain ⟨⟨found, stopped⟩, ended⟩ := @exists_poll _ _ _ _ Coordinator.handle
    (isIn nodeId target) window.deadline coordinator window.looks
    ⟨time, passed, List.mem_cons_of_mem _ member⟩
  cases found with
  | true => exact Or.inl ⟨stopped, ended⟩
  | false => exact Or.inr ⟨stopped, ended, deadline_le_of_not_found ended⟩

/-- A command is confirmed when the wait finds the target. -/
theorem asyncSend_confirmed_iff (returns : Returns hmac entry nodeId action world) :
    (∃ time, asyncSend hmac entry nodeId action world suspended window = some ⟨none, time⟩) ↔
      ∃ time, asyncWaitForState nodeId (targetOf action)
        (atReturn hmac entry nodeId action world suspended) window = some ⟨true, time⟩ := by
  rw [asyncSend_of_returns returns]
  rcases asyncWaitForState_cases nodeId (targetOf action)
    (atReturn hmac entry nodeId action world suspended) window with
    ⟨stopped, ended⟩ | ⟨stopped, ended, -⟩
  · rw [ended]
    exact iff_of_true ⟨stopped, rfl⟩ ⟨stopped, rfl⟩
  · rw [ended]
    refine iff_of_false ?_ ?_
    · rintro ⟨time, confirmed⟩
      cases confirmed
    · rintro ⟨time, found⟩
      cases found

/-- The wait finds what was reached exactly when the looks are in time for it. -/
theorem confirmed_iff_reached_iff (returns : Returns hmac entry nodeId action world) :
    ((∃ time, asyncSend hmac entry nodeId action world suspended window = some ⟨none, time⟩) ↔
        Reached hmac entry nodeId action world suspended window) ↔
      LooksInTime hmac entry nodeId action world suspended window := by
  rw [asyncSend_confirmed_iff returns]
  exact found_iff_met_iff window.ordered

/-- A call is confirmed as promised exactly when, if the command call returned at all, a
target that is reached before the deadline is there at some look, and one that is there
at the last look was reached before the deadline. -/
theorem confirmsReached_iff (hmac : HmacSha256) (entry : Entry) (nodeId action : String)
    (world : CommandWorld) (suspended : List Delivery) (window : ConfirmationWindow) :
    ConfirmsReached hmac entry nodeId action world suspended window ↔
      (Returns hmac entry nodeId action world →
        LooksInTime hmac entry nodeId action world suspended window) := by
  constructor
  · intro promise returns
    exact (confirmed_iff_reached_iff returns).mp (promise.confirmed returns)
  · intro sampled
    refine ⟨fun returns => (confirmed_iff_reached_iff returns).mpr (sampled returns),
      fun returns missed => ?_⟩
    have agree := (confirmed_iff_reached_iff returns).mpr (sampled returns)
    rw [asyncSend_confirmed_iff returns] at agree
    rcases asyncWaitForState_cases nodeId (targetOf action)
      (atReturn hmac entry nodeId action world suspended) window with
      found | ⟨stopped, ended, passed⟩
    · exact absurd (agree.mp found) missed
    · refine ⟨.serviceValidation (unreportedMessage (targetOf action) action), stopped, ?_,
        passed⟩
      rw [asyncSend_of_returns returns, ended]
      rfl

/-! ### A sample command -/

/-- The event of a door that locks itself again. -/
def relockEvent : Json :=
  .obj [("current", .int 1), ("source", .str "device"), ("timestamp", .null)]

def relockMessage : HomeKeyMessage := .document "HOME001" "GATE-001" .lockLast relockEvent true

/-- Half a second apart, for ten seconds. -/
def halfSeconds : List Nat := (List.range 20).map fun count => (count + 1) * commandConfirmPoll

/-- The door opens after a tenth of a second and locks itself three tenths later. -/
def momentaryUnlock : ConfirmationWindow where
  returned := 0
  moments :=
    .arrival (nanosPerSecond / 10) ⟨Observed.causeEnv, Coordinator.unlockMessage⟩ ::
      .arrival (4 * (nanosPerSecond / 10)) ⟨Observed.causeEnv, relockMessage⟩ ::
      halfSeconds.map .wake
  ordered := by decide
  spaced := by decide
  ends := by
    refine ⟨20 * commandConfirmPoll, by decide, ?_⟩
    exact List.mem_cons_of_mem _ (List.mem_cons_of_mem _ (List.mem_map_of_mem (by decide)))

/-- Without messages the state stays as it is. -/
theorem not_seen_of_wakes {target : LockState} {deadline : Nat} {coordinator : Coordinator}
    (elsewhere : isIn nodeId target coordinator = false) (times : List Nat) :
    ¬ Seen Coordinator.handle (isIn nodeId target) deadline coordinator (times.map .wake) := by
  induction times with
  | nil => exact not_seen_nil
  | cons time rest ih =>
      rw [List.map_cons, seen_wake_cons, elsewhere]
      rintro (holds | ⟨-, later⟩)
      · cases holds
      · exact ih later

theorem returns_sample (hmac : HmacSha256) :
    Returns hmac Entry.sampleEntry "GATE-001" "unlock" Entry.acceptingWorld := by
  have sent := Entry.asyncSendLockCommand_mqtt hmac "GATE-001" "unlock" Entry.acceptingWorld
    (rfl : Entry.sampleEntry.direct = none) (rfl : Entry.sampleEntry.commandKey = some [1])
    (rfl : Entry.sampleEntry.mqtt = some (.new "HOME001"))
  rw [Returns, sent]
  dsimp only
  rw [HomeKeyMqttClient.asyncPublishAuthenticatedCommand]
  rcases (HomeKeyMqttClient.new "HOME001").signCommand_cases hmac (List.cons_ne_nil 1 [])
    (if "unlock" = "lock" then Action.lock else .unlock) none
    Entry.acceptingWorld.publishing.clock Entry.acceptingWorld.publishing.entropy with
    ⟨-, stale⟩ | ⟨bytes, -, -, signed⟩
  · have drawn := stale (Vector.replicate _ 0x11) (by decide)
    cases drawn
  · rw [signed]
    exact ⟨_, rfl⟩

/-- The command itself changes nothing the entity looks at. -/
theorem atReturn_sample (hmac : HmacSha256) :
    atReturn hmac Entry.sampleEntry "GATE-001" "unlock" Entry.acceptingWorld [] =
      .new "HOME001" := by
  have sent := Entry.asyncSendLockCommand_mqtt hmac "GATE-001" "unlock" Entry.acceptingWorld
    (rfl : Entry.sampleEntry.direct = none) (rfl : Entry.sampleEntry.commandKey = some [1])
    (rfl : Entry.sampleEntry.mqtt = some (.new "HOME001"))
  rw [atReturn, sent, run_nil]
  rfl

theorem isIn_toldUnlocked : isIn "GATE-001" .unlocked Coordinator.toldUnlocked = true := by
  rw [isIn, Coordinator.getNode_toldUnlocked]
  rfl

/-- The door is seen locked after the second event. -/
theorem isIn_relocked :
    isIn "GATE-001" .unlocked
      (Coordinator.handle Coordinator.toldUnlocked ⟨Observed.causeEnv, relockMessage⟩) =
      false := by
  have home : relockMessage.householdId = Coordinator.toldUnlocked.householdId := by
    rw [Coordinator.toldUnlocked, Coordinator.householdId_asyncHandleMessage]
    rfl
  have parsed : LockChange.fromDict relockEvent Coordinator.toldUnlocked.householdId "GATE-001" =
      .ok ⟨1, .device, none, none⟩ := by
    rw [← home]
    rfl
  have relocked := Coordinator.getNode_lockLast Observed.causeEnv home
    (Coordinator.namedNode_eq_some rfl (by decide)) rfl (Json.loads_dumps relockEvent)
    Coordinator.getNode_toldUnlocked parsed
  rw [isIn, Coordinator.handle, relocked]
  dsimp only
  rw [Node.lockState_withEvent]
  rfl

/-- A door that opens and locks itself again between two looks was open, and the command
that opened it is refused. -/
theorem momentaryUnlock_unconfirmed :
    ¬ ConfirmsReached (fun _ text => text) Entry.sampleEntry "GATE-001" "unlock"
        Entry.acceptingWorld [] momentaryUnlock := by
  intro promise
  have returns := returns_sample fun _ text => text
  have looks := (confirmed_iff_reached_iff returns).mp (promise.confirmed returns)
  have reached : Reached (fun _ text => text) Entry.sampleEntry "GATE-001" "unlock"
      Entry.acceptingWorld [] momentaryUnlock := by
    refine ⟨momentaryUnlock.looks.take 2, momentaryUnlock.looks.drop 2,
      (List.take_append_drop 2 _).symm, by decide, ?_⟩
    rw [atReturn_sample]
    exact isIn_toldUnlocked
  have seen := looks.1 reached
  rw [Sampled, atReturn_sample] at seen
  change Seen _ _ _ _ (.wake 0 :: .arrival _ _ :: .arrival _ _ :: halfSeconds.map .wake) at seen
  rw [seen_wake_cons, seen_arrival_cons, seen_arrival_cons] at seen
  rcases seen with holds | ⟨-, later⟩
  · cases holds
  · exact not_seen_of_wakes isIn_relocked halfSeconds later

end HomeKeyLock

end HomeKeyHousehold
