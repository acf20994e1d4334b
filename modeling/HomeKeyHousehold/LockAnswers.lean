import HomeKeyHousehold.Availability
import HomeKeyHousehold.Confirmation
import HomeKeyHousehold.NodeEmulator

/-!
# What answers a lock command

The state of a lock is the one it was last told of, by a snapshot or by an event, and a
lock command is answered by what is told of its lock alone: nothing else that arrives
while the call waits changes how it ends, or when.
-/

namespace HomeKeyHousehold

open Library

/-! ## The state that was told last -/

/-- The state a lock is in by what is kept of its reports. -/
def lockStateOfView (view : LockView) : LockState :=
  match view.fresh, view.event with
  | true, some cause => lockStateMap cause.current
  | _, _ => (view.reading.map lockStateMap).getD .unknown

/-- The state a report says the lock is in. -/
def saidState : LockReport → LockState
  | .snapshot reading => (reading.map lockStateMap).getD .unknown
  | .event cause _ => lockStateMap cause.current

/-- Whichever report comes last is believed. -/
theorem lockStateOfView_next (view : LockView) (report : LockReport) :
    lockStateOfView (view.next eventValue isReportable report) = saidState report := by
  cases report with
  | snapshot reading => rfl
  | event cause timely => rfl

theorem Node.lockStateOfView_lockView (node : Node) :
    lockStateOfView node.lockView = node.lockState := by
  rw [lockStateOfView, lockView, lockState, lockChangeKey]
  cases node.lockChangeIsFresh with
  | false => cases node.health <;> rfl
  | true =>
      cases node.lockChange with
      | some change => rfl
      | none => cases node.health <;> rfl

/-- What a delivery says of the lock of a node. -/
def Delivery.said (householdId nodeId : String) (delivery : Delivery) : Option LockState :=
  (reportsOf nodeId
    (Coordinator.lockReport delivery.env householdId delivery.message).toList).head?.map saidState

namespace Coordinator

/-- The state of the lock of a node, unknown while the node is. -/
def lockStateOf (coordinator : Coordinator) (nodeId : String) : LockState :=
  ((coordinator.getNode nodeId).map Node.lockState).getD .unknown

variable {nodeId : String}

theorem lockStateOfView_lockView (coordinator : Coordinator) (nodeId : String) :
    lockStateOfView (coordinator.lockView nodeId) = coordinator.lockStateOf nodeId := by
  rw [lockView, lockStateOf]
  cases coordinator.getNode nodeId with
  | none => rfl
  | some node => exact node.lockStateOfView_lockView

/-- A message tells what its report says, or leaves the lock as it was. -/
theorem lockStateOf_handle (coordinator : Coordinator) (delivery : Delivery) (nodeId : String) :
    (coordinator.handle delivery).lockStateOf nodeId =
      (delivery.said coordinator.householdId nodeId).getD (coordinator.lockStateOf nodeId) := by
  have effect := effect_asyncHandleMessage delivery.env coordinator delivery.message
  rw [Delivery.said, handle, ← lockStateOfView_lockView, ← lockStateOfView_lockView]
  cases made : lockReport delivery.env coordinator.householdId delivery.message with
  | none =>
      rw [made] at effect
      rw [SameView.view effect nodeId]
      rfl
  | some entry =>
      obtain ⟨named, report⟩ := entry
      rw [made] at effect
      have reported : Reported delivery.env coordinator _ named report := effect
      rw [Option.toList_some]
      by_cases here : nodeId = named
      · subst here
        rw [reported.view, lockStateOfView_next, reportsOf_singleton_self]
        rfl
      · rw [reported.others nodeId here, reportsOf_singleton_of_ne report here]
        rfl

theorem householdId_handle (coordinator : Coordinator) (delivery : Delivery) :
    (coordinator.handle delivery).householdId = coordinator.householdId :=
  householdId_asyncHandleMessage delivery.env coordinator delivery.message

/-- After any deliveries the lock is in the state the last report of it said. -/
theorem lockStateOf_run (coordinator : Coordinator) (nodeId : String)
    (deliveries : List Delivery) :
    (run handle coordinator deliveries).lockStateOf nodeId =
      (deliveries.filterMap (Delivery.said coordinator.householdId nodeId)).getLast?.getD
        (coordinator.lockStateOf nodeId) := by
  induction deliveries generalizing coordinator with
  | nil => rfl
  | cons delivery rest ih =>
      rw [run_cons, ih, householdId_handle, lockStateOf_handle, List.filterMap_cons]
      cases delivery.said coordinator.householdId nodeId with
      | none => rfl
      | some word => rw [List.getLast?_cons, Option.getD_some, Option.getD_some]

end Coordinator

/-- Sending a command leaves the coordinator with its household. -/
theorem Entry.householdId_asyncSendLockCommand (hmac : HmacSha256) (entry : Entry)
    (nodeId action : String) (world : CommandWorld) :
    (entry.asyncSendLockCommand hmac nodeId action world).entry.coordinator.householdId =
      entry.coordinator.householdId := by
  rw [asyncSendLockCommand]
  cases entry.direct with
  | none =>
      cases entry.commandKey with
      | none => rfl
      | some key => cases entry.mqtt <;> rfl
  | some poller =>
      dsimp only
      rw [DirectPoller.asyncSendDirectCommand]
      cases Action.ofString? action with
      | none => rfl
      | some act =>
          dsimp only
          rw [DirectPoller.refreshed]
          cases (poller.client.asyncLock action world.reply).result with
          | error raised => rfl
          | ok value => exact poller.asyncPollOnce_coordinator_householdId _ _

/-! ## The answer -/

namespace HomeKeyLock

section

variable (hmac : HmacSha256) (entry : Entry) (nodeId action : String) (world : CommandWorld)
variable (suspended : List Delivery) (window : ConfirmationWindow)

/-- How a call ends that waited for its lock. -/
def answer (action : String) (waited : Waited Nat) : CommandCall :=
  if waited.found then ⟨none, waited.time⟩
  else ⟨some (.serviceValidation (unreportedMessage (targetOf action) action)), waited.time⟩

/-- The state of the lock when the command has been sent. -/
def stateSent : LockState :=
  (entry.asyncSendLockCommand hmac nodeId action world).entry.coordinator.lockStateOf nodeId

/-- The state some deliveries told last, or the one before them. -/
def stateTold (deliveries : List Delivery) (before : LockState) : LockState :=
  (deliveries.filterMap (Delivery.said entry.coordinator.householdId nodeId)).getLast?.getD before

/-- What is told of the lock after the call has returned, and the looks at it. -/
def toldLooks : List (Moment LockState Nat) :=
  window.looks.filterMap (Moment.told (Delivery.said entry.coordinator.householdId nodeId))

end

variable {hmac : HmacSha256} {entry : Entry} {nodeId action : String} {world : CommandWorld}
variable {suspended : List Delivery} {window : ConfirmationWindow}

/-- A lock that is looked for in a known state is looked for in the state it is shown in. -/
theorem isIn_targetOf (nodeId action : String) (coordinator : Coordinator) :
    isIn nodeId (targetOf action) coordinator =
      decide (coordinator.lockStateOf nodeId = targetOf action) := by
  have known : LockState.unknown ≠ targetOf action := by
    rw [targetOf]
    split
    · decide
    · decide
  rw [isIn, Coordinator.lockStateOf]
  cases coordinator.getNode nodeId with
  | none => exact (decide_eq_false known).symm
  | some node => rfl

theorem householdId_atReturn :
    (atReturn hmac entry nodeId action world suspended).householdId =
      entry.coordinator.householdId := by
  have keeps : ∀ (coordinator : Coordinator) (delivery : Delivery),
      coordinator.householdId = entry.coordinator.householdId →
        (coordinator.handle delivery).householdId = entry.coordinator.householdId :=
    fun coordinator delivery same => (coordinator.householdId_handle delivery).trans same
  exact run_keeps keeps (entry.householdId_asyncSendLockCommand hmac nodeId action world) suspended

/-- The state of the lock after what came during the call and some of what came after it. -/
theorem lockStateOf_run_atReturn (deliveries : List Delivery) :
    (run Coordinator.handle (atReturn hmac entry nodeId action world suspended)
        deliveries).lockStateOf nodeId =
      stateTold entry nodeId (suspended ++ deliveries)
        (stateSent hmac entry nodeId action world) := by
  rw [atReturn, ← run_append, Coordinator.lockStateOf_run,
    entry.householdId_asyncSendLockCommand, stateTold, stateSent]

/-- A call whose command was sent ends as if it had waited for a lock that is in the state
it is told of, and that hears nothing else. -/
theorem asyncSend_eq_told (returns : Returns hmac entry nodeId action world) :
    asyncSend hmac entry nodeId action world suspended window =
      (poll (fun _ said => said) (fun state => decide (state = targetOf action)) window.deadline
        (stateTold entry nodeId suspended (stateSent hmac entry nodeId action world))
        (toldLooks entry nodeId window)).map (answer action) := by
  have start := @lockStateOf_run_atReturn hmac entry nodeId action world suspended []
  rw [run_nil, List.append_nil] at start
  have follows : ∀ (coordinator : Coordinator) (delivery : Delivery),
      coordinator.householdId = entry.coordinator.householdId →
        (coordinator.handle delivery).lockStateOf nodeId =
          (delivery.said entry.coordinator.householdId nodeId).elim
            (coordinator.lockStateOf nodeId) id := by
    intro coordinator delivery home
    rw [coordinator.lockStateOf_handle, home]
    cases delivery.said entry.coordinator.householdId nodeId <;> rfl
  rw [asyncSend_of_returns returns, asyncWaitForState, toldLooks, ← start]
  refine congrArg (Option.map (answer action)) ?_
  exact @poll_simulated _ _ _ _ Coordinator.handle _ window.deadline _ window.looks _ _ _
    (fun _ said => said) (Coordinator.lockStateOf · nodeId) _ _
    (fun coordinator delivery home => (coordinator.householdId_handle delivery).trans home)
    follows (fun coordinator _ => isIn_targetOf nodeId action coordinator) householdId_atReturn

/-- It is confirmed exactly when there is a look, none before it past the deadline, at which
the lock is in the target state by what it was told last. -/
theorem confirmed_iff_told (returns : Returns hmac entry nodeId action world) :
    (∃ time, asyncSend hmac entry nodeId action world suspended window = some ⟨none, time⟩) ↔
      ∃ before time after, window.looks = before ++ .wake time :: after ∧
        Waiting window.deadline before ∧
        stateTold entry nodeId (suspended ++ arrivals before)
          (stateSent hmac entry nodeId action world) = targetOf action := by
  rw [asyncSend_confirmed_iff returns, asyncWaitForState, poll_found_iff, Seen]
  have sees : ∀ before : List (Moment Delivery Nat),
      isIn nodeId (targetOf action) (run (Moment.apply Coordinator.handle)
        (atReturn hmac entry nodeId action world suspended) before) = true ↔
      stateTold entry nodeId (suspended ++ arrivals before)
        (stateSent hmac entry nodeId action world) = targetOf action := by
    intro before
    rw [run_apply, isIn_targetOf, lockStateOf_run_atReturn, decide_eq_true_iff]
  constructor
  · rintro ⟨before, -, after, split, waiting, ⟨time, rfl⟩, holds⟩
    exact ⟨before, time, after, split, waiting, (sees before).mp holds⟩
  · rintro ⟨before, time, after, split, waiting, holds⟩
    exact ⟨before, .wake time, after, split, waiting, ⟨time, rfl⟩, (sees before).mpr holds⟩

/-! ## A node that obeys, and one that does not -/

/-- The message a documented snapshot arrives as. -/
def healthMessage (node : EmulatedNode) (lockCurrent : Int) : HomeKeyMessage :=
  .published node.householdId node.nodeId .health (node.publishHealth lockCurrent)

/-- The snapshot of a documented node is handed on. -/
theorem onMessage_publishHealth (node : EmulatedNode)
    (household : isValidId node.householdId = true) (named : isValidId node.nodeId = true)
    (client : HomeKeyMqttClient) (lockCurrent : Int) :
    client.onMessage (node.publishHealth lockCurrent) = some (healthMessage node lockCurrent) := by
  have topical : HouseholdTopic (node.publishHealth lockCurrent).topic node.householdId
      node.nodeId .health := by
    rw [EmulatedNode.publishHealth, node.topicOf_eq]
    have known : Subtopic.health ≠ .legacyStatus := by decide
    exact householdTopic_nodeTopic household named known
  exact topical.onMessage client

/-- It says the state of its lock. -/
theorem said_healthMessage (node : EmulatedNode) (named : isValidId node.nodeId = true)
    (lockCurrent : Int) (env : Env) :
    Delivery.said node.householdId node.nodeId ⟨env, healthMessage node lockCurrent⟩ =
      some (lockStateMap lockCurrent) := by
  have identified : Coordinator.namedNode (healthMessage node lockCurrent) = some node.nodeId :=
    Coordinator.namedNode_eq_some rfl (ne_empty_of_isValidId named)
  have decoded : Json.loads (healthMessage node lockCurrent).payload =
      some (.obj (HealthFields.document { lockCurrent })) := Json.loads_dumpsCompact _
  have connected : "OK" ≠ "" := by decide
  have made : Coordinator.lockReport env node.householdId (healthMessage node lockCurrent) =
      some (node.nodeId, .snapshot (some lockCurrent)) := by
    rw [Coordinator.lockReport, identified, decoded, healthMessage, HomeKeyMessage.published,
      if_pos rfl, Subtopic.ofString?_spelling]
    dsimp only
    rw [Coordinator.documentReport, fromDict_health _ connected]
    rfl
  rw [Delivery.said, made, Option.toList_some, reportsOf_singleton_self]
  rfl

/-- A message that is neither a snapshot nor an event says nothing of the lock. -/
theorem said_of_apart {message : HomeKeyMessage} {subtopic : Subtopic}
    (spelled : Subtopic.ofString? message.subtopic = some subtopic)
    (snapshot : subtopic ≠ .health) (event : subtopic ≠ .lockLast)
    (householdId nodeId : String) (env : Env) :
    Delivery.said householdId nodeId ⟨env, message⟩ = none := by
  have unreported : Coordinator.lockReport env householdId message = none := by
    rw [Coordinator.lockReport, spelled]
    split
    · split
      · next known _ payload same _ _ =>
          cases same
          cases subtopic <;> first | rfl | contradiction
      · rfl
    · rfl
  rw [Delivery.said, unreported]
  rfl

/-- A node that carries a command out: its snapshot shows the target before the deadline,
and nothing else is told of its lock until the next look. -/
structure Obeyed (entry : Entry) (nodeId action : String) (window : ConfirmationWindow) where
  node : EmulatedNode
  home : node.householdId = entry.coordinator.householdId
  named : node.nodeId = nodeId
  valid : isValidId node.householdId = true ∧ isValidId node.nodeId = true
  lockCurrent : Int
  target : lockStateMap lockCurrent = targetOf action
  client : HomeKeyMqttClient
  message : HomeKeyMessage
  handed : client.onMessage (node.publishHealth lockCurrent) = some message
  env : Env
  time : Nat
  look : Nat
  before : List (Moment Delivery Nat)
  quiet : List (Moment Delivery Nat)
  after : List (Moment Delivery Nat)
  looks : window.looks = before ++ .arrival time ⟨env, message⟩ :: (quiet ++ .wake look :: after)
  waiting : Waiting window.deadline (before ++ .arrival time ⟨env, message⟩ :: quiet)
  untold : ∀ delivery ∈ arrivals quiet, delivery.said node.householdId node.nodeId = none

namespace Obeyed

/-- The message it is told by. -/
def delivery (obeyed : Obeyed entry nodeId action window) : Delivery :=
  ⟨obeyed.env, obeyed.message⟩

/-- At the look the target is what was told last. -/
theorem stateTold_look (obeyed : Obeyed entry nodeId action window) (sent : LockState) :
    stateTold entry nodeId
        (suspended ++ arrivals (obeyed.before ++ .arrival obeyed.time obeyed.delivery ::
          obeyed.quiet)) sent = targetOf action := by
  have handed := onMessage_publishHealth obeyed.node obeyed.valid.1 obeyed.valid.2 obeyed.client
    obeyed.lockCurrent
  have message : obeyed.message = healthMessage obeyed.node obeyed.lockCurrent :=
    Option.some.inj (obeyed.handed.symm.trans handed)
  have own : Delivery.said entry.coordinator.householdId nodeId =
      Delivery.said obeyed.node.householdId obeyed.node.nodeId := by
    rw [obeyed.home, obeyed.named]
  have silent : (arrivals obeyed.quiet).filterMap
      (Delivery.said entry.coordinator.householdId nodeId) = [] := by
    rw [own]
    exact List.filterMap_eq_nil_iff.mpr obeyed.untold
  have told : obeyed.delivery.said entry.coordinator.householdId nodeId =
      some (targetOf action) := by
    rw [own, ← obeyed.target, delivery, message]
    exact said_healthMessage obeyed.node obeyed.valid.2 obeyed.lockCurrent obeyed.env
  rw [stateTold, arrivals_append, arrivals_cons_arrival, List.filterMap_append,
    List.filterMap_append, List.filterMap_cons_some told, silent]
  simp

end Obeyed

/-- Without a word of the target the lock is not in it. -/
theorem stateTold_ne {deliveries : List Delivery} {sent target : LockState}
    (elsewhere : sent ≠ target)
    (untold : ∀ delivery ∈ deliveries,
      delivery.said entry.coordinator.householdId nodeId ≠ some target) :
    stateTold entry nodeId deliveries sent ≠ target := by
  rw [stateTold]
  cases last : (deliveries.filterMap
      (Delivery.said entry.coordinator.householdId nodeId)).getLast? with
  | none => exact elsewhere
  | some word =>
      obtain ⟨delivery, member, said⟩ :=
        List.mem_filterMap.mp (List.mem_of_getLast? last)
      rintro (rfl : word = target)
      exact untold delivery member said

/-- The call of a command that its node carries out is confirmed, by the look after the
node's snapshot at the latest; and the call of a command whose target no report says is
refused, once the deadline has passed, unless the lock was there already. -/
theorem answered_as_obeyed (returns : Returns hmac entry nodeId action world) :
    (∀ obeyed : Obeyed entry nodeId action window, ∃ time ≤ obeyed.look,
        asyncSend hmac entry nodeId action world suspended window = some ⟨none, time⟩) ∧
      (stateSent hmac entry nodeId action world ≠ targetOf action →
        (∀ delivery ∈ suspended ++ arrivals window.looks,
          delivery.said entry.coordinator.householdId nodeId ≠ some (targetOf action)) →
        ∃ time, window.deadline ≤ time ∧
          asyncSend hmac entry nodeId action world suspended window =
            some ⟨some (.serviceValidation (unreportedMessage (targetOf action) action)),
              time⟩) := by
  rw [asyncSend_of_returns returns]
  constructor
  · intro obeyed
    have split := obeyed.looks
    rw [← List.cons_append, ← List.append_assoc] at split
    have holds := @lockStateOf_run_atReturn hmac entry nodeId action world suspended
      (arrivals (obeyed.before ++ .arrival obeyed.time obeyed.delivery :: obeyed.quiet))
    rw [obeyed.stateTold_look, ← run_apply] at holds
    obtain ⟨first, found, place⟩ := @exists_poll_found _ _ _ _ Coordinator.handle
      (isIn nodeId (targetOf action)) _ _ _ _ _ _ split obeyed.waiting
      ((isIn_targetOf nodeId action _).trans (decide_eq_true holds))
    refine ⟨first, ?_, ?_⟩
    · rcases place with rfl | earlier
      · exact le_refl _
      · have ordered : window.looks.Pairwise fun earlier later => earlier.time ≤ later.time :=
          window.ordered
        rw [split, List.pairwise_append] at ordered
        exact ordered.2.2 _ earlier _ List.mem_cons_self
    · rw [asyncWaitForState, found]
      rfl
  · intro elsewhere untold
    rcases asyncWaitForState_cases nodeId (targetOf action)
      (atReturn hmac entry nodeId action world suspended) window with
      found | ⟨stopped, ended, passed⟩
    · have confirmed := (asyncSend_confirmed_iff returns).mpr found
      obtain ⟨before, time, after, split, -, told⟩ := (confirmed_iff_told returns).mp confirmed
      refine absurd told (stateTold_ne elsewhere fun delivery member => untold delivery ?_)
      rw [split, arrivals_append, ← List.append_assoc]
      exact List.mem_append_left _ member
    · exact ⟨stopped, passed, by rw [ended]; rfl⟩

/-! ### A door that opens, and one that stays locked -/

/-- The door of the sample entry. -/
def sampleDoor : EmulatedNode :=
  { householdId := "HOME001", nodeId := "GATE-001", nodeName := "Gate" }

def onlineMessage : HomeKeyMessage :=
  { householdId := "HOME001", nodeId := "GATE-001", subtopic := Subtopic.status.spelling
    payload := "online", retain := true }

/-- Two messages arrive before the looks. -/
theorem ordered_reports {first second : Nat} (told later : Delivery)
    (times : (0 :: first :: second :: halfSeconds).Pairwise (· ≤ ·)) :
    (Moment.wake 0 :: .arrival first told :: .arrival second later ::
      halfSeconds.map .wake).Pairwise fun earlier later => earlier.time ≤ later.time := by
  have same : (halfSeconds.map Moment.wake).map (Moment.time : Moment Delivery Nat → Nat) =
      halfSeconds := by
    rw [List.map_map]
    exact List.map_id _
  refine (List.pairwise_map (R := (· ≤ ·)) (f := Moment.time)).mp ?_
  rw [List.map_cons, List.map_cons, List.map_cons, same]
  exact times

/-- The door reports its lock after a tenth of a second, and its status another tenth
later. -/
def reportedWindow (lockCurrent : Int) : ConfirmationWindow where
  returned := 0
  moments :=
    .arrival (nanosPerSecond / 10) ⟨Observed.causeEnv, healthMessage sampleDoor lockCurrent⟩ ::
      .arrival (2 * (nanosPerSecond / 10)) ⟨Observed.causeEnv, onlineMessage⟩ ::
      halfSeconds.map .wake
  ordered := ordered_reports _ _ (by decide)
  spaced := by
    have times : (0 :: halfSeconds).IsChain fun earlier later =>
        earlier + commandConfirmPoll ≤ later := by decide
    exact times
  ends := by
    refine ⟨20 * commandConfirmPoll, by decide, ?_⟩
    exact List.mem_cons_of_mem _ (List.mem_cons_of_mem _ (List.mem_map_of_mem (by decide)))

theorem isValidId_sampleDoor :
    isValidId sampleDoor.householdId = true ∧ isValidId sampleDoor.nodeId = true := by decide

theorem said_onlineMessage :
    Delivery.said "HOME001" "GATE-001" ⟨Observed.causeEnv, onlineMessage⟩ = none :=
  said_of_apart (Subtopic.ofString?_spelling .status) (by decide) (by decide) _ _ _

def obeyedUnlock : Obeyed Entry.sampleEntry "GATE-001" "unlock" (reportedWindow 0) where
  node := sampleDoor
  home := rfl
  named := rfl
  valid := isValidId_sampleDoor
  lockCurrent := 0
  target := rfl
  client := .new "HOME001"
  message := healthMessage sampleDoor 0
  handed := onMessage_publishHealth sampleDoor isValidId_sampleDoor.1 isValidId_sampleDoor.2 _ 0
  env := Observed.causeEnv
  time := nanosPerSecond / 10
  look := commandConfirmPoll
  before := [.wake 0]
  quiet := [.arrival (2 * (nanosPerSecond / 10)) ⟨Observed.causeEnv, onlineMessage⟩]
  after := halfSeconds.tail.map .wake
  looks := rfl
  waiting := by
    intro time member
    simp only [List.cons_append, List.nil_append, List.mem_cons, reduceCtorEq, List.not_mem_nil,
      or_false, Moment.wake.injEq] at member
    subst member
    decide
  untold := by
    intro delivery member
    rw [arrivals_cons_arrival, List.mem_cons] at member
    rcases member with rfl | none
    · exact said_onlineMessage
    · cases none

theorem stateSent_sample :
    stateSent (fun _ text => text) Entry.sampleEntry "GATE-001" "unlock" Entry.acceptingWorld =
      .unknown := by
  have sent := atReturn_sample fun _ text => text
  rw [atReturn, run_nil] at sent
  rw [stateSent, sent]
  rfl

/-- The same command is confirmed at the first look after the door has opened, and refused
when the door reports that it is locked. -/
theorem sampleUnlock_answered :
    (∃ time ≤ commandConfirmPoll,
        asyncSend (fun _ text => text) Entry.sampleEntry "GATE-001" "unlock"
          Entry.acceptingWorld [] (reportedWindow 0) = some ⟨none, time⟩) ∧
      ∃ time, 10 * nanosPerSecond ≤ time ∧
        asyncSend (fun _ text => text) Entry.sampleEntry "GATE-001" "unlock"
          Entry.acceptingWorld [] (reportedWindow 1) =
            some ⟨some (.serviceValidation (unreportedMessage .unlocked "unlock")), time⟩ := by
  constructor
  · exact (answered_as_obeyed (returns_sample fun _ text => text)).1 obeyedUnlock
  · refine (@answered_as_obeyed _ _ _ _ _ [] (reportedWindow 1)
      (returns_sample fun _ text => text)).2 ?_ ?_
    · rw [stateSent_sample]
      decide
    · have arrived : [] ++ arrivals (reportedWindow 1).looks =
          [⟨Observed.causeEnv, healthMessage sampleDoor 1⟩,
            ⟨Observed.causeEnv, onlineMessage⟩] := rfl
      have locked := said_healthMessage sampleDoor isValidId_sampleDoor.2 1 Observed.causeEnv
      intro delivery member told
      rw [arrived, List.mem_cons, List.mem_singleton] at member
      rcases member with rfl | rfl
      · cases locked.symm.trans told
      · cases said_onlineMessage.symm.trans told

end HomeKeyLock

end HomeKeyHousehold
