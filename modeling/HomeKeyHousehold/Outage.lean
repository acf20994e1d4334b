import HomeKeyHousehold.Availability
import HomeKeyHousehold.Library.Run
import HomeKeyHousehold.Replacement

/-!
# Outages of a direct entry

Scheduled polls count their failures, and the poll that refreshes the node after a
command does not.  A node is marked offline when the count is met, which is never
skipped while polls do not overlap.
-/

namespace HomeKeyHousehold

open Library

/-! ## The polls of an entry -/

namespace DirectEvent

/-- The poll an event makes: a command is followed by one when it is delivered. -/
def poll (poller : DirectPoller) : DirectEvent → Option PollWorld
  | .tick world => some world
  | .lock _ action reply refresh =>
      match Action.ofString? action with
      | none => none
      | some _ =>
          match (poller.client.asyncLock action reply).result with
          | .ok _ => some refresh
          | .error _ => none
  | .guest _ command reply refresh =>
      match (poller.postGuest command reply).result with
      | .ok _ => some refresh
      | .error _ => none

/-- The poll of an event is ingested. -/
def succeeds (poller : DirectPoller) (event : DirectEvent) : Bool :=
  (event.poll poller).any fun world => (poller.reports world).isSome

/-- A scheduled poll that is not ingested. -/
def failsScheduled (poller : DirectPoller) : DirectEvent → Bool
  | .tick world => (poller.reports world).isNone
  | .lock .. => false
  | .guest .. => false

/-- The poll of an event reports one node, or fails with an error of the direct
transport before it is answered. -/
def WellBehaved (poller : DirectPoller) (nodeId : String) (event : DirectEvent) : Prop :=
  ∀ world, event.poll poller = some world →
    poller.reports world = some nodeId ∨
      ∃ error message, poller.identify world = .error (.direct error message)

end DirectEvent

/-- How many scheduled polls have failed since the last poll that succeeded. -/
def failedSinceSuccess (poller : DirectPoller) (events : List DirectEvent) : Nat :=
  (events.reverse.takeWhile fun event => !event.succeeds poller).countP
    (DirectEvent.failsScheduled poller)

/-- Some poll has succeeded. -/
def hasSucceeded (poller : DirectPoller) (events : List DirectEvent) : Bool :=
  events.any (DirectEvent.succeeds poller)

section

variable {poller : DirectPoller} {events : List DirectEvent} {event : DirectEvent}

theorem hasSucceeded_append : hasSucceeded poller (events ++ [event]) =
    (hasSucceeded poller events || event.succeeds poller) := by
  simp [hasSucceeded]

theorem failedSinceSuccess_append_of_succeeds (success : event.succeeds poller = true) :
    failedSinceSuccess poller (events ++ [event]) = 0 := by
  simp [failedSinceSuccess, success]

theorem failedSinceSuccess_append_of_not_succeeds (failure : event.succeeds poller = false) :
    failedSinceSuccess poller (events ++ [event]) =
      failedSinceSuccess poller events + (if event.failsScheduled poller then 1 else 0) := by
  simp [failedSinceSuccess, failure, List.countP_cons]

end

/-! ## One event -/

namespace DirectEntry

variable {entry : DirectEntry} {event : DirectEvent} {world : PollWorld}

/-- A command without a poll leaves the registry and the poller alone. -/
theorem step_of_no_poll (unpolled : event.poll entry.poller = none) :
    (entry.step event).coordinator = entry.coordinator ∧
      (entry.step event).poller = entry.poller := by
  cases event with
  | tick world => cases unpolled
  | lock target action reply refresh =>
      rw [DirectEvent.poll] at unpolled
      rw [step, DirectPoller.asyncSendDirectCommand, DirectPoller.refreshed]
      cases supported : Action.ofString? action with
      | none => exact ⟨rfl, rfl⟩
      | some act =>
          rw [supported] at unpolled
          dsimp only at unpolled ⊢
          cases answered : (entry.poller.client.asyncLock action reply).result with
          | error raised => exact ⟨rfl, rfl⟩
          | ok value =>
              rw [answered] at unpolled
              cases unpolled
  | guest target command reply refresh =>
      rw [DirectEvent.poll] at unpolled
      rw [step, DirectPoller.asyncGuestCommand, DirectPoller.refreshed]
      cases answered : (entry.poller.postGuest command reply).result with
      | error raised => exact ⟨rfl, rfl⟩
      | ok value =>
          rw [answered] at unpolled
          cases unpolled

/-- A command that is delivered is followed by one poll. -/
theorem step_of_refresh (unscheduled : ∀ world, event ≠ .tick world)
    (polled : event.poll entry.poller = some world) :
    (entry.step event).coordinator = (entry.poller.asyncPollOnce entry.coordinator world).coordinator ∧
      (entry.step event).poller = (entry.poller.asyncPollOnce entry.coordinator world).poller := by
  cases event with
  | tick world => exact absurd rfl (unscheduled world)
  | lock target action reply refresh =>
      rw [DirectEvent.poll] at polled
      rw [step, DirectPoller.asyncSendDirectCommand, DirectPoller.refreshed]
      cases supported : Action.ofString? action with
      | none =>
          rw [supported] at polled
          cases polled
      | some act =>
          rw [supported] at polled
          dsimp only at polled ⊢
          cases answered : (entry.poller.client.asyncLock action reply).result with
          | error raised =>
              rw [answered] at polled
              cases polled
          | ok value =>
              rw [answered] at polled
              cases polled
              exact ⟨rfl, rfl⟩
  | guest target command reply refresh =>
      rw [DirectEvent.poll] at polled
      rw [step, DirectPoller.asyncGuestCommand, DirectPoller.refreshed]
      cases answered : (entry.poller.postGuest command reply).result with
      | error raised =>
          rw [answered] at polled
          cases polled
      | ok value =>
          rw [answered] at polled
          cases polled
          exact ⟨rfl, rfl⟩

/-- A poll that is ingested shows the node, whoever asked for it. -/
theorem step_of_success {nodeId : String} (polled : event.poll entry.poller = some world)
    (reported : entry.poller.reports world = some nodeId) :
    (entry.step event).coordinator =
        (entry.poller.asyncPollOnce entry.coordinator world).coordinator ∧
      (entry.step event).poller = { entry.poller with nodeId := some nodeId, failures := 0 } := by
  by_cases scheduled : ∀ world, event ≠ .tick world
  · obtain ⟨registered, after⟩ := step_of_refresh scheduled polled
    obtain ⟨messages, -, once⟩ := entry.poller.asyncPollOnce_of_reports entry.coordinator reported
    refine ⟨registered, ?_⟩
    rw [after, once]
  · push Not at scheduled
    obtain ⟨tried, rfl⟩ := scheduled
    cases polled
    rw [step_tick reported]
    exact ⟨rfl, rfl⟩

/-! ## The invariant -/

/-- What an entry knows of its node, after polls of which one may have succeeded
and some scheduled ones have failed since. -/
structure Knows (client : DirectClient) (householdId nodeId : String) (succeeded : Bool)
    (failed : Nat) (entry : DirectEntry) : Prop where
  client : entry.poller.client = client
  home : entry.poller.householdId = householdId
  registry : entry.coordinator.householdId = householdId
  named : succeeded = true → nodeId ≠ ""
  identified : entry.poller.nodeId = if succeeded then some nodeId else none
  counted : succeeded = true → entry.poller.failures = failed
  online : entry.coordinator.onlineOf nodeId =
    if succeeded then some (decide (failed < directOfflineAfterFailures)) else none

variable {client : DirectClient} {householdId nodeId : String} {succeeded : Bool} {failed : Nat}

theorem knows_new (client : DirectClient) (householdId nodeId : String) :
    Knows client householdId nodeId false 0 (.new client householdId) where
  client := rfl
  home := rfl
  registry := rfl
  named := fun succeeded => by cases succeeded
  identified := rfl
  counted := fun succeeded => by cases succeeded
  online := rfl

/-- The poller of an entry reads replies as the one it was made with. -/
theorem Knows.reports (knows : Knows client householdId nodeId succeeded failed entry) :
    entry.poller.reports = (DirectPoller.new client householdId).reports := by
  funext world
  rw [DirectPoller.reports_eq, DirectPoller.reports_eq]
  unfold DirectPoller.identify
  rw [knows.client, knows.home]
  rfl

theorem Knows.identify (knows : Knows client householdId nodeId succeeded failed entry) :
    entry.poller.identify = (DirectPoller.new client householdId).identify := by
  funext world
  unfold DirectPoller.identify
  rw [knows.client]
  rfl

theorem Knows.poll (knows : Knows client householdId nodeId succeeded failed entry) :
    event.poll entry.poller = event.poll (DirectPoller.new client householdId) := by
  have posted (command : GuestCommand) (reply : Reply) :
      entry.poller.postGuest command reply =
        (DirectPoller.new client householdId).postGuest command reply := by
    unfold DirectPoller.postGuest
    rw [knows.client]
    rfl
  unfold DirectEvent.poll
  simp only [posted, knows.client]
  rfl

/-- A poll that succeeds shows the node, and starts the count anew. -/
theorem Knows.of_success (knows : Knows client householdId nodeId succeeded failed entry)
    {after : DirectEntry} {coordinator : Coordinator}
    (filled : nodeId ≠ "") (registered : after.coordinator = coordinator)
    (polled : after.poller = { entry.poller with nodeId := some nodeId, failures := 0 })
    (home : coordinator.householdId = entry.coordinator.householdId)
    (online : coordinator.onlineOf nodeId = some true) :
    Knows client householdId nodeId true 0 after where
  client := by
    rw [polled]
    exact knows.client
  home := by
    rw [polled]
    exact knows.home
  registry := by
    rw [registered, home]
    exact knows.registry
  named := fun _ => filled
  identified := by
    rw [polled]
    rfl
  counted := by
    rw [polled]
    intro _
    rfl
  online := by
    rw [registered, online]
    rfl

/-- What leaves the registry and the poller alone changes nothing. -/
theorem Knows.of_same (knows : Knows client householdId nodeId succeeded failed entry)
    {after : DirectEntry} (registered : after.coordinator = entry.coordinator)
    (polled : after.poller = entry.poller) :
    Knows client householdId nodeId succeeded failed after := by
  obtain ⟨coordinator, poller, reported⟩ := after
  cases registered
  cases polled
  exact ⟨knows.client, knows.home, knows.registry, knows.named, knows.identified, knows.counted,
    knows.online⟩

/-- A scheduled poll that fails is counted, and completes an outage when the count
is met. -/
theorem Knows.of_failed_tick (knows : Knows client householdId nodeId succeeded failed entry)
    {error : DirectError} {message : String}
    (unidentified : entry.poller.identify world = .error (.direct error message)) :
    Knows client householdId nodeId succeeded (failed + 1) (entry.step (.tick world)) := by
  rw [step, DirectPoller.asyncPollSafely_of_unidentified entry.coordinator unidentified rfl]
  refine ⟨knows.client, knows.home, ?_, knows.named, knows.identified, ?_, ?_⟩
  · dsimp only
    split
    · rw [DirectPoller.householdId_asyncMarkOffline, knows.registry]
    · exact knows.registry
  · intro success
    dsimp only
    rw [knows.counted success]
  · have shown := knows.online
    have identified := knows.identified
    dsimp only
    cases succeeded with
    | false =>
        rw [if_neg Bool.false_ne_true] at shown identified ⊢
        rw [DirectPoller.asyncMarkOffline]
        dsimp only
        rw [identified]
        split
        · exact shown
        · exact shown
    | true =>
        rw [if_pos rfl] at shown identified ⊢
        rw [knows.counted rfl]
        by_cases met : failed + 1 = directOfflineAfterFailures
        · rw [if_pos met, DirectPoller.asyncMarkOffline]
          dsimp only
          rw [identified]
          dsimp only
          rw [knows.home,
            Coordinator.onlineOf_ingest_offline world.env knows.registry (knows.named rfl), met]
          simp
        · rw [if_neg met, shown]
          refine congrArg some ?_
          rw [decide_eq_decide]
          omega

/-- What is known after one more event. -/
theorem Knows.step (knows : Knows client householdId nodeId succeeded failed entry)
    (behaved : event.WellBehaved (.new client householdId) nodeId) :
    Knows client householdId nodeId
      (succeeded || event.succeeds (.new client householdId))
      (if event.succeeds (.new client householdId) then 0
        else failed + if event.failsScheduled (.new client householdId) then 1 else 0)
      (entry.step event) := by
  cases polled : event.poll (.new client householdId) with
  | none =>
      have silent : event.succeeds (.new client householdId) = false := by
        rw [DirectEvent.succeeds, polled]
        rfl
      have uncounted : event.failsScheduled (.new client householdId) = false := by
        cases event with
        | tick world => cases polled
        | lock nodeId action reply refresh => rfl
        | guest nodeId command reply refresh => rfl
      obtain ⟨registry, poller⟩ := step_of_no_poll (knows.poll.trans polled)
      rw [silent, uncounted, Bool.or_false, if_neg Bool.false_ne_true, if_neg Bool.false_ne_true,
        Nat.add_zero]
      exact knows.of_same registry poller
  | some world =>
      have same := knows.poll.trans polled
      rcases behaved world polled with reported | ⟨error, message, unidentified⟩
      · have success : event.succeeds (.new client householdId) = true := by
          rw [DirectEvent.succeeds, polled, Option.any_some, reported]
          rfl
        rw [success, Bool.or_true, if_pos rfl]
        rw [← knows.reports] at reported
        obtain ⟨registered, after⟩ := step_of_success same reported
        obtain ⟨coordinator, once, home, online⟩ :=
          DirectPoller.asyncPollOnce_of_online (knows.registry.trans knows.home.symm) reported
        rw [once] at registered
        exact knows.of_success (DirectPoller.reports_named reported) registered after home online
      · have failure := DirectPoller.reports_of_unidentified unidentified
        have silent : event.succeeds (.new client householdId) = false := by
          rw [DirectEvent.succeeds, polled, Option.any_some, failure]
          rfl
        rw [silent, Bool.or_false, if_neg Bool.false_ne_true]
        rw [← knows.identify] at unidentified
        by_cases scheduled : ∀ world, event ≠ .tick world
        · obtain ⟨registered, after⟩ := step_of_refresh scheduled same
          rw [DirectPoller.asyncPollOnce_of_unidentified entry.coordinator unidentified]
            at registered after
          have uncounted : event.failsScheduled (.new client householdId) = false := by
            cases event with
            | tick world => exact absurd rfl (scheduled world)
            | lock nodeId action reply refresh => rfl
            | guest nodeId command reply refresh => rfl
          rw [uncounted, if_neg Bool.false_ne_true, Nat.add_zero]
          exact knows.of_same registered after
        · push Not at scheduled
          obtain ⟨tried, rfl⟩ := scheduled
          cases polled
          rw [DirectEvent.failsScheduled, failure, Option.isNone_none, if_pos rfl]
          exact knows.of_failed_tick unidentified

/-- What is known along a run of polls that never overlap. -/
theorem knows_run {events : List DirectEvent}
    (behaved : ∀ event ∈ events, event.WellBehaved (.new client householdId) nodeId) :
    Knows client householdId nodeId (hasSucceeded (.new client householdId) events)
      (failedSinceSuccess (.new client householdId) events)
      (run step (.new client householdId) events) := by
  induction events using List.reverseRecOn with
  | nil => exact knows_new client householdId nodeId
  | append_singleton events event ih =>
      have last : event ∈ events ++ [event] := List.mem_append_right _ List.mem_cons_self
      have later := (ih fun earlier member =>
        behaved earlier (List.mem_append_left _ member)).step (behaved event last)
      rw [run_append, run_cons, run_nil, hasSucceeded_append]
      cases success : event.succeeds (.new client householdId) with
      | true =>
          rw [success, if_pos rfl] at later
          rw [failedSinceSuccess_append_of_succeeds success]
          exact later
      | false =>
          rw [success, if_neg Bool.false_ne_true] at later
          rw [failedSinceSuccess_append_of_not_succeeds success]
          exact later

/-- A node is registered once a poll has succeeded, and is online from then on
while too few scheduled polls have failed since the last success. -/
theorem online_iff_failedSinceSuccess (client : DirectClient) (householdId nodeId : String)
    (events : List DirectEvent)
    (behaved : ∀ event ∈ events, event.WellBehaved (.new client householdId) nodeId) :
    (((run step (.new client householdId) events).coordinator.getNode nodeId).isSome = true ↔
        ∃ event ∈ events, event.succeeds (.new client householdId) = true) ∧
      ∀ node, (run step (.new client householdId) events).coordinator.getNode nodeId = some node →
        (node.online = true ↔
          failedSinceSuccess (.new client householdId) events < directOfflineAfterFailures) := by
  have known := (knows_run behaved).online
  rw [Coordinator.onlineOf] at known
  refine ⟨?_, ?_⟩
  · rw [← List.any_eq_true, ← Option.isSome_map, known]
    change _ ↔ hasSucceeded (.new client householdId) events = true
    cases hasSucceeded (.new client householdId) events with
    | true => simp
    | false => simp
  · intro node found
    rw [found, Option.map_some] at known
    split at known
    · rw [Option.some.inj known, decide_eq_true_iff]
    · cases known

/-- A poll without an answer. -/
def missedPoll : PollWorld :=
  { info := .timedOut false
    state := .timedOut false
    guest := .timedOut false
    env := fun _ => quietEnv }

theorem identify_missedPoll (poller : DirectPoller) :
    poller.identify missedPoll =
      .error (.direct .transport "Timed out talking to the node") := rfl

/-- The sample device is offline once it has missed three polls. -/
theorem offline_after_three_missed :
    ∃ node, (run step (.new sampleClient "HOME001")
        [.tick (pollOf "GATE-001"), .tick missedPoll, .tick missedPoll,
          .tick missedPoll]).coordinator.getNode "GATE-001" = some node ∧ node.online = false := by
  have reported : (DirectPoller.new sampleClient "HOME001").reports (pollOf "GATE-001") =
      some "GATE-001" := reports_pollOf rfl (by rfl)
  have missed := DirectPoller.reports_of_unidentified
    (identify_missedPoll (.new sampleClient "HOME001"))
  have shown : (DirectEvent.tick (pollOf "GATE-001")).succeeds (.new sampleClient "HOME001") =
      true := by
    rw [DirectEvent.succeeds, DirectEvent.poll, Option.any_some, reported]
    rfl
  have unshown : (DirectEvent.tick missedPoll).succeeds (.new sampleClient "HOME001") = false := by
    rw [DirectEvent.succeeds, DirectEvent.poll, Option.any_some, missed]
    rfl
  have failed : (DirectEvent.tick missedPoll).failsScheduled (.new sampleClient "HOME001") =
      true := by
    rw [DirectEvent.failsScheduled, missed]
    rfl
  obtain ⟨registered, online⟩ := online_iff_failedSinceSuccess sampleClient "HOME001" "GATE-001"
    [.tick (pollOf "GATE-001"), .tick missedPoll, .tick missedPoll, .tick missedPoll] (by
      have answers : (DirectEvent.tick (pollOf "GATE-001")).WellBehaved
          (.new sampleClient "HOME001") "GATE-001" := by
        rintro world polled
        cases polled
        exact Or.inl reported
      have misses : (DirectEvent.tick missedPoll).WellBehaved
          (.new sampleClient "HOME001") "GATE-001" := by
        rintro world polled
        cases polled
        exact Or.inr ⟨.transport, _, identify_missedPoll _⟩
      simp only [List.forall_mem_cons, List.not_mem_nil, false_implies, implies_true, and_true]
      exact ⟨answers, misses, misses, misses⟩)
  obtain ⟨node, found⟩ := Option.isSome_iff_exists.mp
    (registered.mpr ⟨_, List.mem_cons_self, shown⟩)
  refine ⟨node, found, ?_⟩
  have counted : failedSinceSuccess (.new sampleClient "HOME001")
      [.tick (pollOf "GATE-001"), .tick missedPoll, .tick missedPoll, .tick missedPoll] = 3 := by
    simp [failedSinceSuccess, shown, unshown, failed]
  have below := online node found
  rw [counted] at below
  cases shownAs : node.online with
  | false => rfl
  | true => exact absurd (below.mp shownAs) (by decide)

end DirectEntry

end HomeKeyHousehold
