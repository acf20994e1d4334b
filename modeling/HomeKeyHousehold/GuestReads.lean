import HomeKeyHousehold.Overlap

/-!
# Guest reads and availability

A poll ends the count of failures when its guest read is over, some time after it has
shown its node online.  Runs that differ in their guest reads alone agree on who is
online as long as no failure is counted in between.
-/

namespace HomeKeyHousehold

open Library

/-! ## Who is online after a poll's messages -/

namespace DirectPoller

variable {poller : DirectPoller} {coordinator : Coordinator} {nodeId : String}

theorem onlineOf_offlineMessages (env : Subtopic → Env)
    (home : poller.householdId = coordinator.householdId)
    (named : ∀ nodeId, poller.nodeId = some nodeId → nodeId ≠ "") (other : String) :
    (coordinator.ingest env poller.offlineMessages).onlineOf other =
      if poller.nodeId = some other then some false else coordinator.onlineOf other := by
  unfold offlineMessages
  cases known : poller.nodeId with
  | none => rfl
  | some nodeId =>
      rw [home]
      change (coordinator.ingest env [offlineMessage coordinator.householdId nodeId]).onlineOf
        other = _
      split
      · next same =>
          cases same
          exact Coordinator.onlineOf_ingest_offline env rfl (named _ known)
      · next apart =>
          have about := List.forall_mem_singleton.mpr
            (about_offlineMessage coordinator.householdId nodeId)
          exact coordinator.onlineOf_ingest_of_ne about fun same =>
            apart (congrArg some same.symm)

theorem onlineOf_response (env : Subtopic → Env) {state info : Dict}
    {messages : List HomeKeyMessage} (named : nodeId ≠ "")
    (made : stateToMessages state info coordinator.householdId nodeId = .ok messages)
    (other : String) :
    (coordinator.ingest env messages).onlineOf other =
      if other = nodeId then some true else coordinator.onlineOf other := by
  split
  · next same =>
      obtain ⟨rest, rfl, others⟩ := stateToMessages_online made
      rw [same]
      exact Coordinator.onlineOf_ingest_online env rfl named
        (fun message member => (others message member).1)
        (fun message member => (others message member).2)
  · next apart =>
      exact coordinator.onlineOf_ingest_of_ne (fun message => about_stateToMessages made) apart

/-- A guest document says nothing about who is online. -/
theorem onlineOf_guestReplies (env : Subtopic → Env) (reply : Reply)
    (home : poller.householdId = coordinator.householdId) (named : nodeId ≠ "")
    (known : coordinator.onlineOf nodeId ≠ none) (other : String) :
    (coordinator.ingest env (poller.guestReplies reply nodeId)).onlineOf other =
      coordinator.onlineOf other := by
  have about : ∀ message ∈ poller.guestReplies reply nodeId,
      message.About coordinator.householdId nodeId ∧
        message.subtopic ≠ Subtopic.status.spelling := by
    unfold guestReplies
    intro message member
    split at member
    · rw [List.mem_singleton.mp member, home]
      exact ⟨⟨rfl, rfl⟩, Subtopic.spelling_injective.ne (show Subtopic.guestStatus ≠ _ by decide)⟩
    · cases member
  by_cases same : other = nodeId
  · subst same
    cases recorded : coordinator.getNode other with
    | none => exact absurd (Coordinator.onlineOf_eq_none_iff.mpr recorded) known
    | some node =>
        rw [Coordinator.onlineOf, Coordinator.onlineOf, recorded,
          Coordinator.getNode_ingest env rfl named (fun message member => (about message member).1)
            recorded, Option.map_some, Option.map_some,
          Node.online_receiveAll env _ node fun message member => (about message member).2]
  · exact coordinator.onlineOf_ingest_of_ne (fun message member => (about message member).1) same

/-- A response does not depend on the failures so far. -/
theorem respond_failures (poller : DirectPoller) (failures : Nat) (info : Json) (reply : Reply) :
    ({ poller with failures } : DirectPoller).respond info reply =
      ({ (poller.respond info reply).1 with failures }, (poller.respond info reply).2) := by
  unfold respond
  dsimp only
  cases poller.client.request "/api/ha/state" reply with
  | error raised => rfl
  | ok state =>
      dsimp only
      cases resolveIdentity state info with
      | error raised => rfl
      | ok identity =>
          obtain ⟨householdId, nodeId⟩ := identity
          dsimp only
          by_cases home : householdId = poller.householdId
          · rw [if_pos home, if_pos home]
            cases messagesOf state info householdId nodeId with
            | error raised => rfl
            | ok messages => rfl
          · rw [if_neg home, if_neg home]

end DirectPoller

/-! ## What is left of an entry without guest reads -/

/-- A poll that waits for its guest document. -/
def ReadsGuest (task : Option Task) : Prop :=
  ∃ scheduled nodeId, task = some ⟨scheduled, .guest nodeId⟩

/-- A poll that waits for its guest document counts as returned. -/
def Task.unread (task : Task) : Option Task :=
  match task.stage with
  | .guest _ => none
  | _ => some task

theorem bind_unread_of_reads {task : Option Task} (reads : ReadsGuest task) :
    task.bind Task.unread = none := by
  obtain ⟨scheduled, nodeId, rfl⟩ := reads
  rfl

theorem bind_unread_of_not_reads {task : Option Task} (other : ¬ ReadsGuest task) :
    task.bind Task.unread = task := by
  cases task with
  | none => rfl
  | some task =>
      obtain ⟨scheduled, stage⟩ := task
      cases stage with
      | guest nodeId => exact absurd ⟨scheduled, nodeId, rfl⟩ other
      | info => rfl
      | state info => rfl
      | sampled info sample reply => rfl

theorem not_readsGuest_none : ¬ ReadsGuest none := nofun

/-- An event that no guest read takes part in. -/
def PollEvent.apartFromGuest : PollEvent → Bool
  | .guest .. => false
  | _ => true

namespace Polling

variable {polling first second : Polling} {householdId : String} {id : Nat} {task : Option Task}

def AwaitsGuest (polling : Polling) : Prop := ∃ id, ReadsGuest (polling.tasks id)

/-- The polls whose state has not been read. -/
def pending (polling : Polling) (id : Nat) : Option Task := (polling.tasks id).bind Task.unread

open Classical in
/-- The failures that count when the guest reads under way are over. -/
noncomputable def count (polling : Polling) : Nat :=
  if polling.AwaitsGuest then 0 else polling.poller.failures

theorem count_of_awaits (awaits : polling.AwaitsGuest) : polling.count = 0 := if_pos awaits

theorem count_of_quiet (quiet : ¬ polling.AwaitsGuest) :
    polling.count = polling.poller.failures := if_neg quiet

theorem count_of_reset (reset : polling.poller.failures = 0) : polling.count = 0 := by
  rw [count, reset, ite_self]

theorem count_congr (awaits : second.AwaitsGuest ↔ first.AwaitsGuest)
    (failures : second.poller.failures = first.poller.failures) : second.count = first.count := by
  by_cases reads : first.AwaitsGuest
  · rw [count_of_awaits reads, count_of_awaits (awaits.mpr reads)]
  · rw [count_of_quiet reads, count_of_quiet (mt awaits.mp reads), failures]

theorem pending_put (polling : Polling) (id : Nat) (task : Option Task) :
    (polling.put id task).pending =
      Function.update polling.pending id (task.bind Task.unread) := by
  funext other
  rw [pending]
  by_cases same : other = id
  · rw [same, tasks_put_self, Function.update_self]
  · rw [tasks_put_of_ne same, Function.update_of_ne same, pending]

theorem awaitsGuest_put (before : ¬ ReadsGuest (polling.tasks id)) (after : ¬ ReadsGuest task) :
    (polling.put id task).AwaitsGuest ↔ polling.AwaitsGuest := by
  refine exists_congr fun other => ?_
  by_cases same : other = id
  · rw [same, tasks_put_self]
    exact iff_of_false after before
  · rw [tasks_put_of_ne same]

/-- Entries that differ in their guest reads alone. -/
structure Agrees (first second : Polling) : Prop where
  poller : second.poller = { first.poller with failures := second.poller.failures }
  loaded : second.loaded = first.loaded
  begun : second.begun = first.begun
  samples : second.samples = first.samples
  pending : second.pending = first.pending
  count : second.count = first.count
  online : second.coordinator.onlineOf = first.coordinator.onlineOf

theorem Agrees.symm (agrees : Agrees first second) : Agrees second first := by
  refine ⟨?_, agrees.loaded.symm, agrees.begun.symm, agrees.samples.symm, agrees.pending.symm,
    agrees.count.symm, agrees.online.symm⟩
  rw [agrees.poller]

/-- A poll waits for the same in both, and for no guest document. -/
structure SameTask (first second : Polling) (id : Nat) : Prop where
  same : second.tasks id = first.tasks id
  left : ¬ ReadsGuest (first.tasks id)

theorem SameTask.right (waits : SameTask first second id) : ¬ ReadsGuest (second.tasks id) := by
  rw [waits.same]
  exact waits.left

/-- A poll waits for the same in both, unless it has no state to wait for in either. -/
theorem Agrees.tasks (agrees : Agrees first second) (id : Nat) :
    SameTask first second id ∨ first.pending id = none ∧ second.pending id = none := by
  have same := congrFun agrees.pending id
  by_cases one : ReadsGuest (first.tasks id)
  · have finished : first.pending id = none := bind_unread_of_reads one
    exact Or.inr ⟨finished, same.trans finished⟩
  by_cases two : ReadsGuest (second.tasks id)
  · have finished : second.pending id = none := bind_unread_of_reads two
    exact Or.inr ⟨same.symm.trans finished, finished⟩
  rw [Polling.pending, Polling.pending, bind_unread_of_not_reads one,
    bind_unread_of_not_reads two] at same
  exact Or.inl ⟨same, one⟩

/-! ## What both entries do -/

theorem Agrees.put (agrees : Agrees first second) (waits : SameTask first second id)
    (plain : ¬ ReadsGuest task) :
    Agrees (first.put id task) (second.put id task) := by
  refine ⟨agrees.poller, agrees.loaded, agrees.begun, agrees.samples, ?_, ?_, agrees.online⟩
  · rw [pending_put, pending_put, agrees.pending]
  · have early := count_congr (awaitsGuest_put waits.left plain) rfl
    have late := count_congr (awaitsGuest_put waits.right plain) rfl
    rw [early, late, agrees.count]

/-- Both learn the same from an answer. -/
theorem Agrees.withPoller (agrees : Agrees first second) {poller : DirectPoller}
    (counted : poller.failures = first.poller.failures) :
    Agrees { first with poller }
      { second with poller := { poller with failures := second.poller.failures } } := by
  have early : ({ first with poller } : Polling).count = first.count := count_congr Iff.rfl counted
  have late : ({ second with
      poller := { poller with failures := second.poller.failures } } : Polling).count =
      second.count := count_congr Iff.rfl rfl
  exact ⟨rfl, agrees.loaded, agrees.begun, agrees.samples, agrees.pending,
    by rw [early, late, agrees.count], agrees.online⟩

theorem Agrees.succeed (agrees : Agrees first second) (id : Nat) :
    Agrees (first.succeed id) (second.succeed id) := by
  refine ⟨?_, agrees.loaded, agrees.begun, agrees.samples, ?_, ?_, agrees.online⟩
  · rw [Polling.succeed, Polling.succeed]
    dsimp only [Polling.put]
    rw [agrees.poller]
  · have early : (first.succeed id).pending = (first.put id none).pending := rfl
    have late : (second.succeed id).pending = (second.put id none).pending := rfl
    rw [early, late, pending_put, pending_put, agrees.pending]
  · rw [count_of_reset rfl, count_of_reset rfl]

/-- A failure that both count while no guest read is under way. -/
theorem Agrees.countFailure (agrees : Agrees first second) (one : Sound householdId first)
    (two : Sound householdId second) (quiet : ¬ first.AwaitsGuest)
    (calm : ¬ second.AwaitsGuest) (env : Subtopic → Env) :
    Agrees (first.countFailure env) (second.countFailure env) := by
  have same : second.poller.failures = first.poller.failures := by
    rw [← count_of_quiet quiet, ← count_of_quiet calm, agrees.count]
  have poller : second.poller = first.poller := by rw [agrees.poller, same]
  refine ⟨?_, agrees.loaded, agrees.begun, agrees.samples, agrees.pending, ?_, ?_⟩
  · rw [Polling.countFailure, Polling.countFailure, poller]
  · have early : (first.countFailure env).count = first.poller.failures + 1 := if_neg quiet
    have late : (second.countFailure env).count = second.poller.failures + 1 := if_neg calm
    rw [early, late, same]
  · rw [Polling.countFailure, Polling.countFailure, poller]
    dsimp only
    split
    · funext other
      have early := DirectPoller.onlineOf_offlineMessages env
        (one.home.trans one.registry.symm) one.named other
      have late := DirectPoller.onlineOf_offlineMessages env
        (one.home.trans two.registry.symm) one.named other
      exact late.trans (agrees.online ▸ early.symm)
    · exact agrees.online

/-- What both entries are besides: of one household, with no task for a poll that is
not begun, and with every node known whose guest document is read. -/
structure Tidy (householdId : String) (polling : Polling) : Prop where
  sound : Sound householdId polling
  fresh : ∀ id, polling.begun ≤ id → polling.tasks id = none
  known : ∀ id scheduled nodeId, polling.tasks id = some ⟨scheduled, .guest nodeId⟩ →
    polling.coordinator.onlineOf nodeId ≠ none

theorem Agrees.fail (agrees : Agrees first second) (one : Sound householdId first)
    (two : Sound householdId second) (waits : SameTask first second id) {scheduled : Bool}
    {raised : Raised}
    (quiet : scheduled = true → DirectPoller.countsAsFailure raised = true →
      ¬ first.AwaitsGuest ∧ ¬ second.AwaitsGuest) (env : Subtopic → Env) :
    Agrees (first.fail id scheduled raised env) (second.fail id scheduled raised env) := by
  have returned := agrees.put waits not_readsGuest_none
  rw [Polling.fail, Polling.fail]
  split
  · next counts =>
      obtain ⟨timed, counted⟩ := Bool.and_eq_true_iff.mp counts
      obtain ⟨calm, still⟩ := quiet timed counted
      refine returned.countFailure (one.put fun _ _ other => by cases other)
        (two.put fun _ _ other => by cases other) ?_ ?_ env
      · rwa [awaitsGuest_put waits.left not_readsGuest_none]
      · rwa [awaitsGuest_put waits.right not_readsGuest_none]
  · exact returned

/-- Both show what the device answered, and read the guest document. -/
theorem Agrees.shown (agrees : Agrees first second) (one : Sound householdId first)
    (two : Sound householdId second) {poller : DirectPoller} {nodeId : String}
    {messages : List HomeKeyMessage} {state info : Dict} (named : nodeId ≠ "")
    (made : stateToMessages state info householdId nodeId = .ok messages) (id sample : Nat)
    (scheduled : Bool) (env : Subtopic → Env) :
    Agrees
      (first.resume id scheduled sample env (poller, .shown nodeId messages))
      (second.resume id scheduled sample env
        ({ poller with failures := second.poller.failures }, .shown nodeId messages)) := by
  refine ⟨rfl, agrees.loaded, agrees.begun, agrees.samples, ?_, ?_, ?_⟩
  · have early := first.pending_put id (some ⟨scheduled, .guest nodeId⟩)
    have late := second.pending_put id (some ⟨scheduled, .guest nodeId⟩)
    rw [agrees.pending] at late
    exact late.trans early.symm
  · refine (count_of_awaits ⟨id, scheduled, nodeId, ?_⟩).trans
      (count_of_awaits ⟨id, scheduled, nodeId, ?_⟩).symm
    · exact second.tasks_put_self id _
    · exact first.tasks_put_self id _
  · funext other
    have early := DirectPoller.onlineOf_response env named (one.registry.symm ▸ made) other
    have late := DirectPoller.onlineOf_response env named (two.registry.symm ▸ made) other
    rw [agrees.online] at late
    exact late.trans early.symm

/-! ## One event -/

/-- Nothing but its guest document arrives for a poll whose state was read. -/
theorem step_of_unread {event : PollEvent} (apart : event.apartFromGuest = true)
    (about : event.poll = some id) (finished : polling.pending id = none) :
    polling.step event = polling := by
  rw [pending] at finished
  cases waiting : polling.tasks id with
  | none => exact step_of_returned about waiting
  | some task =>
      obtain ⟨scheduled, stage⟩ := task
      rw [waiting] at finished
      cases stage with
      | info => cases finished
      | state info => cases finished
      | sampled info sample reply => cases finished
      | guest nodeId =>
          cases event with
          | begin scheduled => cases about
          | unload => cases about
          | guest other reply env => cases apart
          | told other reply env =>
              cases about
              rw [step, waiting]
          | sample other reply =>
              cases about
              rw [step, waiting]
          | shown other env =>
              cases about
              rw [step, waiting]
          | missed other error message env =>
              cases about
              rw [step, waiting]

theorem Agrees.request (agrees : Agrees first second) (path : String) (reply : Reply) :
    second.poller.client.request path reply = first.poller.client.request path reply := by
  rw [agrees.poller]

section

variable {info : Json} {reply : Reply} {env : Subtopic → Env} {scheduled : Bool} {sample : Nat}

theorem Agrees.step_told (agrees : Agrees first second) (one : Sound householdId first)
    (two : Sound householdId second) (waits : SameTask first second id)
    (quiet : first.Counts (.told id reply env) → ¬ first.AwaitsGuest)
    (calm : second.Counts (.told id reply env) → ¬ second.AwaitsGuest) :
    Agrees (first.step (.told id reply env)) (second.step (.told id reply env)) := by
  rw [step, step, waits.same]
  cases waiting : first.tasks id with
  | none => exact agrees
  | some task =>
      have awaiting := waits.same.trans waiting
      obtain ⟨scheduled, stage⟩ := task
      cases stage with
      | state info => exact agrees
      | sampled info sample reply => exact agrees
      | guest nodeId => exact agrees
      | info =>
          have answer := agrees.request "/api/ha/info" reply
          dsimp only
          rw [answer]
          cases told : first.poller.client.request "/api/ha/info" reply with
          | ok info =>
              refine agrees.put waits ?_
              rintro ⟨timed, nodeId, same⟩
              cases same
          | error raised =>
              rw [told] at answer
              refine agrees.fail one two waits (fun timed counted => ?_) env
              subst timed
              exact ⟨quiet ⟨raised, .told waiting told, counted⟩,
                calm ⟨raised, .told awaiting answer, counted⟩⟩

theorem Agrees.step_sample (agrees : Agrees first second) (waits : SameTask first second id) :
    Agrees (first.step (.sample id reply)) (second.step (.sample id reply)) := by
  rw [step, step, waits.same]
  cases waiting : first.tasks id with
  | none => exact agrees
  | some task =>
      obtain ⟨scheduled, stage⟩ := task
      cases stage with
      | info => exact agrees
      | sampled info sample reply => exact agrees
      | guest nodeId => exact agrees
      | state info =>
          have plain : ¬ ReadsGuest (some ⟨scheduled, .sampled info first.samples reply⟩) := by
            rintro ⟨timed, nodeId, same⟩
            cases same
          have sampled := agrees.put waits plain
          dsimp only
          rw [agrees.samples]
          exact ⟨sampled.poller, sampled.loaded, sampled.begun, rfl, sampled.pending,
            sampled.count, sampled.online⟩

/-- The answer to the second request is made the same of, whatever was counted. -/
theorem Agrees.resume (agrees : Agrees first second) (one : Sound householdId first)
    (two : Sound householdId second)
    (waiting : first.tasks id = some ⟨scheduled, .sampled info sample reply⟩)
    (waits : SameTask first second id)
    (quiet : first.Counts (.shown id env) → ¬ first.AwaitsGuest)
    (calm : second.Counts (.shown id env) → ¬ second.AwaitsGuest) :
    Agrees (first.resume id scheduled sample env (first.poller.respond info reply))
      (second.resume id scheduled sample env (second.poller.respond info reply)) := by
  have awaiting := waits.same.trans waiting
  have answer : second.poller.respond info reply =
      ({ (first.poller.respond info reply).1 with failures := second.poller.failures },
        (first.poller.respond info reply).2) := by
    rw [agrees.poller]
    exact first.poller.respond_failures second.poller.failures info reply
  have responds := first.poller.responds info reply
  rw [answer]
  generalize responded : first.poller.respond info reply = response at responds answer ⊢
  cases responds with
  | failed learnt raised named counted =>
      have learnt_named : ∀ nodeId, learnt = some nodeId → nodeId ≠ "" := by
        intro nodeId known
        rcases named nodeId known with kept | filled
        · exact one.named nodeId kept
        · exact filled
      have told := @agrees.withPoller _ _ { first.poller with nodeId := learnt } rfl
      refine told.fail (one.withPoller rfl learnt_named)
        (two.withPoller (one.home.trans two.home.symm) learnt_named) ⟨waits.same, waits.left⟩
        (fun timed counts => ?_) env
      subst timed
      exact ⟨quiet ⟨raised, .shown waiting (by rw [responded]), counts⟩,
        calm ⟨raised, .shown awaiting (by rw [answer]), counts⟩⟩
  | foreign =>
      have told := @agrees.withPoller _ _
        { first.poller with identityMismatchLogged := true } rfl
      rw [Polling.resume, Polling.resume]
      split
      · exact told.succeed id
      · exact told.put ⟨waits.same, waits.left⟩ not_readsGuest_none
  | @shown nodeId messages named made =>
      obtain ⟨state, shown, made⟩ := made
      rw [one.home] at made
      exact agrees.shown one two named made id sample scheduled env

theorem Agrees.step_shown (agrees : Agrees first second) (one : Sound householdId first)
    (two : Sound householdId second) (waits : SameTask first second id)
    (quiet : first.Counts (.shown id env) → ¬ first.AwaitsGuest)
    (calm : second.Counts (.shown id env) → ¬ second.AwaitsGuest) :
    Agrees (first.step (.shown id env)) (second.step (.shown id env)) := by
  rw [step, step, waits.same]
  cases waiting : first.tasks id with
  | none => exact agrees
  | some task =>
      obtain ⟨scheduled, stage⟩ := task
      cases stage with
      | info => exact agrees
      | state info => exact agrees
      | guest nodeId => exact agrees
      | sampled info sample reply => exact agrees.resume one two waiting waits quiet calm

theorem Agrees.step_missed (agrees : Agrees first second) (one : Sound householdId first)
    (two : Sound householdId second) {error : DirectError} {message : String}
    (waits : SameTask first second id)
    (quiet : first.Counts (.missed id error message env) → ¬ first.AwaitsGuest)
    (calm : second.Counts (.missed id error message env) → ¬ second.AwaitsGuest) :
    Agrees (first.step (.missed id error message env))
      (second.step (.missed id error message env)) := by
  rw [step, step, waits.same]
  cases waiting : first.tasks id with
  | none => exact agrees
  | some task =>
      have awaiting := waits.same.trans waiting
      obtain ⟨scheduled, stage⟩ := task
      cases stage with
      | info => exact agrees
      | guest nodeId => exact agrees
      | state info =>
          refine agrees.fail one two waits (fun timed counted => ?_) env
          subst timed
          exact ⟨quiet ⟨_, .unanswered waiting, counted⟩, calm ⟨_, .unanswered awaiting, counted⟩⟩
      | sampled info sample reply =>
          refine agrees.fail one two waits (fun timed counted => ?_) env
          subst timed
          exact ⟨quiet ⟨_, .lost waiting, counted⟩, calm ⟨_, .lost awaiting, counted⟩⟩

end

/-- An event apart from the guest reads, with no failure counted during one, keeps
two entries alike. -/
theorem Agrees.step (agrees : Agrees first second) (one : Tidy householdId first)
    (two : Tidy householdId second) {event : PollEvent} (apart : event.apartFromGuest = true)
    (quiet : first.Counts event → ¬ first.AwaitsGuest)
    (calm : second.Counts event → ¬ second.AwaitsGuest) :
    Agrees (first.step event) (second.step event) := by
  have awaited (id : Nat) (about : event.poll = some id)
      (moved : SameTask first second id → Agrees (first.step event) (second.step event)) :
      Agrees (first.step event) (second.step event) := by
    rcases agrees.tasks id with waits | ⟨finished, done⟩
    · exact moved waits
    · rw [step_of_unread apart about finished, step_of_unread apart about done]
      exact agrees
  cases event with
  | guest id reply env => cases apart
  | begin scheduled =>
      have early := one.fresh first.begun le_rfl
      have late := two.fresh first.begun agrees.begun.le
      have begun := @Agrees.put _ _ first.begun (some ⟨scheduled, .info⟩) agrees
        ⟨late.trans early.symm, by rw [early]; exact nofun⟩ nofun
      rw [Polling.step, Polling.step, agrees.loaded, agrees.begun]
      split
      · exact agrees
      · exact ⟨begun.poller, begun.loaded, rfl, begun.samples, begun.pending, begun.count,
          begun.online⟩
  | told id reply env =>
      exact awaited id rfl fun waits => agrees.step_told one.sound two.sound waits quiet calm
  | sample id reply => exact awaited id rfl fun waits => agrees.step_sample waits
  | shown id env =>
      exact awaited id rfl fun waits => agrees.step_shown one.sound two.sound waits quiet calm
  | missed id error message env =>
      exact awaited id rfl fun waits => agrees.step_missed one.sound two.sound waits quiet calm
  | unload =>
      rw [Polling.step, Polling.step, agrees.loaded]
      split
      · exact ⟨agrees.poller, rfl, agrees.begun, agrees.samples, agrees.pending, agrees.count,
          agrees.online⟩
      · exact agrees

/-- A guest read on one side keeps two entries alike. -/
theorem Agrees.step_guest (agrees : Agrees first second) (one : Tidy householdId first)
    (id : Nat) (reply : Reply) (env : Subtopic → Env) :
    Agrees (first.step (.guest id reply env)) second := by
  rw [Polling.step]
  split
  · next scheduled nodeId waiting =>
      have reads : ReadsGuest (first.tasks id) := ⟨scheduled, nodeId, waiting⟩
      have finished : first.pending id = none := bind_unread_of_reads reads
      refine ⟨?_, agrees.loaded, agrees.begun, agrees.samples, ?_, ?_, ?_⟩
      · rw [agrees.poller]
        rfl
      · have done : ∀ coordinator, (({ first with coordinator } : Polling).succeed id).pending =
            (first.put id none).pending := fun coordinator => rfl
        rw [done, pending_put, agrees.pending, Option.bind_none,
          Function.update_eq_self_iff.mpr finished.symm]
      · rw [agrees.count, count_of_awaits ⟨id, reads⟩]
        exact (count_of_reset rfl).symm
      · funext other
        have unchanged := DirectPoller.onlineOf_guestReplies env reply
          (one.sound.home.trans one.sound.registry.symm)
          (one.sound.guests id scheduled nodeId waiting)
          (one.known id scheduled nodeId waiting) other
        rw [agrees.online]
        exact unchanged.symm
  · exact agrees

/-! ## What every event keeps -/

theorem Tidy.fresh_put (tidy : Tidy householdId polling)
    (begun : polling.begun ≤ id → task = none) :
    ∀ other, polling.begun ≤ other → (polling.put id task).tasks other = none := by
  intro other later
  by_cases same : other = id
  · subst same
    rw [tasks_put_self, begun later]
  · rw [tasks_put_of_ne same]
    exact tidy.fresh other later

theorem Tidy.fresh_moves (tidy : Tidy householdId polling) {event : PollEvent} {after : Polling}
    (moves : Moves polling event after) :
    ∀ id, after.begun ≤ id → after.tasks id = none := by
  have begun {id : Nat} {task : Task} (waiting : polling.tasks id = some task) :
      ¬ polling.begun ≤ id := by
    intro later
    rw [tidy.fresh id later] at waiting
    cases waiting
  cases moves with
  | idle => exact tidy.fresh
  | @begin scheduled active =>
      intro other later
      have apart : other ≠ polling.begun := (Nat.lt_of_succ_le later).ne'
      exact (polling.tasks_put_of_ne apart _).trans (tidy.fresh other (Nat.le_of_succ_le later))
  | told waiting answered => exact tidy.fresh_put fun later => absurd later (begun waiting)
  | sample waiting => exact tidy.fresh_put fun later => absurd later (begun waiting)
  | counted counts => exact tidy.fresh_put fun _ => rfl
  | dropped poller learnt keeps named => exact tidy.fresh_put fun _ => rfl
  | foreign poller keeps waiting responded =>
      split
      · exact tidy.fresh_put fun _ => rfl
      · exact tidy.fresh_put fun _ => rfl
  | shown poller keeps waiting responded named made =>
      exact tidy.fresh_put fun later => absurd later (begun waiting)
  | guest waiting => exact tidy.fresh_put fun _ => rfl
  | unload loaded => exact tidy.fresh

/-- Nodes stay known whatever a poll that waits for something else does. -/
theorem Tidy.known_put (tidy : Tidy householdId polling) {coordinator : Coordinator}
    (grows : ∀ nodeId, polling.coordinator.onlineOf nodeId ≠ none →
      coordinator.onlineOf nodeId ≠ none)
    (shown : ∀ scheduled nodeId, task = some ⟨scheduled, .guest nodeId⟩ →
      coordinator.onlineOf nodeId ≠ none) :
    ∀ other scheduled nodeId, (polling.put id task).tasks other = some ⟨scheduled, .guest nodeId⟩ →
      coordinator.onlineOf nodeId ≠ none := by
  intro other scheduled nodeId waiting
  by_cases same : other = id
  · rw [same, tasks_put_self] at waiting
    exact shown scheduled nodeId waiting
  · rw [tasks_put_of_ne same] at waiting
    exact grows nodeId (tidy.known other scheduled nodeId waiting)

theorem Tidy.known_moves (tidy : Tidy householdId polling) {event : PollEvent} {after : Polling}
    (moves : Moves polling event after) :
    ∀ id scheduled nodeId, after.tasks id = some ⟨scheduled, .guest nodeId⟩ →
      after.coordinator.onlineOf nodeId ≠ none := by
  have home := tidy.sound.home.trans tidy.sound.registry.symm
  cases moves with
  | idle => exact tidy.known
  | begin active => exact tidy.known_put (fun _ known => known) nofun
  | told waiting answered => exact tidy.known_put (fun _ known => known) nofun
  | sample waiting => exact tidy.known_put (fun _ known => known) nofun
  | @counted event id env counts =>
      rw [coordinator_countFailure]
      refine tidy.known_put (fun nodeId known => ?_) nofun
      split
      · rw [DirectPoller.onlineOf_offlineMessages env home tidy.sound.named]
        split
        · exact Option.some_ne_none _
        · exact known
      · exact known
  | dropped poller learnt keeps named => exact tidy.known_put (fun _ known => known) nofun
  | foreign poller keeps waiting responded =>
      split
      · exact tidy.known_put (fun _ known => known) nofun
      · exact tidy.known_put (fun _ known => known) nofun
  | @shown id env scheduled info sample reply nodeId messages poller keeps waiting responded named
      made =>
      obtain ⟨state, told, made⟩ := made
      rw [home] at made
      have online := DirectPoller.onlineOf_response env named made
      refine tidy.known_put (fun other known => ?_) ?_
      · rw [online]
        split
        · exact Option.some_ne_none _
        · exact known
      · rintro _ _ ⟨⟩
        rw [online, if_pos rfl]
        exact Option.some_ne_none _
  | @guest id reply env scheduled nodeId waiting =>
      refine tidy.known_put (fun other known => ?_) nofun
      have kept := DirectPoller.onlineOf_guestReplies env reply home
        (tidy.sound.guests id scheduled nodeId waiting) (tidy.known id scheduled nodeId waiting)
        other
      exact fun lost => known (kept.symm.trans lost)
  | unload loaded => exact tidy.known

theorem Tidy.step (tidy : Tidy householdId polling) (event : PollEvent) :
    Tidy householdId (polling.step event) :=
  ⟨tidy.sound.step event, tidy.fresh_moves (polling.moves_step event),
    tidy.known_moves (polling.moves_step event)⟩

theorem tidy_new (client : DirectClient) (householdId : String)
    (pool : Option (Keyed Node.nodeId)) : Tidy householdId (new client householdId pool) where
  sound := sound_new client householdId pool
  fresh := fun _ _ => rfl
  known := nofun

/-! ## Runs -/

/-- Runs that differ in their guest reads alone agree on who is online, as long as
neither counts a failure while a guest read is under way. -/
theorem onlineOf_eq_of_guest_reads {client : DirectClient} {householdId : String}
    {pool : Option (Keyed Node.nodeId)} {first second : List PollEvent}
    (same : first.filter PollEvent.apartFromGuest = second.filter PollEvent.apartFromGuest)
    (one : Along Polling.step (fun polling event => polling.Counts event → ¬ polling.AwaitsGuest)
      (new client householdId pool) first)
    (two : Along Polling.step (fun polling event => polling.Counts event → ¬ polling.AwaitsGuest)
      (new client householdId pool) second) (nodeId : String) :
    (run Polling.step (new client householdId pool) first).coordinator.onlineOf nodeId =
      (run Polling.step (new client householdId pool) second).coordinator.onlineOf nodeId := by
  have start := tidy_new client householdId pool
  have alike : Agrees (new client householdId pool) (new client householdId pool) :=
    ⟨rfl, rfl, rfl, rfl, rfl, rfl, rfl⟩
  have symm (left right : Polling)
      (related : Tidy householdId left ∧ Tidy householdId right ∧ Agrees left right) :
      Tidy householdId right ∧ Tidy householdId left ∧ Agrees right left :=
    ⟨related.2.1, related.1, related.2.2.symm⟩
  have unseen (left right : Polling) (event : PollEvent)
      (related : Tidy householdId left ∧ Tidy householdId right ∧ Agrees left right)
      (hidden : event.apartFromGuest = false) (_ : left.Counts event → ¬ left.AwaitsGuest) :
      Tidy householdId (left.step event) ∧ Tidy householdId right ∧
        Agrees (left.step event) right := by
    cases event with
    | guest id reply env =>
        exact ⟨related.1.step _, related.2.1, related.2.2.step_guest related.1 id reply env⟩
    | begin | told | sample | shown | missed | unload => cases hidden
  have seen (left right : Polling) (event : PollEvent)
      (related : Tidy householdId left ∧ Tidy householdId right ∧ Agrees left right)
      (apart : event.apartFromGuest = true) (quiet : left.Counts event → ¬ left.AwaitsGuest)
      (calm : right.Counts event → ¬ right.AwaitsGuest) :
      Tidy householdId (left.step event) ∧ Tidy householdId (right.step event) ∧
        Agrees (left.step event) (right.step event) :=
    ⟨related.1.step event, related.2.1.step event,
      related.2.2.step related.1 related.2.1 apart quiet calm⟩
  have related := run_agree symm unseen seen same ⟨start, start, alike⟩ one two
  exact (congrFun related.2.2.online nodeId).symm

/-- Only a state that arrives is followed by a guest read. -/
theorem quiet_step (quiet : ¬ polling.AwaitsGuest) {event : PollEvent}
    (other : ∀ id env, event ≠ .shown id env) : ¬ (polling.step event).AwaitsGuest := by
  have unread (id : Nat) : ¬ ReadsGuest (polling.tasks id) := fun reads => quiet ⟨id, reads⟩
  have returned (id : Nat) {task : Option Task} (plain : ¬ ReadsGuest task) :
      ¬ (polling.put id task).AwaitsGuest := by
    rwa [awaitsGuest_put (unread id) plain]
  have moves := polling.moves_step event
  generalize polling.step event = after at moves ⊢
  cases moves with
  | idle => exact quiet
  | begin active => exact returned _ nofun
  | told waiting answered => exact returned _ nofun
  | sample waiting => exact returned _ nofun
  | counted counts => exact returned _ nofun
  | dropped poller learnt keeps named => exact returned _ nofun
  | foreign => exact absurd rfl (other _ _)
  | shown => exact absurd rfl (other _ _)
  | guest waiting => exact returned _ nofun
  | unload loaded => exact quiet

/-! ## A guest read during an outage -/

/-- A scheduled poll of the sample device that is not answered. -/
def missedAt (id : Nat) : List PollEvent :=
  [.begin true, .told id (.timedOut false) fun _ => DirectEntry.quietEnv]

def missed (polling : Polling) : Polling :=
  ({ polling.put polling.begun none with begun := polling.begun + 1 } : Polling).countFailure
    fun _ => DirectEntry.quietEnv

theorem run_missedAt (active : polling.loaded = true) :
    run step polling (missedAt polling.begun) = polling.missed :=
  run_unanswered polling _ active

/-- After two missed polls the device has sampled its state for a third one. -/
def askedThird : List PollEvent :=
  missedAt 0 ++ (missedAt 1 ++
    [.begin true, .told 2 (.answer (.obj [])) (fun _ => DirectEntry.quietEnv),
      .sample 2 (.answer (.obj (DirectEntry.identityOf "GATE-001")))])

/-- The third poll shows the state, and waits for its guest document. -/
def guestPending : List PollEvent := askedThird ++ [.shown 2 fun _ => DirectEntry.quietEnv]

/-- The guest document of that poll is not read. -/
def guestMissed : List PollEvent := [.guest 2 (.timedOut false) fun _ => DirectEntry.quietEnv]

theorem run_askedThird :
    run step (new DirectEntry.sampleClient "HOME001" none) askedThird =
      (new DirectEntry.sampleClient "HOME001" none).missed.missed.asked true (.obj [])
        (.answer (.obj (DirectEntry.identityOf "GATE-001"))) := by
  have first : run step (new DirectEntry.sampleClient "HOME001" none) (missedAt 0) = _ :=
    run_missedAt rfl
  have second : run step (new DirectEntry.sampleClient "HOME001" none).missed (missedAt 1) = _ :=
    run_missedAt rfl
  rw [askedThird, run_append, first, run_append, second]
  exact run_asked _ true [] _ _ fun _ => rfl

/-- The answer of the sample device shows its node online. -/
theorem step_identityOf {scheduled : Bool} {sample : Nat}
    (waiting : polling.tasks id = some ⟨scheduled, .sampled (.obj []) sample
      (.answer (.obj (DirectEntry.identityOf "GATE-001")))⟩)
    (home : polling.poller.householdId = "HOME001")
    (registry : polling.coordinator.householdId = "HOME001") (env : Subtopic → Env) :
    ∃ after, polling.step (.shown id env) = after ∧
      after.poller = { polling.poller with nodeId := some "GATE-001" } ∧
      after.begun = polling.begun ∧ after.loaded = polling.loaded ∧
      after.tasks id = some ⟨scheduled, .guest "GATE-001"⟩ ∧
      after.coordinator.householdId = "HOME001" ∧
      after.coordinator.onlineOf "GATE-001" = some true := by
  have resolved : resolveIdentity (.obj (DirectEntry.identityOf "GATE-001")) (.obj []) =
      .ok (polling.poller.householdId, "GATE-001") := by
    rw [home]
    rfl
  obtain ⟨messages, translated⟩ : ∃ messages, DirectPoller.messagesOf
      (.obj (DirectEntry.identityOf "GATE-001")) (.obj []) polling.poller.householdId
        "GATE-001" = .ok messages := by
    rw [home]
    exact ⟨_, DirectEntry.messagesOf_identityOf⟩
  obtain ⟨state, told, -, -, made⟩ := DirectPoller.messagesOf_eq_ok translated
  have shown := step_answered waiting resolved translated env
  refine ⟨_, shown, rfl, rfl, rfl, polling.tasks_put_self id _, ?_, ?_⟩
  · exact (Coordinator.householdId_ingest ..).trans registry
  · rw [home, ← registry] at made
    exact (DirectPoller.onlineOf_response env (by decide) made "GATE-001").trans (if_pos rfl)

/-- The third poll has shown its node online, and the failures before it still count. -/
theorem shown_guestPending :
    ∃ polling, run step (new DirectEntry.sampleClient "HOME001" none) guestPending = polling ∧
      polling.poller = ⟨DirectEntry.sampleClient, "HOME001", some "GATE-001", 2, false⟩ ∧
      polling.begun = 3 ∧ polling.loaded = true ∧
      polling.tasks 2 = some ⟨true, .guest "GATE-001"⟩ ∧
      polling.coordinator.householdId = "HOME001" ∧
      polling.coordinator.onlineOf "GATE-001" = some true := by
  obtain ⟨after, shown, poller, begun, loaded, tasks, registry, online⟩ := @step_identityOf
    ((new DirectEntry.sampleClient "HOME001" none).missed.missed.asked true (.obj [])
      (.answer (.obj (DirectEntry.identityOf "GATE-001")))) 2 true 0 rfl rfl rfl
    fun _ => DirectEntry.quietEnv
  refine ⟨after, ?_, poller, begun, loaded, tasks, registry, online⟩
  rw [guestPending, run_append, run_askedThird]
  exact shown

/-- The sample device is online when its guest document is read and when it is not. -/
theorem guestMissed_online :
    (run step (new DirectEntry.sampleClient "HOME001" none)
        (guestPending ++ guestMissed)).coordinator.onlineOf "GATE-001" =
      (run step (new DirectEntry.sampleClient "HOME001" none)
        guestPending).coordinator.onlineOf "GATE-001" := by
  have keeps (polling : Polling) (event : PollEvent) (quiet : ¬ polling.AwaitsGuest)
      (other : ∀ id env, event ≠ .shown id env) : ¬ (polling.step event).AwaitsGuest :=
    quiet_step quiet other
  have initially : ¬ (new DirectEntry.sampleClient "HOME001" none).AwaitsGuest := nofun
  have silent : ∀ event ∈ askedThird, ∀ id env, event ≠ .shown id env := by
    simp [askedThird, missedAt]
  have asked : Along step (fun polling event => polling.Counts event → ¬ polling.AwaitsGuest)
      (new DirectEntry.sampleClient "HOME001" none) askedThird := by
    refine Along.of_invariant keeps (fun polling event quiet _ => ?_) initially
      (along_of_forall silent _)
    exact fun _ => quiet
  have quiet := run_invariant keeps initially (along_of_forall silent _)
  have pending : Along step (fun polling event => polling.Counts event → ¬ polling.AwaitsGuest)
      (new DirectEntry.sampleClient "HOME001" none) guestPending :=
    along_append.mpr ⟨asked, fun _ => quiet, trivial⟩
  have same : (guestPending ++ guestMissed).filter PollEvent.apartFromGuest =
      guestPending.filter PollEvent.apartFromGuest := by
    rw [List.filter_append]
    exact List.append_nil _
  apply onlineOf_eq_of_guest_reads same
  · refine along_append.mpr ⟨pending, ?_, trivial⟩
    rintro ⟨raised, raises, -⟩
    cases raises
  · exact pending

/-- A fourth poll that is missed takes the node offline only when the guest document
of the third is still to come. -/
theorem guest_read_decides :
    ¬ ∀ (client : DirectClient) (householdId : String) (pool : Option (Keyed Node.nodeId))
      (first second : List PollEvent),
        first.filter PollEvent.apartFromGuest = second.filter PollEvent.apartFromGuest →
          ∀ nodeId, (run step (new client householdId pool) first).coordinator.onlineOf nodeId =
            (run step (new client householdId pool) second).coordinator.onlineOf nodeId := by
  intro alike
  have agree : (guestPending ++ (guestMissed ++ missedAt 3)).filter PollEvent.apartFromGuest =
      (guestPending ++ missedAt 3).filter PollEvent.apartFromGuest := by
    rw [List.filter_append, List.filter_append, List.filter_append]
    rfl
  have same := alike DirectEntry.sampleClient "HOME001" none _ _ agree "GATE-001"
  obtain ⟨polling, reached, poller, begun, loaded, waiting, registry, online⟩ := shown_guestPending
  have finished : run step polling guestMissed = polling.succeed 2 := by
    rw [guestMissed, run_cons, run_nil, step, waiting]
    rfl
  have kept : (run step (polling.succeed 2) (missedAt 3)).coordinator.onlineOf "GATE-001" =
      some true := by
    have missed : run step (polling.succeed 2) (missedAt 3) = (polling.succeed 2).missed := by
      rw [← begun]
      exact @run_missedAt (polling.succeed 2) loaded
    rw [missed]
    exact online
  have lost : (run step polling (missedAt 3)).coordinator.onlineOf "GATE-001" = some false := by
    have third : polling.poller.failures + 1 = directOfflineAfterFailures := by rw [poller]; rfl
    have told : polling.poller.offlineMessages =
        [DirectPoller.offlineMessage "HOME001" "GATE-001"] := by rw [poller]; rfl
    have marked : polling.missed.coordinator = polling.coordinator.ingest
        (fun _ => DirectEntry.quietEnv) polling.poller.offlineMessages := if_pos third
    rw [← begun, run_missedAt loaded, marked, told]
    exact Coordinator.onlineOf_ingest_offline _ registry (by decide)
  rw [run_append, reached, run_append, finished, kept, run_append, reached, lost] at same
  cases same

end Polling

end HomeKeyHousehold
