import HomeKeyHousehold.Overlap
import HomeKeyHousehold.Replies
import HomeKeyHousehold.TopicIdentity

/-!
# Unloading an entry while it is polled

Unloading drops the pool of a household and cancels the timer.  A poll that is
suspended then goes on, and every message it has accepted fills the pool again.
-/

namespace HomeKeyHousehold

open Library

/-! ## The pool -/

namespace Coordinator

variable {env : Env} {coordinator : Coordinator} {nodeId : String}

theorem framed_pool : Framed Coordinator.pool := ⟨fun _ _ => rfl, fun _ _ => rfl⟩

@[simp]
theorem pool_announceSome (coordinator : Coordinator) (node : Node)
    (made : Option LockChangeKey) :
    (coordinator.announceSome env node made).pool = coordinator.pool := by
  cases made with
  | none => rfl
  | some cause => rfl

@[simp]
theorem pool_attributeLockChange (coordinator : Coordinator) (node : Node)
    (previousCurrent : Option Int) (health : NodeHealth) :
    (coordinator.attributeLockChange env node previousCurrent health).pool =
      coordinator.pool := by
  rw [attributeLockChange_eq, pool_announceSome]

@[simp]
theorem pool_attributeLockEvent (coordinator : Coordinator) (node : Node) (change : LockChange) :
    (coordinator.attributeLockEvent env node change).pool = coordinator.pool := by
  rw [attributeLockEvent_eq]
  split
  · rfl
  · rfl

/-- No handler writes the pool. -/
theorem pool_handlePlain (coordinator : Coordinator) (nodeId payload : String)
    (subtopic : Subtopic) :
    (coordinator.handlePlain env nodeId payload subtopic).coordinator.pool = coordinator.pool :=
  framed_pool.handlePlain coordinator nodeId payload subtopic

theorem pool_handleJson (coordinator : Coordinator) (nodeId : String) (payload : Json)
    (subtopic : Subtopic) :
    (coordinator.handleJson env nodeId payload subtopic).coordinator.pool = coordinator.pool := by
  have ensured := framed_pool.ensureNode coordinator nodeId
  by_cases sampled : subtopic = .health
  · subst sampled
    rw [handleJson, handleHealth]
    refine Framed.orReject ensured fun health => ?_
    rw [pool_attributeLockChange]
    exact ensured
  · by_cases event : subtopic = .lockLast
    · subst event
      rw [handleJson, handleLockLast]
      refine Framed.orReject ensured fun change => ?_
      rw [pool_attributeLockEvent]
      exact ensured
    · exact framed_pool.handleJson coordinator nodeId payload sampled event

/-- The pool is written when an update is finished, and only then. -/
theorem pool_finish (handled : Handled) :
    (handled.finish env).coordinator.pool =
      if handled.raised = none then some handled.coordinator.nodes
      else handled.coordinator.pool := by
  unfold Handled.finish
  cases raised : handled.raised with
  | none =>
      rw [if_pos rfl]
      unfold finishUpdate
      dsimp only
      split
      · rfl
      · rfl
  | some raised => rfl

/-- A message leaves the pool alone or fills it with the nodes there are. -/
theorem pool_asyncHandleMessage (env : Env) (coordinator : Coordinator)
    (message : HomeKeyMessage) :
    (coordinator.asyncHandleMessage env message).coordinator.pool = coordinator.pool ∨
      (coordinator.asyncHandleMessage env message).coordinator.pool =
        some (coordinator.asyncHandleMessage env message).coordinator.nodes := by
  unfold asyncHandleMessage dispatch
  split
  · split
    · exact Or.inl rfl
    · next subtopic known =>
        split
        · split
          · exact Or.inl rfl
          · next payload decoded =>
              split
              · exact Or.inl rfl
              · next nodeId named =>
                  rw [pool_finish, pool_handleJson, nodes_finish]
                  split
                  · exact Or.inr rfl
                  · exact Or.inl rfl
        · split
          · exact Or.inl rfl
          · next nodeId named =>
              rw [pool_finish, pool_handlePlain, nodes_finish]
              split
              · exact Or.inr rfl
              · exact Or.inl rfl
  · exact Or.inl rfl

theorem pool_ingest (env : Subtopic → Env) (coordinator : Coordinator)
    (messages : List HomeKeyMessage) (filled : coordinator.pool ≠ none) :
    (coordinator.ingest env messages).pool ≠ none := by
  induction messages generalizing coordinator with
  | nil => exact filled
  | cons message rest ih =>
      apply ih
      rcases pool_asyncHandleMessage (env ((Subtopic.ofString? message.subtopic).getD .status))
        coordinator message with kept | written
      · rw [kept]
        exact filled
      · rw [written]
        exact Option.some_ne_none _

/-- A status message fills the pool, whatever it says. -/
theorem pool_ingest_status (env : Subtopic → Env) {online : Bool} {message : HomeKeyMessage}
    (home : message.householdId = coordinator.householdId) (addressed : message.nodeId = some nodeId)
    (named : nodeId ≠ "") (spelled : message.subtopic = Subtopic.status.spelling) (text : String)
    (reads : message.payload = text) (accepted : parseOnline text "status" = .ok online)
    (rest : List HomeKeyMessage) : (coordinator.ingest env (message :: rest)).pool ≠ none := by
  rw [ingest_cons]
  apply pool_ingest
  have handled := @asyncHandleMessage_plain coordinator nodeId message .status
    (env ((Subtopic.ofString? message.subtopic).getD .status)) home addressed named spelled rfl
  rw [handled, pool_finish, handlePlain, handleNodeStatus, reads, accepted]
  exact Option.some_ne_none _

/-- A guest document fills the pool when it reads well. -/
theorem pool_ingest_guestStatus (env : Subtopic → Env) (empty : coordinator.pool = none)
    (named : nodeId ≠ "") (guest : Json) :
    (coordinator.ingest env
        [.document coordinator.householdId nodeId .guestStatus guest true]).pool ≠ none ↔
      ∃ members, guest = .obj members ∧ GuestDocument members := by
  rw [ingest_cons, ingest_nil, HomeKeyMessage.ofString?_subtopic_document, Option.getD_some,
    asyncHandleMessage_document (env .guestStatus) coordinator named rfl, pool_finish,
    pool_handleJson, handleJson, handleGuestStatus]
  cases read : GuestState.fromDict guest with
  | ok state =>
      rw [orReject, if_pos rfl]
      refine iff_of_true (Option.some_ne_none _) ?_
      cases guest with
      | obj members => exact ⟨members, rfl, guestState_ok_iff.mp ⟨state, read⟩⟩
      | null | bool _ | int _ | float _ | str _ | arr _ => cases read
  | error reason =>
      rw [orReject, if_neg (Option.some_ne_none _)]
      refine iff_of_false (fun written => written empty) ?_
      rintro ⟨members, rfl, document⟩
      obtain ⟨state, accepted⟩ := guestState_ok_iff.mpr document
      rw [read] at accepted
      cases accepted

end Coordinator

/-- The answer to a guest request fills the pool when it is a document that reads
well. -/
theorem DirectPoller.pool_guestReplies {poller : DirectPoller} {coordinator : Coordinator}
    (env : Subtopic → Env) {reply : Reply} {nodeId : String} (empty : coordinator.pool = none)
    (home : coordinator.householdId = poller.householdId) (named : nodeId ≠ "") :
    (coordinator.ingest env (poller.guestReplies reply nodeId)).pool ≠ none ↔
      ∃ members, reply.reading = .document (.obj members) ∧ GuestDocument members := by
  have answers := request_answers poller.client "/api/ha/guest" reply
  unfold guestReplies DirectClient.asyncGetGuest
  rw [← home]
  generalize poller.client.request "/api/ha/guest" reply = result at answers ⊢
  generalize reply.reading = reading at answers ⊢
  have silent : (coordinator.ingest env []).pool ≠ none ↔ False :=
    iff_of_false (fun written => written empty) id
  cases answers with
  | refused error message =>
      cases error with
      | transport | auth | tlsUnavailable | protocol | noHousehold | fingerprintMismatch =>
          rw [silent]
          simp
  | undecodable =>
      rw [silent]
      simp
  | document value =>
      have written := Coordinator.pool_ingest_guestStatus env empty named value
      cases value with
      | null =>
          rw [silent]
          simp
      | bool _ | int _ | float _ | str _ | arr _ | obj _ => simpa using written

/-! ## Runs -/

namespace Polling

variable {polling : Polling} {event : PollEvent} {householdId : String}

/-- An event has a message accepted: a response of the household, a guest document
that reads well, or the failure that completes an outage of a known node. -/
inductive Writes (polling : Polling) : PollEvent → Prop where
  | shown {id env scheduled info sample reply poller nodeId messages}
      (waiting : polling.tasks id = some ⟨scheduled, .sampled info sample reply⟩)
      (responded : polling.poller.respond info reply = (poller, .shown nodeId messages)) :
      Writes polling (.shown id env)
  | guest {id reply env scheduled nodeId members}
      (waiting : polling.tasks id = some ⟨scheduled, .guest nodeId⟩)
      (answered : reply.reading = .document (.obj members)) (reads : GuestDocument members) :
      Writes polling (.guest id reply env)
  | outage {event nodeId} (counts : polling.Counts event)
      (last : polling.poller.failures + 1 = directOfflineAfterFailures)
      (known : polling.poller.nodeId = some nodeId) : Writes polling event

theorem pool_countFailure (sound : Sound householdId polling) (id : Nat) (env : Subtopic → Env)
    {nodeId : String} (last : polling.poller.failures + 1 = directOfflineAfterFailures)
    (known : polling.poller.nodeId = some nodeId) :
    ((polling.put id none).countFailure env).coordinator.pool ≠ none := by
  have told : polling.poller.offlineMessages =
      [DirectPoller.offlineMessage polling.poller.householdId nodeId] := by
    rw [DirectPoller.offlineMessages, known]
    rfl
  rw [coordinator_countFailure, if_pos last, told]
  exact Coordinator.pool_ingest_status env (sound.home.trans sound.registry.symm) rfl
    (sound.named nodeId known) rfl "offline" rfl (Coordinator.parseOnline_offline _) []

/-- An accepted message fills the pool that was dropped. -/
theorem pool_of_writes (sound : Sound householdId polling)
    (empty : polling.coordinator.pool = none) (writes : polling.Writes event) :
    (polling.step event).coordinator.pool ≠ none := by
  cases writes with
  | @shown id env scheduled info sample reply poller nodeId messages waiting responded =>
      have responds := polling.poller.responds info reply
      rw [responded] at responds
      rw [step, waiting]
      dsimp only
      rw [responded, resume]
      cases responds with
      | shown named made =>
          obtain ⟨state, told, made⟩ := made
          obtain ⟨rest, rfl, -⟩ := stateToMessages_online made
          have written : (polling.coordinator.ingest env
              (.online polling.poller.householdId nodeId :: rest)).pool ≠ none :=
            Coordinator.pool_ingest_status env (sound.home.trans sound.registry.symm) rfl named rfl
              "online" rfl (Coordinator.parseOnline_online _) rest
          exact written
  | @guest id reply env scheduled nodeId members waiting answered reads =>
      rw [step, waiting]
      exact (DirectPoller.pool_guestReplies env empty (sound.registry.trans sound.home.symm)
        (sound.guests id scheduled nodeId waiting)).mpr ⟨members, answered, reads⟩
  | outage counts last known =>
      obtain ⟨id, env, counted⟩ := step_of_counts counts
      rw [counted]
      exact pool_countFailure sound id env last known

/-- Nothing else fills it. -/
theorem pool_of_not_writes (sound : Sound householdId polling)
    (empty : polling.coordinator.pool = none) (silent : ¬ polling.Writes event) :
    (polling.step event).coordinator.pool = none := by
  have moves := polling.moves_step event
  generalize polling.step event = after at moves ⊢
  cases moves with
  | idle => exact empty
  | begin active => exact empty
  | told waiting answered => exact empty
  | sample waiting => exact empty
  | counted counts =>
      rw [coordinator_countFailure]
      split
      · next last =>
          cases known : polling.poller.nodeId with
          | none =>
              rw [DirectPoller.offlineMessages, known]
              exact empty
          | some nodeId => exact absurd (.outage counts last known) silent
      · exact empty
  | dropped poller learnt keeps named => exact empty
  | foreign poller keeps waiting responded =>
      split
      · exact empty
      · exact empty
  | shown poller keeps waiting responded named made =>
      exact absurd (.shown waiting responded) silent
  | @guest id reply env scheduled nodeId waiting =>
      by_contra written
      obtain ⟨members, answered, reads⟩ := (DirectPoller.pool_guestReplies env empty
        (sound.registry.trans sound.home.symm) (sound.guests id scheduled nodeId waiting)).mp
          written
      exact silent (.guest waiting answered reads)
  | unload loaded => rfl

/-- While an entry is unloaded the pool is not dropped again. -/
theorem pool_step (unloaded : polling.loaded = false) (filled : polling.coordinator.pool ≠ none) :
    (polling.step event).coordinator.pool ≠ none := by
  have moves := polling.moves_step event
  generalize polling.step event = after at moves ⊢
  cases moves with
  | idle => exact filled
  | begin active => exact filled
  | told waiting answered => exact filled
  | sample waiting => exact filled
  | counted counts =>
      rw [coordinator_countFailure]
      split
      · exact Coordinator.pool_ingest _ _ _ filled
      · exact filled
  | dropped poller learnt keeps named => exact filled
  | foreign poller keeps waiting responded =>
      split
      · exact filled
      · exact filled
  | shown poller keeps waiting responded named made => exact Coordinator.pool_ingest _ _ _ filled
  | guest waiting => exact Coordinator.pool_ingest _ _ _ filled
  | unload loaded =>
      rw [unloaded] at loaded
      cases loaded

/-- Only unloading changes whether an entry is loaded. -/
theorem loaded_step (polling : Polling) (event : PollEvent) :
    (polling.step event).loaded = polling.loaded ∨
      polling.loaded = true ∧ (polling.step event).coordinator.pool = none := by
  have moves := polling.moves_step event
  generalize polling.step event = after at moves ⊢
  cases moves with
  | idle => exact Or.inl rfl
  | begin active => exact Or.inl rfl
  | told waiting answered => exact Or.inl rfl
  | sample waiting => exact Or.inl rfl
  | counted counts => exact Or.inl rfl
  | dropped poller learnt keeps named => exact Or.inl rfl
  | foreign poller keeps waiting responded =>
      split
      · exact Or.inl rfl
      · exact Or.inl rfl
  | shown poller keeps waiting responded named made => exact Or.inl rfl
  | guest waiting => exact Or.inl rfl
  | unload loaded => exact Or.inr ⟨loaded, rfl⟩

/-- Once its entry is unloaded, nothing is pooled for the household, and a later
set-up knows no node. -/
def Emptied (polling : Polling) : Prop :=
  polling.loaded = false → polling.coordinator.pool = none ∧ ∀ nodeId,
    (Coordinator.new polling.coordinator.householdId polling.coordinator.pool).getNode nodeId =
      none

theorem emptied_iff_pool :
    polling.Emptied ↔ (polling.loaded = false → polling.coordinator.pool = none) := by
  constructor
  · intro emptied unloaded
    exact (emptied unloaded).1
  · intro dropped unloaded
    refine ⟨dropped unloaded, fun nodeId => ?_⟩
    rw [dropped unloaded]
    rfl

theorem emptied_step_iff (sound : Sound householdId polling) (emptied : polling.Emptied) :
    (polling.step event).Emptied ↔ (polling.loaded = false → ¬ polling.Writes event) := by
  rw [emptied_iff_pool] at emptied ⊢
  cases loaded : polling.loaded with
  | true =>
      refine iff_of_true ?_ (by simp)
      intro unloaded
      rcases polling.loaded_step event with same | ⟨-, dropped⟩
      · rw [same, loaded] at unloaded
        cases unloaded
      · exact dropped
  | false =>
      have unloaded : (polling.step event).loaded = false := by
        rcases polling.loaded_step event with same | ⟨impossible, -⟩
        · rw [same, loaded]
        · rw [loaded] at impossible
          cases impossible
      have empty := emptied loaded
      constructor
      · intro dropped _ writes
        exact pool_of_writes sound empty writes (dropped unloaded)
      · intro silent _
        exact pool_of_not_writes sound empty (silent rfl)

/-- An entry that is unloaded while it is polled leaves nothing behind exactly when
no message is accepted from a poll after that. -/
theorem emptied_iff (client : DirectClient) (householdId : String)
    (pool : Option (Keyed Node.nodeId)) (events : List PollEvent) :
    (run step (new client householdId pool) events).Emptied ↔
      Along step (fun polling event => polling.loaded = false → ¬ polling.Writes event)
        (new client householdId pool) events := by
  have keeps (polling : Polling) (event : PollEvent) (sound : Sound householdId polling) :
      Sound householdId (polling.step event) := sound.step event
  have lasting (polling : Polling) (event : PollEvent) (emptied : (polling.step event).Emptied) :
      polling.Emptied := by
    rw [emptied_iff_pool] at emptied ⊢
    intro unloaded
    by_contra filled
    rcases polling.loaded_step event with same | ⟨loaded, -⟩
    · exact pool_step unloaded filled (emptied (same.trans unloaded))
    · rw [unloaded] at loaded
      cases loaded
  have loaded : (new client householdId pool).Emptied := fun unloaded => by cases unloaded
  exact run_iff_along keeps lasting (fun polling event => emptied_step_iff)
    (sound_new client householdId pool) loaded

/-! ## A poll that outlives its entry -/

/-- A poll asks the sample device for its state, and its entry is unloaded. -/
def unloadedWaiting : List PollEvent :=
  [.begin true, .told 0 (.answer (.obj [])) (fun _ => DirectEntry.quietEnv),
    .sample 0 (.answer (.obj (DirectEntry.identityOf "GATE-001")))] ++ [.unload]

/-- The state that arrives late fills the pool again. -/
theorem late_answer_pooled :
    ¬ ∀ (client : DirectClient) (householdId : String) (pool : Option (Keyed Node.nodeId))
      (events : List PollEvent), (run step (new client householdId pool) events).Emptied := by
  intro emptied
  have before := emptied DirectEntry.sampleClient "HOME001" none unloadedWaiting
  have after := emptied DirectEntry.sampleClient "HOME001" none
    (unloadedWaiting ++ [.shown 0 fun _ => DirectEntry.quietEnv])
  have sound := sound_run DirectEntry.sampleClient "HOME001" none unloadedWaiting
  have asked : run step (new DirectEntry.sampleClient "HOME001" none) unloadedWaiting =
      ((new DirectEntry.sampleClient "HOME001" none).asked true (.obj [])
        (.answer (.obj (DirectEntry.identityOf "GATE-001")))).step .unload := by
    rw [unloadedWaiting, run_append]
    exact congrArg (fun polling => run step polling [.unload])
      (run_asked (new DirectEntry.sampleClient "HOME001" none) true [] _ _ fun _ => rfl)
  rw [run_append, asked, run_cons, run_nil] at after
  rw [asked] at before sound
  have waiting : (((new DirectEntry.sampleClient "HOME001" none).asked true (.obj [])
      (.answer (.obj (DirectEntry.identityOf "GATE-001")))).step .unload).tasks 0 =
        some ⟨true, .sampled (.obj []) 0 (.answer (.obj (DirectEntry.identityOf "GATE-001")))⟩ :=
    rfl
  have shown := @DirectPoller.respond_answer (.new DirectEntry.sampleClient "HOME001") []
    (DirectEntry.identityOf "GATE-001") "GATE-001" _ (by rfl) DirectEntry.messagesOf_identityOf
  exact (emptied_step_iff sound before).mp after rfl (.shown waiting shown)

end Polling

end HomeKeyHousehold
