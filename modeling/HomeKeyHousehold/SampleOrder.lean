import Mathlib.Data.List.Sort
import HomeKeyHousehold.NamedTap
import HomeKeyHousehold.Overlap

/-!
# Replies in the order they were sampled

Polls that overlap may deliver the replies of a device in another order than the one
the device sampled them in.  The registry shows the replies as they were delivered,
and so it shows the last sampled one as long as none overtakes another.
-/

namespace HomeKeyHousehold

open Library

/-! ## What a node shows of its lock -/

/-- The health and the lock of a node, as far as they are known. -/
structure Sight where
  nodeId : String
  health : Option NodeHealth
  lockChange : Option LockChange
  fresh : Bool

namespace Node

def sight (node : Node) : Sight :=
  ⟨node.nodeId, node.health, node.lockChange, node.lockChangeIsFresh⟩

variable {first second node : Node} {env : Env} {householdId : String}

theorem nodeId_of_sight (same : first.sight = second.sight) : first.nodeId = second.nodeId :=
  congrArg Sight.nodeId same

theorem health_of_sight (same : first.sight = second.sight) : first.health = second.health :=
  congrArg Sight.health same

theorem lockChange_of_sight (same : first.sight = second.sight) :
    first.lockChange = second.lockChange := congrArg Sight.lockChange same

theorem lockState_of_sight (same : first.sight = second.sight) :
    first.lockState = second.lockState := by
  have fresh : first.lockChangeIsFresh = second.lockChangeIsFresh := congrArg Sight.fresh same
  rw [lockState, lockState, fresh, lockChange_of_sight same, health_of_sight same]

/-- No plain payload is about the lock. -/
theorem sight_afterPlain (env : Env) (node : Node) (payload : String) (subtopic : Subtopic) :
    (node.afterPlain env payload subtopic).sight = node.sight := by
  cases subtopic with
  | legacyStatus =>
      rw [afterPlain]
      exact field_accept sight fun online => rfl
  | status =>
      rw [afterPlain]
      exact field_accept sight fun online => rfl
  | security =>
      rw [afterPlain]
      exact field_accept sight fun value => rfl
  | backupStatus =>
      rw [afterPlain]
      exact field_accept sight fun outcome => rfl
  | state | health | lockLast | backupLast | lastAuth | guestStatus => rfl

theorem sight_withEvent (env : Env) (node : Node) (change : LockChange) :
    (node.withEvent env change).sight = ⟨node.nodeId, node.health, some change, true⟩ := by
  unfold withEvent
  dsimp only
  split
  · rfl
  · rfl

/-- A document changes what is shown by what was shown. -/
theorem sight_afterJson (same : first.sight = second.sight) (payload : Json)
    (subtopic : Subtopic) :
    (first.afterJson env householdId payload subtopic).sight =
      (second.afterJson env householdId payload subtopic).sight := by
  have named := nodeId_of_sight same
  have unseen {α β : Type} (one : Validated α) (other : Validated β) {change : α → Node}
      {alter : β → Node} (kept : ∀ value, (change value).sight = first.sight)
      (left : ∀ value, (alter value).sight = second.sight) :
      (first.accept one change).sight = (second.accept other alter).sight := by
    rw [field_accept sight kept, field_accept sight left, same]
  cases subtopic with
  | health =>
      have parsed : NodeHealth.fromDict payload householdId first.nodeId =
          NodeHealth.fromDict payload householdId second.nodeId := by rw [named]
      rw [afterJson, afterJson, parsed]
      cases NodeHealth.fromDict payload householdId second.nodeId with
      | ok health =>
          change (⟨first.nodeId, some health, first.lockChange, false⟩ : Sight) =
            ⟨second.nodeId, some health, second.lockChange, false⟩
          rw [named, lockChange_of_sight same]
      | error reason => exact same
  | lockLast =>
      have parsed : LockChange.fromDict payload householdId first.nodeId =
          LockChange.fromDict payload householdId second.nodeId := by rw [named]
      rw [afterJson, afterJson, parsed]
      cases LockChange.fromDict payload householdId second.nodeId with
      | ok change =>
          rw [accept, accept, sight_withEvent, sight_withEvent, named, health_of_sight same]
      | error reason => exact same
  | state =>
      rw [afterJson, afterJson]
      exact unseen _ _ (fun _ => rfl) fun _ => rfl
  | backupLast =>
      rw [afterJson, afterJson]
      exact unseen _ _ (fun _ => rfl) fun _ => rfl
  | lastAuth =>
      rw [afterJson, afterJson]
      exact unseen _ _ (fun _ => rfl) fun _ => rfl
  | guestStatus =>
      rw [afterJson, afterJson]
      exact unseen _ _ (fun _ => rfl) fun _ => rfl
  | legacyStatus | status | security | backupStatus => exact same

theorem sight_receive (same : first.sight = second.sight) (message : HomeKeyMessage) :
    (first.receive env householdId message).sight =
      (second.receive env householdId message).sight := by
  unfold receive
  cases Subtopic.ofString? message.subtopic with
  | none => exact same
  | some subtopic =>
      dsimp only
      split
      · cases Coordinator.decodeJson message.payload with
        | error reason => exact same
        | ok payload => exact sight_afterJson same payload subtopic
      · rw [sight_afterPlain, sight_afterPlain, same]

theorem sight_receiveAll (env : Subtopic → Env) (householdId : String)
    (messages : List HomeKeyMessage) (same : first.sight = second.sight) :
    (first.receiveAll env householdId messages).sight =
      (second.receiveAll env householdId messages).sight := by
  induction messages generalizing first second with
  | nil => exact same
  | cons message rest ih =>
      rw [receiveAll_cons, receiveAll_cons]
      exact ih (sight_receive same message)

theorem receive_online (env : Env) (householdId topicHousehold nodeId : String) (node : Node) :
    node.receive env householdId (.online topicHousehold nodeId) = node.shown env := by
  rw [receive, HomeKeyMessage.ofString?_subtopic_online]
  dsimp only
  rw [if_neg (by decide), HomeKeyMessage.online, afterPlain, Coordinator.parseOnline_online]
  rfl

end Node

namespace Coordinator

variable {coordinator before middle after : Coordinator} {nodeId : String}

/-- The record of a node, blank as long as nothing is known of it. -/
def record (coordinator : Coordinator) (nodeId : String) : Node :=
  (coordinator.ensureNode nodeId).2

theorem record_of_known {node : Node} (known : coordinator.getNode nodeId = some node) :
    coordinator.record nodeId = node := by
  rw [record, ensureNode_of_known known]

theorem record_congr (home : after.householdId = before.householdId)
    (same : after.getNode nodeId = before.getNode nodeId) :
    after.record nodeId = before.record nodeId := by
  unfold record ensureNode
  rw [same, home]
  cases before.getNode nodeId with
  | none => rfl
  | some node => rfl

theorem lockView_record (coordinator : Coordinator) (nodeId : String) :
    coordinator.lockView nodeId = (coordinator.record nodeId).lockView :=
  (ensureNode_lockView coordinator nodeId).symm

/-! ## Messages -/

/-- Nothing that is shown of a lock differs, and nothing was written. -/
structure SameSight (before after : Coordinator) : Prop where
  sight : ∀ nodeId, (after.record nodeId).sight = (before.record nodeId).sight
  logbook : after.logbook = before.logbook

theorem SameSight.of_registry (home : after.householdId = before.householdId)
    (nodes : after.nodes = before.nodes) (logbook : after.logbook = before.logbook) :
    SameSight before after := by
  refine ⟨fun nodeId => ?_, logbook⟩
  have same : after.getNode nodeId = before.getNode nodeId := by rw [getNode, getNode, nodes]
  rw [record_congr home same]

/-- A message about one node, which shows the lock as it was. -/
theorem SameSight.of_ingest {env : Subtopic → Env} {message : HomeKeyMessage}
    (about : message.About coordinator.householdId nodeId)
    (logbook : (coordinator.ingest env [message]).logbook = coordinator.logbook)
    (kept : ((coordinator.ingest env [message]).record nodeId).sight =
      (coordinator.record nodeId).sight) :
    SameSight coordinator (coordinator.ingest env [message]) := by
  refine ⟨fun other => ?_, logbook⟩
  by_cases same : other = nodeId
  · rw [same, kept]
  · have unmoved := @coordinator.getNode_ingest_of_ne _ nodeId env other _
      (List.forall_mem_singleton.mpr about) same
    rw [record_congr (householdId_ingest env coordinator [message]) unmoved]

theorem sameSight_offline (env : Subtopic → Env) (named : nodeId ≠ "") :
    SameSight coordinator (coordinator.ingest env
      [DirectPoller.offlineMessage coordinator.householdId nodeId]) := by
  refine .of_ingest (DirectPoller.about_offlineMessage _ _) ?_ ?_
  · have handled := @asyncHandleMessage_plain coordinator nodeId
      (DirectPoller.offlineMessage coordinator.householdId nodeId) .status (env .status) rfl rfl
      named rfl rfl
    rw [ingest_cons, ingest_nil, DirectPoller.ofString?_subtopic_offlineMessage, Option.getD_some,
      handled]
    exact ((sameView_handlePlain coordinator nodeId _ .status).trans
      (sameView_finish (env .status) _)).logbook
  · rw [record_of_known (getNode_ingest_offline env rfl named)]
    rfl

theorem sameSight_guest (env : Subtopic → Env) (named : nodeId ≠ "") (guest : Json) :
    SameSight coordinator (coordinator.ingest env
      [.document coordinator.householdId nodeId .guestStatus guest true]) := by
  refine .of_ingest ⟨rfl, rfl⟩ ?_ ?_
  · have effect := effect_asyncHandleMessage (env .guestStatus) coordinator
      (.document coordinator.householdId nodeId .guestStatus guest true)
    rw [lockReport_document _ named] at effect
    rw [ingest_cons, ingest_nil, HomeKeyMessage.ofString?_subtopic_document, Option.getD_some]
    exact SameView.logbook effect
  · rw [ingest_cons, ingest_nil, HomeKeyMessage.ofString?_subtopic_document, Option.getD_some]
    have handled := asyncHandleMessage_document (env .guestStatus) coordinator named
      (rfl : Subtopic.guestStatus.isJson = true) guest true
    have home := householdId_asyncHandleMessage (env .guestStatus) coordinator
      (.document coordinator.householdId nodeId .guestStatus guest true)
    cases read : GuestState.fromDict guest with
    | ok state =>
        refine (congrArg Node.sight (record_of_known ?_)).trans
          (rfl : Node.sight { coordinator.record nodeId with guest := some state } = _)
        rw [handled, getNode_finish, handleJson, handleGuestStatus, read]
        exact coordinator.getNode_update nodeId (fun node => { node with guest := some state })
          fun _ => rfl
    | error reason =>
        rw [record_congr home]
        rw [handled, getNode_finish, handleJson, handleGuestStatus, read]
        rfl

/-- A response moves the record of its node, and no other. -/
theorem record_ingest (env : Subtopic → Env) {state info : Dict} {messages : List HomeKeyMessage}
    (named : nodeId ≠ "")
    (made : stateToMessages state info coordinator.householdId nodeId = .ok messages)
    (other : String) :
    (coordinator.ingest env messages).record other =
      if other = nodeId then
        (coordinator.record nodeId).receiveAll env coordinator.householdId messages
      else coordinator.record other := by
  split
  · next same =>
      obtain ⟨rest, rfl, others⟩ := stateToMessages_online made
      rw [same, Node.receiveAll_cons, HomeKeyMessage.ofString?_subtopic_online, Option.getD_some,
        Node.receive_online]
      exact record_of_known (getNode_ingest_online env rfl named fun message member =>
        (others message member).1)
  · next apart =>
      exact record_congr (householdId_ingest env coordinator messages)
        (coordinator.getNode_ingest_of_ne (fun message => about_stateToMessages made) apart)

/-! ## Announcements -/

/-- Every entry that was written names the last event of its node. -/
def Current (before after : Coordinator) : Prop :=
  ∃ written, after.logbook = before.logbook ++ written ∧
    ∀ entry ∈ written, (after.lockView entry.nodeId).event = some entry.cause

theorem Current.of_sameView (same : SameView before after) : Current before after :=
  ⟨[], by rw [same.logbook, List.append_nil], fun entry member => by cases member⟩

/-- What was current stays so until another event arrives. -/
theorem Current.trans (first : Current before middle) (second : Current middle after)
    (kept : ∀ nodeId, (after.lockView nodeId).event = (middle.lockView nodeId).event) :
    Current before after := by
  obtain ⟨early, earlier, first⟩ := first
  obtain ⟨late, later, second⟩ := second
  refine ⟨early ++ late, by rw [later, earlier, List.append_assoc], ?_⟩
  intro entry member
  rcases List.mem_append.mp member with one | other
  · rw [kept]
    exact first entry one
  · exact second entry other

theorem Current.after_sameView (same : SameView before middle) (current : Current middle after) :
    Current before after := by
  obtain ⟨written, logbook, current⟩ := current
  exact ⟨written, by rw [logbook, same.logbook], current⟩

theorem mem_newEntries {env : Env} {node : Node} {context : Nat} {made : Option LockChangeKey}
    {entry : LogbookEntry} (member : entry ∈ newEntries env node context made) :
    entry.nodeId = node.nodeId ∧ made = some entry.cause := by
  unfold newEntries at member
  split at member
  · obtain ⟨cause, announced, rfl⟩ := List.mem_map.mp member
    exact ⟨rfl, Option.mem_toList.mp announced⟩
  · cases member

/-- A message announces the event that is the last one when it has been handled. -/
theorem current_asyncHandleMessage (env : Env) (coordinator : Coordinator)
    (message : HomeKeyMessage) :
    Current coordinator (coordinator.asyncHandleMessage env message).coordinator := by
  have effect := effect_asyncHandleMessage env coordinator message
  cases made : lockReport env coordinator.householdId message with
  | none =>
      rw [made] at effect
      exact .of_sameView effect
  | some entry =>
      obtain ⟨nodeId, report⟩ := entry
      rw [made] at effect
      have reported : Reported env _ _ nodeId report := effect
      obtain ⟨node, described, logbook⟩ := reported.logbook
      refine ⟨_, logbook, fun entry member => ?_⟩
      obtain ⟨named, announced⟩ := mem_newEntries member
      rw [named, described.named, reported.view]
      cases report with
      | event cause timely =>
          obtain ⟨same, -⟩ := Announcer.announces_event_eq_some announced
          rw [same]
          rfl
      | snapshot reading =>
          obtain ⟨recorded, -⟩ := Announcer.announces_snapshot_eq_some announced
          exact recorded

/-- Only an event replaces the last event of a node. -/
theorem event_asyncHandleMessage (env : Env) {message : HomeKeyMessage}
    (about : message.About coordinator.householdId nodeId)
    (eventless : message.subtopic ≠ Subtopic.lockLast.spelling) (other : String) :
    ((coordinator.asyncHandleMessage env message).coordinator.lockView other).event =
      (coordinator.lockView other).event := by
  have effect := effect_asyncHandleMessage env coordinator message
  cases made : lockReport env coordinator.householdId message with
  | none =>
      rw [made] at effect
      exact congrArg Announcer.event (SameView.view effect other)
  | some entry =>
      obtain ⟨named, report⟩ := entry
      rw [made] at effect
      have reported : Reported env _ _ named report := effect
      cases report with
      | event cause timely =>
          exact absurd ((lockReport_of_about about made).2 cause timely rfl) eventless
      | snapshot reading =>
          by_cases same : other = named
          · rw [same, reported.view]
            rfl
          · rw [reported.others other same]

theorem current_ingest (env : Subtopic → Env) {messages : List HomeKeyMessage}
    (about : ∀ message ∈ messages, message.About coordinator.householdId nodeId)
    (eventless : ∀ message ∈ messages, message.subtopic ≠ Subtopic.lockLast.spelling) :
    Current coordinator (coordinator.ingest env messages) ∧
      ∀ other, ((coordinator.ingest env messages).lockView other).event =
        (coordinator.lockView other).event := by
  induction messages generalizing coordinator with
  | nil => exact ⟨.of_sameView (.refl coordinator), fun _ => rfl⟩
  | cons message rest ih =>
      rw [ingest_cons]
      have arrived := current_asyncHandleMessage
        (env ((Subtopic.ofString? message.subtopic).getD .status)) coordinator message
      have unreplaced := event_asyncHandleMessage
        (env ((Subtopic.ofString? message.subtopic).getD .status))
        (about message List.mem_cons_self) (eventless message List.mem_cons_self)
      have home := householdId_asyncHandleMessage
        (env ((Subtopic.ofString? message.subtopic).getD .status)) coordinator message
      generalize (coordinator.asyncHandleMessage
        (env ((Subtopic.ofString? message.subtopic).getD .status)) message).coordinator = handled
        at arrived unreplaced home ⊢
      obtain ⟨current, kept⟩ := @ih handled
        (fun later member => home ▸ about later (List.mem_cons_of_mem message member))
        (fun later member => eventless later (List.mem_cons_of_mem message member))
      exact ⟨arrived.trans current kept, fun other => (kept other).trans (unreplaced other)⟩

/-- A response announces the event that its node shows after it. -/
theorem current_ingest_response (env : Subtopic → Env) {state info : Dict}
    {messages : List HomeKeyMessage} (named : nodeId ≠ "")
    (made : stateToMessages state info coordinator.householdId nodeId = .ok messages) :
    Current coordinator (coordinator.ingest env messages) := by
  obtain ⟨rest, rfl, others⟩ := stateToMessages_split made
  obtain ⟨shown, online, unseen, -⟩ := @handled_online coordinator _ nodeId (env .status) rfl named
  have home := unseen.householdId
  rw [ingest_cons, HomeKeyMessage.ofString?_subtopic_online, Option.getD_some, online,
    ingest_append]
  have first : Current shown (shown.ingest env
      (lockLastMessages state coordinator.householdId nodeId)) := by
    unfold lockLastMessages
    split
    · split
      · exact current_asyncHandleMessage _ shown _
      · exact .of_sameView (.refl shown)
    · exact .of_sameView (.refl shown)
  have about : ∀ message ∈ rest, message.About (shown.ingest env
      (lockLastMessages state coordinator.householdId nodeId)).householdId nodeId := by
    intro message member
    rw [householdId_ingest, home]
    exact (others message member).1
  have eventless : ∀ message ∈ rest, message.subtopic ≠ Subtopic.lockLast.spelling := by
    intro message member
    obtain ⟨-, subtopic, spelled, -, apart⟩ := others message member
    rw [spelled]
    exact Subtopic.spelling_injective.ne apart
  obtain ⟨second, kept⟩ := current_ingest env about eventless
  exact .after_sameView unseen (first.trans second kept)

end Coordinator

/-! ## What polls leave alone -/

namespace DirectPoller

open Coordinator

variable {poller : DirectPoller} {coordinator : Coordinator}

theorem sameSight_offlineMessages (env : Subtopic → Env)
    (home : poller.householdId = coordinator.householdId)
    (named : ∀ nodeId, poller.nodeId = some nodeId → nodeId ≠ "") :
    SameSight coordinator (coordinator.ingest env poller.offlineMessages) := by
  unfold offlineMessages
  cases known : poller.nodeId with
  | none => exact .of_registry rfl rfl rfl
  | some nodeId =>
      rw [home]
      exact sameSight_offline env (named nodeId known)

theorem sameSight_guestReplies (env : Subtopic → Env) (reply : Reply)
    (home : poller.householdId = coordinator.householdId) {nodeId : String} (named : nodeId ≠ "") :
    SameSight coordinator (coordinator.ingest env (poller.guestReplies reply nodeId)) := by
  unfold guestReplies
  split
  · rw [home]
    exact sameSight_guest env named _
  · exact .of_registry rfl rfl rfl

end DirectPoller

/-! ## Runs -/

/-- The record of a node after replies about it. -/
def Node.received (householdId : String) (node : Node) (replies : List Ingested) : Node :=
  replies.foldl (fun record reply => record.receiveAll reply.env householdId reply.messages) node

theorem Node.received_nil (householdId : String) (node : Node) :
    node.received householdId [] = node := rfl

theorem Node.received_cons (householdId : String) (node : Node) (reply : Ingested)
    (replies : List Ingested) :
    node.received householdId (reply :: replies) =
      (node.receiveAll reply.env householdId reply.messages).received householdId replies := rfl

theorem Node.received_append (householdId : String) (node : Node) (replies : List Ingested)
    (reply : Ingested) :
    node.received householdId (replies ++ [reply]) =
      (node.received householdId replies).receiveAll reply.env householdId reply.messages := by
  rw [received, List.foldl_append]
  rfl

namespace Polling

variable {start : Coordinator} {polling : Polling} {event : PollEvent} {reply : Ingested}
  {householdId : String}

/-- The replies about a node that were ingested, as they arrived. -/
def arrivedOf (polling : Polling) (nodeId : String) : List Ingested :=
  polling.ingested.filter fun reply => reply.nodeId = nodeId

/-- The same replies, as the device sampled them. -/
def sampledOf (polling : Polling) (nodeId : String) : List Ingested :=
  (polling.arrivedOf nodeId).insertionSort fun first second => first.sample ≤ second.sample

/-- The record of a node that gets its replies as they were sampled, the last sampled
one last. -/
def sampledRecord (start : Coordinator) (polling : Polling) (nodeId : String) : Node :=
  (start.record nodeId).received start.householdId (polling.sampledOf nodeId)

/-- No reply about a node has overwritten a later sampled one. -/
structure ShowsLastSampled (start : Coordinator) (polling : Polling) : Prop where
  health : ∀ nodeId, (polling.coordinator.record nodeId).health =
    (polling.sampledRecord start nodeId).health
  lockChange : ∀ nodeId, (polling.coordinator.record nodeId).lockChange =
    (polling.sampledRecord start nodeId).lockChange
  lockState : ∀ nodeId, (polling.coordinator.record nodeId).lockState =
    (polling.sampledRecord start nodeId).lockState

/-- No entry that is written names a lock event which a later sampled reply has
superseded. -/
def AnnouncesLastSampled (start : Coordinator) (polling : Polling) (event : PollEvent) : Prop :=
  ∃ written, (polling.step event).coordinator.logbook = polling.coordinator.logbook ++ written ∧
    ∀ entry ∈ written,
      ((polling.step event).sampledRecord start entry.nodeId).lockChangeKey = some entry.cause

/-- A reply arrives after a later sampled one about its node. -/
inductive Overtaken (polling : Polling) : PollEvent → Prop where
  | shown {id env scheduled info sample reply poller nodeId messages later}
      (waiting : polling.tasks id = some ⟨scheduled, .sampled info sample reply⟩)
      (responded : polling.poller.respond info reply = (poller, .shown nodeId messages))
      (ingested : later ∈ polling.ingested) (same : later.nodeId = nodeId)
      (sampled : sample < later.sample) : Overtaken polling (.shown id env)

/-- An event ingests a reply. -/
structure Ingests (polling : Polling) (event : PollEvent) (reply : Ingested) : Prop where
  coordinator : (polling.step event).coordinator =
    polling.coordinator.ingest reply.env reply.messages
  ingested : (polling.step event).ingested = polling.ingested ++ [reply]
  named : reply.nodeId ≠ ""
  made : ∃ state told, stateToMessages state told polling.coordinator.householdId reply.nodeId =
    .ok reply.messages
  overtaken : ∀ later ∈ polling.ingested, later.nodeId = reply.nodeId →
    reply.sample < later.sample → polling.Overtaken event

/-- An event that ingests no reply shows every lock as it was. -/
theorem sameSight_or_ingests (sound : Sound householdId polling) (event : PollEvent) :
    (Coordinator.SameSight polling.coordinator (polling.step event).coordinator ∧
        (polling.step event).ingested = polling.ingested) ∨
      ∃ reply, polling.Ingests event reply := by
  have home : polling.poller.householdId = polling.coordinator.householdId :=
    sound.home.trans sound.registry.symm
  have kept : Coordinator.SameSight polling.coordinator polling.coordinator :=
    .of_registry rfl rfl rfl
  have moves := polling.moves_step event
  generalize after_eq : polling.step event = after at moves ⊢
  cases moves with
  | idle => exact Or.inl ⟨kept, rfl⟩
  | begin active => exact Or.inl ⟨kept, rfl⟩
  | told waiting answered => exact Or.inl ⟨kept, rfl⟩
  | sample waiting => exact Or.inl ⟨kept, rfl⟩
  | counted counts =>
      refine Or.inl ⟨?_, rfl⟩
      rw [coordinator_countFailure]
      split
      · exact DirectPoller.sameSight_offlineMessages _ home sound.named
      · exact kept
  | dropped poller learnt keeps named => exact Or.inl ⟨kept, rfl⟩
  | foreign poller keeps waiting responded =>
      refine Or.inl ?_
      split
      · exact ⟨kept, rfl⟩
      · exact ⟨kept, rfl⟩
  | @shown id env scheduled info sample reply nodeId messages poller keeps waiting responded named
      made =>
      refine Or.inr ⟨⟨sample, nodeId, messages, env⟩, ?_, ?_, named, ?_, ?_⟩
      · rw [after_eq]
      · rw [after_eq]
      · rw [← home]
        exact made
      · intro later member same sampled
        exact .shown waiting responded member same sampled
  | @guest id reply env scheduled nodeId waiting =>
      exact Or.inl ⟨DirectPoller.sameSight_guestReplies env reply home
        (sound.guests id scheduled nodeId waiting), rfl⟩
  | unload loaded => exact Or.inl ⟨.of_registry rfl rfl rfl, rfl⟩

theorem arrivedOf_append (ingests : polling.Ingests event reply) (nodeId : String) :
    (polling.step event).arrivedOf nodeId =
      polling.arrivedOf nodeId ++ if reply.nodeId = nodeId then [reply] else [] := by
  rw [arrivedOf, ingests.ingested, List.filter_append, arrivedOf]
  congr 1
  by_cases same : reply.nodeId = nodeId
  · simp [same]
  · simp [same]

theorem arrivedOf_congr (kept : (polling.step event).ingested = polling.ingested)
    (nodeId : String) : (polling.step event).arrivedOf nodeId = polling.arrivedOf nodeId := by
  rw [arrivedOf, kept, arrivedOf]

/-- The registry shows the replies in the order they arrived. -/
structure ShowsArrived (start : Coordinator) (polling : Polling) : Prop where
  sound : Sound start.householdId polling
  sight : ∀ nodeId, (polling.coordinator.record nodeId).sight =
    ((start.record nodeId).received start.householdId (polling.arrivedOf nodeId)).sight

theorem ShowsArrived.step (shows : ShowsArrived start polling) (event : PollEvent) :
    ShowsArrived start (polling.step event) := by
  refine ⟨shows.sound.step event, fun nodeId => ?_⟩
  rcases sameSight_or_ingests shows.sound event with ⟨same, kept⟩ | ⟨reply, ingests⟩
  · rw [same.sight, shows.sight, arrivedOf_congr kept]
  · obtain ⟨state, told, made⟩ := ingests.made
    rw [ingests.coordinator, Coordinator.record_ingest reply.env ingests.named made,
      arrivedOf_append ingests]
    by_cases same : nodeId = reply.nodeId
    · subst same
      rw [if_pos rfl, if_pos rfl, Node.received_append, shows.sound.registry]
      exact Node.sight_receiveAll reply.env _ reply.messages (shows.sight reply.nodeId)
    · rw [if_neg same, if_neg (Ne.symm same), List.append_nil, shows.sight]

/-- The replies about every node arrived as they were sampled. -/
def InOrder (polling : Polling) : Prop :=
  ∀ nodeId, (polling.arrivedOf nodeId).Pairwise fun first second => first.sample ≤ second.sample

theorem InOrder.step (ordered : polling.InOrder) (sound : Sound householdId polling)
    (punctual : ¬ polling.Overtaken event) : (polling.step event).InOrder := by
  intro nodeId
  rcases sameSight_or_ingests sound event with ⟨same, kept⟩ | ⟨reply, ingests⟩
  · rw [arrivedOf_congr kept]
    exact ordered nodeId
  · rw [arrivedOf_append ingests]
    split
    · next about =>
        refine List.pairwise_append.mpr ⟨ordered nodeId, List.pairwise_singleton _ reply, ?_⟩
        intro earlier arrived last latest
        rw [List.mem_singleton.mp latest]
        by_contra overtakes
        obtain ⟨member, same⟩ := List.mem_filter.mp arrived
        exact punctual (ingests.overtaken earlier member
          ((of_decide_eq_true same).trans about.symm) (not_le.mp overtakes))
    · rw [List.append_nil]
      exact ordered nodeId

/-- Replies that arrive as they were sampled leave the record of the last sampled. -/
theorem sight_of_inOrder (shows : ShowsArrived start polling) (ordered : polling.InOrder)
    (nodeId : String) :
    (polling.coordinator.record nodeId).sight = (polling.sampledRecord start nodeId).sight := by
  rw [sampledRecord, sampledOf, (ordered nodeId).insertionSort_eq]
  exact shows.sight nodeId

theorem announces_of_inOrder (shows : ShowsArrived start polling)
    (ordered : (polling.step event).InOrder) : polling.AnnouncesLastSampled start event := by
  rcases sameSight_or_ingests shows.sound event with ⟨same, -⟩ | ⟨reply, ingests⟩
  · exact ⟨[], by rw [same.logbook, List.append_nil], fun entry member => by cases member⟩
  · obtain ⟨state, told, made⟩ := ingests.made
    obtain ⟨written, logbook, current⟩ :=
      Coordinator.current_ingest_response reply.env ingests.named made
    rw [← ingests.coordinator] at logbook current
    refine ⟨written, logbook, fun entry member => ?_⟩
    rw [← current entry member, Coordinator.lockView_record]
    have same := Node.lockChange_of_sight (sight_of_inOrder (shows.step event) ordered entry.nodeId)
    exact congrArg (Option.map LockChange.key) same.symm

theorem showsArrived_new (client : DirectClient) (householdId : String)
    (pool : Option (Keyed Node.nodeId)) :
    ShowsArrived (.new householdId pool) (new client householdId pool) :=
  ⟨sound_new client householdId pool, fun _ => rfl⟩

theorem showsArrived_run (client : DirectClient) (householdId : String)
    (pool : Option (Keyed Node.nodeId)) (events : List PollEvent) :
    ShowsArrived (.new householdId pool)
      (run Polling.step (new client householdId pool) events) := by
  have keeps (polling : Polling) (event : PollEvent)
      (shows : ShowsArrived (.new householdId pool) polling) :
      ShowsArrived (.new householdId pool) (polling.step event) := shows.step event
  exact run_keeps keeps (showsArrived_new client householdId pool) events

/-- As long as no reply overtakes another about its node, overlapping polls show the
last sampled reply and announce no event that is superseded. -/
theorem last_sampled_shown {client : DirectClient} {householdId : String}
    {pool : Option (Keyed Node.nodeId)} {events : List PollEvent}
    (punctual : Along Polling.step (fun polling event => ¬ polling.Overtaken event)
      (new client householdId pool) events) :
    ShowsLastSampled (.new householdId pool)
        (run Polling.step (new client householdId pool) events) ∧
      Along Polling.step (AnnouncesLastSampled (.new householdId pool))
        (new client householdId pool) events := by
  have initially : ShowsArrived (.new householdId pool) (new client householdId pool) ∧
      (new client householdId pool).InOrder :=
    ⟨showsArrived_new client householdId pool, fun _ => List.Pairwise.nil⟩
  have keeps (polling : Polling) (event : PollEvent)
      (orderly : ShowsArrived (.new householdId pool) polling ∧ polling.InOrder)
      (timely : ¬ polling.Overtaken event) :
      ShowsArrived (.new householdId pool) (polling.step event) ∧ (polling.step event).InOrder :=
    ⟨orderly.1.step event, orderly.2.step orderly.1.sound timely⟩
  obtain ⟨shows, ordered⟩ := run_invariant keeps initially punctual
  have same := sight_of_inOrder shows ordered
  refine ⟨⟨fun nodeId => Node.health_of_sight (same nodeId),
    fun nodeId => Node.lockChange_of_sight (same nodeId),
    fun nodeId => Node.lockState_of_sight (same nodeId)⟩, ?_⟩
  refine Along.of_invariant keeps (fun polling event orderly timely => ?_) initially punctual
  exact announces_of_inOrder orderly.1 (orderly.2.step orderly.1.sound timely)

/-! ## Two polls at once -/

/-- What the sample device answers when its lock is as given. -/
def lockReply (current : Int) : Dict :=
  DirectEntry.identityOf "GATE-001" ++
    [("lock", .obj [("available", .bool true), ("current", .int current)])]

def lockMessages (current : Int) : List HomeKeyMessage :=
  [.online "HOME001" "GATE-001",
    .document "HOME001" "GATE-001" .state (.obj (DirectEntry.identityOf "GATE-001")) true,
    .document "HOME001" "GATE-001" .health
      (.obj [("network", .str "UNKNOWN"), ("certificate", .str "unknown"), ("nfc", .str "ERROR"),
        ("mqtt", .str "ERROR"), ("lock_current", .int current)]) false]

theorem messagesOf_lockReply (current : Int) :
    DirectPoller.messagesOf (.obj (lockReply current)) (.obj []) "HOME001" "GATE-001" =
      .ok (lockMessages current) := by
  rfl

theorem receiveAll_lockMessages (env : Subtopic → Env) {node : Node}
    (named : node.nodeId = "GATE-001") (current : Int) :
    (node.receiveAll env "HOME001" (lockMessages current)).nodeId = "GATE-001" ∧
      (node.receiveAll env "HOME001" (lockMessages current)).health.bind NodeHealth.lockCurrent =
        some current := by
  rw [lockMessages, Node.receiveAll_cons, Node.receive_online, Node.receiveAll_cons,
    Node.receive_document _ _ rfl, Node.receiveAll_cons, Node.receive_document _ _ rfl,
    Node.receiveAll_nil]
  generalize stated : ((node.shown _).afterJson _ _ _ .state) = merged
  have kept : merged.nodeId = "GATE-001" := by
    rw [← stated, Node.afterJson, ← named]
    exact Node.field_accept Node.nodeId fun incoming => rfl
  rw [Node.afterJson, kept]
  exact ⟨rfl, rfl⟩

/-- The second of two answers is shown. -/
theorem lockCurrent_received {node : Node} (named : node.nodeId = "GATE-001")
    {first second : Ingested} {before after : Int} (earlier : first.messages = lockMessages before)
    (later : second.messages = lockMessages after) :
    (node.received "HOME001" [first, second]).health.bind NodeHealth.lockCurrent = some after := by
  rw [Node.received_cons, Node.received_cons, Node.received_nil, earlier, later]
  exact (receiveAll_lockMessages _ (receiveAll_lockMessages _ named before).1 after).2

/-- A scheduled poll and one after a command, each with its answer under way. -/
def twoPolls : List PollEvent :=
  [.begin true, .told 0 (.answer (.obj [])) (fun _ => DirectEntry.quietEnv),
    .sample 0 (.answer (.obj (lockReply 0)))] ++
  [.begin false, .told 1 (.answer (.obj [])) (fun _ => DirectEntry.quietEnv),
    .sample 1 (.answer (.obj (lockReply 1)))]

/-- The answers arrive as they were sampled. -/
def punctualPolls : List PollEvent :=
  twoPolls ++ [.shown 0 fun _ => DirectEntry.quietEnv, .shown 1 fun _ => DirectEntry.quietEnv]

/-- The later answer arrives first. -/
def overtakenPolls : List PollEvent :=
  twoPolls ++ [.shown 1 fun _ => DirectEntry.quietEnv, .shown 0 fun _ => DirectEntry.quietEnv]

def bothAsked : Polling :=
  ((new DirectEntry.sampleClient "HOME001" none).asked true (.obj [])
    (.answer (.obj (lockReply 0)))).asked false (.obj []) (.answer (.obj (lockReply 1)))

theorem run_twoPolls :
    run step (new DirectEntry.sampleClient "HOME001" none) twoPolls = bothAsked := by
  have first := run_asked (new DirectEntry.sampleClient "HOME001" none) true []
    (.answer (.obj (lockReply 0))) (fun _ => DirectEntry.quietEnv) fun _ => rfl
  have second := run_asked ((new DirectEntry.sampleClient "HOME001" none).asked true (.obj [])
    (.answer (.obj (lockReply 0)))) false [] (.answer (.obj (lockReply 1)))
    (fun _ => DirectEntry.quietEnv) nofun
  rw [twoPolls, run_append]
  exact (congrArg (fun polling => run step polling _) first).trans second

/-- The sample device's answer arrives. -/
theorem step_lockReply {polling : Polling} {id sample : Nat} {scheduled : Bool} {current : Int}
    (waiting : polling.tasks id =
      some ⟨scheduled, .sampled (.obj []) sample (.answer (.obj (lockReply current)))⟩)
    (home : polling.poller.householdId = "HOME001") (env : Subtopic → Env) :
    polling.step (.shown id env) =
      { polling.put id (some ⟨scheduled, .guest "GATE-001"⟩) with
        poller := { polling.poller with nodeId := some "GATE-001" }
        coordinator := polling.coordinator.ingest env (lockMessages current)
        ingested := polling.ingested ++ [⟨sample, "GATE-001", lockMessages current, env⟩] } := by
  apply step_answered waiting
  · rw [home]
    rfl
  · rw [home]
    exact messagesOf_lockReply current

theorem along_twoPolls :
    Along step (fun polling event => ¬ polling.Overtaken event)
      (new DirectEntry.sampleClient "HOME001" none) twoPolls := by
  have silent : ∀ event ∈ twoPolls, ∀ polling : Polling, ¬ polling.Overtaken event := by
    intro event member polling
    simp only [twoPolls, List.mem_append, List.mem_cons, List.not_mem_nil, or_false] at member
    rcases member with (rfl | rfl | rfl) | (rfl | rfl | rfl) <;> exact nofun
  exact Along.of_invariant (fun _ _ _ _ => trivial)
    (fun polling event (_ : True) silent => silent polling) trivial (along_of_forall silent _)

/-- Two polls at once show the answer to the second. -/
theorem punctual_polls_shown :
    ShowsLastSampled (.new "HOME001")
        (run step (new DirectEntry.sampleClient "HOME001" none) punctualPolls) ∧
      Along step (AnnouncesLastSampled (.new "HOME001"))
        (new DirectEntry.sampleClient "HOME001" none) punctualPolls := by
  apply last_sampled_shown
  refine along_append.mpr ⟨along_twoPolls, ?_⟩
  rw [run_twoPolls]
  refine ⟨?_, ?_, trivial⟩
  · rintro ⟨-, -, ingested, -, -⟩
    cases ingested
  · rw [@step_lockReply bothAsked 0 0 true 0 rfl rfl]
    rintro ⟨-, -, ingested, -, sampled⟩
    cases List.mem_singleton.mp ingested
    cases sampled

/-- An answer that is overtaken is shown in place of the later one. -/
theorem overtaken_reply_shown :
    ¬ ∀ (client : DirectClient) (householdId : String) (pool : Option (Keyed Node.nodeId))
      (events : List PollEvent),
        ShowsLastSampled (.new householdId pool) (run step (new client householdId pool) events) ∧
          Along step (AnnouncesLastSampled (.new householdId pool)) (new client householdId pool)
            events := by
  intro shows
  have last := (shows DirectEntry.sampleClient "HOME001" none overtakenPolls).1.health "GATE-001"
  have arrived := (showsArrived_run DirectEntry.sampleClient "HOME001" none
    overtakenPolls).sight "GATE-001"
  have ingested : (run step (new DirectEntry.sampleClient "HOME001" none)
      overtakenPolls).arrivedOf "GATE-001" =
      [⟨1, "GATE-001", lockMessages 1, fun _ => DirectEntry.quietEnv⟩,
        ⟨0, "GATE-001", lockMessages 0, fun _ => DirectEntry.quietEnv⟩] := by
    rw [overtakenPolls, run_append, run_twoPolls, run_cons,
      @step_lockReply bothAsked 1 1 false 1 rfl rfl, run_cons,
      @step_lockReply _ 0 0 true 0 rfl rfl, run_nil, arrivedOf]
    exact List.filter_eq_self.mpr (by simp [bothAsked, asked, put, new])
  have sorted : [⟨1, "GATE-001", lockMessages 1, fun _ => DirectEntry.quietEnv⟩,
        ⟨0, "GATE-001", lockMessages 0, fun _ => DirectEntry.quietEnv⟩].insertionSort
          (fun first second : Ingested => first.sample ≤ second.sample) =
      [⟨0, "GATE-001", lockMessages 0, fun _ => DirectEntry.quietEnv⟩,
        ⟨1, "GATE-001", lockMessages 1, fun _ => DirectEntry.quietEnv⟩] := rfl
  rw [sampledRecord, sampledOf, ingested, sorted, Node.health_of_sight arrived, ingested] at last
  have home : (Coordinator.new "HOME001").householdId = "HOME001" := rfl
  rw [home] at last
  have blank : ((Coordinator.new "HOME001").record "GATE-001").nodeId = "GATE-001" := rfl
  have shown := lockCurrent_received blank
    (rfl : (Ingested.mk 1 "GATE-001" (lockMessages 1) fun _ => DirectEntry.quietEnv).messages = _)
    (rfl : (Ingested.mk 0 "GATE-001" (lockMessages 0) fun _ => DirectEntry.quietEnv).messages = _)
  rw [last, lockCurrent_received blank rfl rfl] at shown
  cases shown

end Polling

end HomeKeyHousehold
