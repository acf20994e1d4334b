import HomeKeyHousehold.Naming
import HomeKeyHousehold.Record

/-!
# Naming the person of a tap over both transports

The firmware publishes the authorisation of a tap before the lock change it
led to.  A direct response is replayed the other way round, so the entry of the
change is written from the authorisation that was on record before the poll.
-/

namespace HomeKeyHousehold

open Library

namespace Coordinator

variable {env : Env} {coordinator : Coordinator} {householdId nodeId : String}
variable {message : HomeKeyMessage}

/-- An entry depends on what its node is called and who is named for it. -/
theorem lockCauseEntry_congr (env : Env) {first second : Node} {cause : LockChangeKey}
    (nodeId : first.nodeId = second.nodeId) (nodeName : first.nodeName = second.nodeName)
    (actor : actorFor first cause.source cause.timestamp =
      actorFor second cause.source cause.timestamp) (context : Nat) :
    lockCauseEntry env first cause context = lockCauseEntry env second cause context := by
  unfold lockCauseEntry
  rw [nodeId, nodeName, actor]

/-! ## Messages that write nothing -/

/-- The lock's last event has been announced. -/
def Caught (coordinator : Coordinator) (nodeId : String) : Prop :=
  (coordinator.lockView nodeId).announced = (coordinator.lockView nodeId).event

theorem lockReport_of_about (about : message.About householdId nodeId) {other : String}
    {report : LockReport} (made : lockReport env householdId message = some (other, report)) :
    other = nodeId ∧ ∀ cause timely, report = .event cause timely →
      message.subtopic = Subtopic.lockLast.spelling := by
  unfold lockReport at made
  split at made
  · split at made
    · next subtopic named document spelled addressed loaded =>
        have same : named = nodeId := by
          rw [namedNode, about.2, Option.filter_eq_some_iff] at addressed
          exact (Option.some.inj addressed.1).symm
        unfold documentReport at made
        split at made
        · split at made
          · cases made
            exact ⟨same, fun _ _ snapshot => by cases snapshot⟩
          · cases made
        · split at made
          · cases made
            exact ⟨same, fun _ _ _ => (Subtopic.spelling_of_ofString? spelled).symm⟩
          · cases made
        · cases made
    · cases made
  · cases made

/-- Once the last event is announced, a message that brings no event writes
nothing. -/
theorem quiet_asyncHandleMessage (env : Env) (about : message.About coordinator.householdId nodeId)
    (eventless : message.subtopic ≠ Subtopic.lockLast.spelling)
    (caught : coordinator.Caught nodeId) :
    (coordinator.asyncHandleMessage env message).coordinator.householdId =
        coordinator.householdId ∧
      (coordinator.asyncHandleMessage env message).coordinator.Caught nodeId ∧
      (coordinator.asyncHandleMessage env message).coordinator.logbook = coordinator.logbook := by
  have effect := effect_asyncHandleMessage env coordinator message
  cases made : lockReport env coordinator.householdId message with
  | none =>
      rw [made] at effect
      have same : SameView _ _ := effect
      refine ⟨same.householdId, ?_, same.logbook⟩
      rw [Caught, same.view]
      exact caught
  | some entry =>
      obtain ⟨other, report⟩ := entry
      rw [made] at effect
      have reported : Reported env _ _ other report := effect
      obtain ⟨rfl, spelled⟩ := lockReport_of_about about made
      cases report with
      | event cause timely => exact absurd (spelled cause timely rfl) eventless
      | snapshot reading =>
          refine ⟨reported.householdId, ?_, ?_⟩
          · rw [Caught, reported.view]
            exact caught
          · obtain ⟨node, -, logbook⟩ := reported.logbook
            have silent : (coordinator.lockView other).announces eventValue isReportable
                (.snapshot reading) = none := by
              cases announced : (coordinator.lockView other).announces eventValue isReportable
                  (.snapshot reading) with
              | none => rfl
              | some cause =>
                  obtain ⟨recorded, -, -, unannounced, -⟩ :=
                    Announcer.announces_snapshot_eq_some announced
                  exact absurd (caught.trans recorded) unannounced
            rw [logbook, silent, newEntries, Option.toList_none, List.map_nil, ite_self,
              List.append_nil]

theorem quiet_ingest (env : Subtopic → Env) {messages : List HomeKeyMessage}
    (about : ∀ message ∈ messages, message.About coordinator.householdId nodeId)
    (eventless : ∀ message ∈ messages, message.subtopic ≠ Subtopic.lockLast.spelling)
    (caught : coordinator.Caught nodeId) :
    (coordinator.ingest env messages).logbook = coordinator.logbook := by
  induction messages generalizing coordinator with
  | nil => rfl
  | cons message rest ih =>
      obtain ⟨home, still, kept⟩ := quiet_asyncHandleMessage
        (env ((Subtopic.ofString? message.subtopic).getD .status))
        (about message List.mem_cons_self) (eventless message List.mem_cons_self) caught
      rw [ingest_cons, ih ?_ ?_ still, kept]
      · intro later member
        rw [home]
        exact about later (List.mem_cons_of_mem message member)
      · exact fun later member => eventless later (List.mem_cons_of_mem message member)

/-! ## Single messages -/

/-- A node is described by the record that is found. -/
theorem Described.of_found {node found : Node} (described : Described coordinator nodeId node)
    (known : coordinator.getNode nodeId = some found) :
    node.nodeId = nodeId ∧ node.nodeName = found.nodeName ∧ node.lastAuth = found.lastAuth := by
  obtain ⟨named, nodeName, lastAuth⟩ := described
  rw [ensureNode_of_known known] at nodeName lastAuth
  exact ⟨named, nodeName, lastAuth⟩

/-- A recent tap that was not announced yet is announced when it arrives. -/
theorem entry_lockLast {env : Env} (same : coordinator.householdId = householdId)
    (named : nodeId ≠ "") {document : Json} {change : LockChange}
    (parsed : LockChange.fromDict document householdId nodeId = .ok change)
    (homekey : change.source = .homekey) (recent : isRecent env change.timestamp = .ok true)
    (works : env.logbookWorks = true)
    (unannounced : (coordinator.lockView nodeId).announced ≠ some change.key) :
    ∃ node after, Described coordinator nodeId node ∧
      (coordinator.asyncHandleMessage env
          (.document householdId nodeId .lockLast document true)).coordinator = after ∧
      after.householdId = householdId ∧ after.Caught nodeId ∧
      after.logbook =
        coordinator.logbook ++ [lockCauseEntry env node change.key coordinator.contexts] := by
  subst same
  have effect := effect_asyncHandleMessage env coordinator
    (.document coordinator.householdId nodeId .lockLast document true)
  have made : documentReport env coordinator.householdId nodeId document .lockLast =
      some (nodeId, .event change.key true) := by
    rw [documentReport, parsed]
    dsimp only
    rw [isTimely, recent]
  rw [lockReport_document env named, made] at effect
  have reported : Reported env _ _ nodeId (.event change.key true) := effect
  have announced : (coordinator.lockView nodeId).announces eventValue isReportable
      (.event change.key true) = some change.key := by
    have initiated : isReportable change.key = true := by
      rw [isReportable, LockChange.key, homekey]
      rfl
    rw [Announcer.announces, if_pos ⟨initiated, unannounced, rfl⟩]
  obtain ⟨node, described, logbook⟩ := reported.logbook
  refine ⟨node, _, described, rfl, reported.householdId, ?_, ?_⟩
  · rw [Caught, reported.view, Announcer.next, announced]
    rfl
  · rw [logbook, announced, newEntries, if_pos works]
    rfl

end Coordinator

/-! ## Responses -/

/-- What a response says about a tap of a named person: a HomeKey event, and an
accepted authorisation of that person with the stamp of the event. -/
structure NamedTap (householdId nodeId issuer : String) (state : Dict) where
  lockLast : Dict
  lastAuth : Dict
  change : LockChange
  auth : LastAuth
  hasLockLast : Json.get state "lock_last" = .obj lockLast
  hasLastAuth : Json.get state "last_auth" = .obj lastAuth
  changed : LockChange.fromDict (.obj lockLast) householdId nodeId = .ok change
  authorised : LastAuth.fromDict (.obj lastAuth) householdId nodeId = .ok auth
  homekey : change.source = .homekey
  success : auth.result = .success
  named : auth.issuer = some issuer
  person : issuer ≠ ""
  together : auth.timestamp = change.timestamp

namespace NamedTap

variable {householdId nodeId issuer : String} {state info : Dict}

/-- The messages of the tap over MQTT, in the order the firmware publishes them. -/
def published (tap : NamedTap householdId nodeId issuer state) : List HomeKeyMessage :=
  [.document householdId nodeId .lastAuth (.obj tap.lastAuth) true,
    .document householdId nodeId .lockLast (.obj tap.lockLast) true]

end NamedTap

namespace NamedTap

variable {householdId nodeId issuer : String} {state info : Dict}

theorem lockLastMessages_eq (tap : NamedTap householdId nodeId issuer state) :
    lockLastMessages state householdId nodeId =
      [.document householdId nodeId .lockLast (.obj tap.lockLast) true] := by
  obtain ⟨text, found, filled⟩ := LockChange.source_of_fromDict tap.changed
  have truthy : (Json.str text).truthy = true := by simp [Json.truthy, filled]
  rw [lockLastMessages, tap.hasLockLast]
  dsimp only
  rw [found, if_pos truthy]

theorem lastAuthMessages_eq (tap : NamedTap householdId nodeId issuer state) :
    lastAuthMessages state householdId nodeId =
      .ok [.document householdId nodeId .lastAuth (.obj tap.lastAuth) true] := by
  obtain ⟨text, found, known⟩ := LastAuth.result_of_fromDict tap.authorised
  rw [lastAuthMessages, tap.hasLastAuth]
  dsimp only
  rw [found]
  dsimp only
  rw [if_pos known]

/-- What a response with a tap is replayed as after the tap's change. -/
def afterChange (tap : NamedTap householdId nodeId issuer state) (info health : Dict) :
    List HomeKeyMessage :=
  .document householdId nodeId .state (identityDocument state info householdId nodeId) true ::
    .document householdId nodeId .health (.obj health) false ::
    (plainMessage householdId nodeId .security SecurityState.ofString?
        (Json.get state "security") ++
      plainMessage householdId nodeId .backupStatus BackupOutcome.ofString?
        (Json.get state "backup_status") ++
      [.document householdId nodeId .lastAuth (.obj tap.lastAuth) true])

theorem afterChange_about (tap : NamedTap householdId nodeId issuer state) {health : Dict}
    {message : HomeKeyMessage} (member : message ∈ tap.afterChange info health) :
    message.About householdId nodeId := by
  simp only [afterChange, List.mem_append, List.mem_cons, List.not_mem_nil, or_false] at member
  rcases member with rfl | rfl | (security | backup) | rfl
  · exact ⟨rfl, rfl⟩
  · exact ⟨rfl, rfl⟩
  · exact about_plainMessage security
  · exact about_plainMessage backup
  · exact ⟨rfl, rfl⟩

/-- A direct response replays the change of a tap before anything else about it. -/
theorem messagesOf_eq (tap : NamedTap householdId nodeId issuer state) {health : Dict}
    (healthy : healthFromState state = .ok health) :
    DirectPoller.messagesOf (.obj state) (.obj info) householdId nodeId =
      .ok (.online householdId nodeId ::
        .document householdId nodeId .lockLast (.obj tap.lockLast) true ::
        tap.afterChange info health) := by
  rw [DirectPoller.messagesOf, membersOf, membersOf]
  change stateToMessages state info householdId nodeId = _
  rw [stateToMessages, healthy, tap.lastAuthMessages_eq, tap.lockLastMessages_eq]
  simp [bind, Except.bind, pure, Except.pure, HomeKeyMessage.online, afterChange]

theorem afterChange_eventless (tap : NamedTap householdId nodeId issuer state) {health : Dict}
    {message : HomeKeyMessage} (member : message ∈ tap.afterChange info health) :
    message.subtopic ≠ Subtopic.lockLast.spelling := by
  simp only [afterChange, List.mem_append, List.mem_cons, List.not_mem_nil, or_false] at member
  rcases member with rfl | rfl | (security | backup) | rfl
  · exact Subtopic.spelling_injective.ne (show Subtopic.state ≠ .lockLast by decide)
  · exact Subtopic.spelling_injective.ne (show Subtopic.health ≠ .lockLast by decide)
  · rw [subtopic_plainMessage security]
    exact Subtopic.spelling_injective.ne (by decide)
  · rw [subtopic_plainMessage backup]
    exact Subtopic.spelling_injective.ne (by decide)
  · exact Subtopic.spelling_injective.ne (show Subtopic.lastAuth ≠ .lockLast by decide)

variable {poller : DirectPoller} {coordinator : Coordinator} {world : PollWorld} {health : Dict}

/-- A poll writes one entry for a tap that was not announced yet, from what was
on record before. -/
theorem entry_poll (tap : NamedTap householdId nodeId issuer state)
    (home : poller.householdId = householdId) (same : coordinator.householdId = householdId)
    (identified : poller.identify world = .ok (householdId, nodeId, .obj state, .obj info))
    (healthy : healthFromState state = .ok health)
    (recent : isRecent (world.env .lockLast) tap.change.timestamp = .ok true)
    (works : (world.env .lockLast).logbookWorks = true)
    (unannounced : (coordinator.lockView nodeId).announced ≠ some tap.change.key) :
    ∃ node, Coordinator.Described coordinator nodeId node ∧
      (poller.asyncPollOnce coordinator world).coordinator.logbook =
        coordinator.logbook ++ [Coordinator.lockCauseEntry (world.env .lockLast) node
          tap.change.key coordinator.contexts] := by
  subst home
  have named : nodeId ≠ "" := DirectPoller.identify_named identified
  obtain ⟨shown, online, kept, found⟩ :=
    Coordinator.handled_online (world.env .status) same named
  rw [← kept.view] at unannounced
  obtain ⟨node, after, described, locked, home, caught, logbook⟩ :=
    Coordinator.entry_lockLast (kept.householdId.trans same) named tap.changed tap.homekey recent
      works unannounced
  rw [DirectPoller.asyncPollOnce_of_messages coordinator identified (tap.messagesOf_eq healthy)]
  dsimp only
  rw [List.cons_append, List.cons_append, Coordinator.ingest_cons, Coordinator.ingest_cons,
    HomeKeyMessage.ofString?_subtopic_document, HomeKeyMessage.ofString?_subtopic_online]
  dsimp only [Option.getD_some]
  rw [online, locked, Coordinator.quiet_ingest world.env ?_ ?_ caught, logbook, kept.logbook,
    kept.contexts]
  · obtain ⟨identified, nodeName, lastAuth⟩ := described.of_found found
    exact ⟨node, ⟨identified, nodeName, lastAuth⟩, rfl⟩
  · intro message member
    rw [home]
    rcases List.mem_append.mp member with response | guest
    · exact tap.afterChange_about response
    · exact DirectPoller.guestMessages_about guest
  · intro message member
    rcases List.mem_append.mp member with response | guest
    · exact tap.afterChange_eventless response
    · rw [DirectPoller.guestMessages_subtopic guest]
      exact Subtopic.spelling_injective.ne (by decide)

/-- The same reports over MQTT write one entry, from the authorisation that
comes first. -/
theorem entry_published (tap : NamedTap householdId nodeId issuer state) (named : nodeId ≠ "")
    (same : coordinator.householdId = householdId)
    (recent : isRecent (world.env .lockLast) tap.change.timestamp = .ok true)
    (works : (world.env .lockLast).logbookWorks = true)
    (unannounced : (coordinator.lockView nodeId).announced ≠ some tap.change.key) :
    ∃ node : Node, node.nodeId = nodeId ∧
      node.nodeName = (coordinator.ensureNode nodeId).2.nodeName ∧
      node.lastAuth = some tap.auth ∧
      (coordinator.ingest world.env tap.published).logbook =
        coordinator.logbook ++ [Coordinator.lockCauseEntry (world.env .lockLast) node
          tap.change.key coordinator.contexts] := by
  obtain ⟨recorded, authorised, kept, found⟩ :=
    Coordinator.handled_lastAuth (world.env .lastAuth) same named tap.authorised
  rw [← kept.view] at unannounced
  obtain ⟨node, after, described, locked, -, -, logbook⟩ :=
    Coordinator.entry_lockLast (kept.householdId.trans same) named tap.changed tap.homekey recent
      works unannounced
  obtain ⟨identified, nodeName, lastAuth⟩ := described.of_found found
  refine ⟨node, identified, nodeName, lastAuth, ?_⟩
  rw [published, Coordinator.ingest_cons, Coordinator.ingest_cons, Coordinator.ingest_nil,
    HomeKeyMessage.ofString?_subtopic_document, HomeKeyMessage.ofString?_subtopic_document]
  dsimp only [Option.getD_some]
  rw [authorised, locked, logbook, kept.logbook, kept.contexts]

/-- The poll writes one entry, it names the person of the tap, and the reports of
the tap leave the same entry over MQTT. -/
def NamesThePerson (tap : NamedTap householdId nodeId issuer state) (poller : DirectPoller)
    (coordinator : Coordinator) (world : PollWorld) : Prop :=
  ∃ entry : LogbookEntry,
    (poller.asyncPollOnce coordinator world).coordinator.logbook = coordinator.logbook ++ [entry] ∧
      entry.actor = issuer ∧
      (coordinator.ingest world.env tap.published).logbook = coordinator.logbook ++ [entry]

/-- The entry of a poll names whoever was on record before it. -/
theorem actor_of_described {node : Node} {before : Coordinator}
    (tap : NamedTap householdId nodeId issuer state) (env : Env) (context : Nat)
    (described : Coordinator.Described before nodeId node) :
    (Coordinator.lockCauseEntry env node tap.change.key context).actor =
      (before.personOnRecord nodeId tap.change.timestamp).getD LockSource.homekey.label := by
  change Coordinator.actorFor node tap.change.source tap.change.timestamp = _
  rw [tap.homekey, Coordinator.actorFor_homekey, described.lastAuth,
    Coordinator.ensureNode_lastAuth]
  rfl

/-- A person on record for the stamp of the tap can only be there if it has one. -/
theorem personAt_auth (tap : NamedTap householdId nodeId issuer state)
    (stamped : tap.change.timestamp ≠ none) :
    tap.auth.personAt tap.change.timestamp = some issuer := by
  rw [LastAuth.personAt, tap.named, tap.together]
  cases stamp : tap.change.timestamp with
  | none => exact absurd stamp stamped
  | some text => exact if_pos ⟨tap.person, rfl⟩

/-- A poll names the person of a tap as MQTT does exactly when that person was
already on record for the stamp, or is called what an unnamed credential is. -/
theorem names_the_person_iff (tap : NamedTap householdId nodeId issuer state)
    (home : poller.householdId = householdId) (same : coordinator.householdId = householdId)
    (identified : poller.identify world = .ok (householdId, nodeId, .obj state, .obj info))
    (healthy : healthFromState state = .ok health)
    (recent : isRecent (world.env .lockLast) tap.change.timestamp = .ok true)
    (works : (world.env .lockLast).logbookWorks = true)
    (unannounced : (coordinator.lockView nodeId).announced ≠ some tap.change.key) :
    tap.NamesThePerson poller coordinator world ↔
      coordinator.personOnRecord nodeId tap.change.timestamp = some issuer ∨
        (coordinator.personOnRecord nodeId tap.change.timestamp = none ∧
          issuer = LockSource.homekey.label) := by
  have named : nodeId ≠ "" := DirectPoller.identify_named identified
  obtain ⟨node, described, polled⟩ :=
    tap.entry_poll home same identified healthy recent works unannounced
  have actor := tap.actor_of_described (world.env .lockLast) coordinator.contexts described
  constructor
  · rintro ⟨entry, wrote, whom, -⟩
    have written := List.append_cancel_left (polled.symm.trans wrote)
    cases written
    rw [actor] at whom
    cases onRecord : coordinator.personOnRecord nodeId tap.change.timestamp with
    | none =>
        rw [onRecord] at whom
        exact Or.inr ⟨rfl, whom.symm⟩
    | some person =>
        rw [onRecord] at whom
        exact Or.inl (congrArg some whom)
  · intro condition
    have whom : (coordinator.personOnRecord nodeId tap.change.timestamp).getD
        LockSource.homekey.label = issuer := by
      rcases condition with onRecord | ⟨nobody, unnamed⟩
      · rw [onRecord]
        rfl
      · rw [nobody, unnamed]
        rfl
    refine ⟨_, polled, actor.trans whom, ?_⟩
    obtain ⟨other, nodeId', nodeName, lastAuth, published⟩ :=
      tap.entry_published named same recent works unannounced
    rw [published]
    congr 2
    apply Coordinator.lockCauseEntry_congr
    · rw [nodeId', described.named]
    · rw [nodeName, described.nodeName]
    · change Coordinator.actorFor other tap.change.source tap.change.timestamp =
        Coordinator.actorFor node tap.change.source tap.change.timestamp
      have polledActor : Coordinator.actorFor node tap.change.source tap.change.timestamp =
          issuer := actor.trans whom
      by_cases stamped : tap.change.timestamp = none
      · rw [tap.homekey, stamped, Coordinator.actorFor_unstamped, Coordinator.actorFor_unstamped]
      · rw [polledActor, tap.homekey, Coordinator.actorFor_homekey, lastAuth, Option.bind_some,
          tap.personAt_auth stamped]
        rfl

/-! ### A sample tap -/

def tapAuth : Dict :=
  [("result", .str "SUCCESS"), ("timestamp", .str tapStamp), ("issuer", .str "Artur")]

def tapState : Dict :=
  [("household_id", .str "HOME001"), ("node_id", .str "GATE-001"), ("lock_last", .obj tapChange),
    ("last_auth", .obj tapAuth)]

def tapPoll : PollWorld :=
  { info := .answer (.obj [])
    state := .answer (.obj tapState)
    guest := .timedOut false
    env := fun _ => tapEnv }

def tapPoller : DirectPoller := .new ⟨"192.0.2.1", 443⟩ "HOME001"

def arturTap : NamedTap "HOME001" "GATE-001" "Artur" tapState :=
  { lockLast := tapChange
    lastAuth := tapAuth
    change := ⟨0, .homekey, none, some tapStamp⟩
    auth := ⟨"HomeKey", .success, some tapStamp, some "Artur"⟩
    hasLockLast := rfl
    hasLastAuth := rfl
    changed := by rfl
    authorised := by rfl
    homekey := rfl
    success := rfl
    named := rfl
    person := by decide
    together := rfl }

theorem identify_tapPoll :
    tapPoller.identify tapPoll =
      .ok ("HOME001", "GATE-001", .obj tapState, .obj []) := by
  rw [DirectPoller.identify]
  simp only [tapPoll, request_answer]
  rfl

/-- When the authorisation of the tap came first, the poll names the person. -/
theorem arturTap_named :
    arturTap.NamesThePerson tapPoller
      ((Coordinator.new "HOME001").asyncHandleMessage tapEnv
        (.document "HOME001" "GATE-001" .lastAuth (.obj tapAuth) true)).coordinator tapPoll := by
  obtain ⟨recorded, handled, kept, found⟩ :=
    @Coordinator.handled_lastAuth (.new "HOME001") "HOME001" "GATE-001" tapEnv rfl (by decide) _ _
      arturTap.authorised
  have person : recorded.personOnRecord "GATE-001" (some tapStamp) = some "Artur" := by
    rw [Coordinator.personOnRecord, Coordinator.authOf, found]
    rfl
  rw [show Json.obj tapAuth = .obj arturTap.lastAuth from rfl, handled]
  exact (names_the_person_iff arturTap rfl kept.householdId identify_tapPoll (by rfl) (by rfl) rfl
    (by rw [kept.view]; intro announced; cases announced)).mpr (Or.inl person)

/-- On a new coordinator the poll of the sample tap does not name the person. -/
theorem arturTap_unnamed :
    ¬ ∀ (deliveries : List Delivery) (householdId nodeId issuer : String) (state info : Dict)
      (tap : NamedTap householdId nodeId issuer state) (poller : DirectPoller) (world : PollWorld)
      (health : Dict),
      let coordinator := (run Observed.receive (.start householdId) deliveries).coordinator
      poller.householdId = householdId →
      poller.identify world = .ok (householdId, nodeId, .obj state, .obj info) →
      healthFromState state = .ok health →
      isRecent (world.env .lockLast) tap.change.timestamp = .ok true →
      (world.env .lockLast).logbookWorks = true →
      (coordinator.lockView nodeId).announced ≠ some tap.change.key →
      tap.NamesThePerson poller coordinator world := by
  intro names
  have tapped : arturTap.NamesThePerson tapPoller (.new "HOME001") tapPoll :=
    names [] "HOME001" "GATE-001" "Artur" tapState [] arturTap tapPoller tapPoll _ rfl
      identify_tapPoll rfl rfl rfl fun announced => nomatch announced
  obtain ⟨entry, wrote, whom, -⟩ := tapped
  obtain ⟨node, described, polled⟩ := arturTap.entry_poll rfl
    (rfl : (Coordinator.new "HOME001").householdId = "HOME001") identify_tapPoll rfl rfl rfl
    (fun announced => nomatch announced)
  have written := List.append_cancel_left (polled.symm.trans wrote)
  cases written
  have nobody : (Coordinator.new "HOME001").personOnRecord "GATE-001"
      arturTap.change.timestamp = none := rfl
  rw [arturTap.actor_of_described _ _ described, nobody] at whom
  exact absurd whom (by decide)

end NamedTap

end HomeKeyHousehold
