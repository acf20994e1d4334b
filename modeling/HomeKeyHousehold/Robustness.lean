import HomeKeyHousehold.Outage
import HomeKeyHousehold.Replies

/-!
# Polls of a node that answers garbage

A poll looks fields up in what it is answered with.  While it finds objects there,
whatever fails is an error of the direct transport, and is counted.
-/

namespace HomeKeyHousehold

open Library

/-! ## Responses that can be translated -/

/-- The documents of a response that are looked into are objects, and what is
looked up in a set can be. -/
structure Translatable (state : Dict) : Prop where
  health : (∃ members, Json.get state "health" = .obj members) ∨
    ∀ part ∈ ["reader", "mqtt", "lock"], (Json.get state part).truthy = true →
      ∃ members, Json.get state part = .obj members
  lastAuth : ∀ members, Json.get state "last_auth" = .obj members →
    (Json.get members "result").hashable = true

/-- A response names a node, and its own household. -/
structure Names (householdId : String) (state info : Dict) : Prop where
  household : (Json.get state "household_id").truthy = true
  spelled : (Json.get state "household_id").text = householdId
  node : (Json.get state "node_id").truthy = true ∨
    (Json.get (deviceOf info) "node_id").truthy = true

/-- The replies of a poll are legible, as far as they are asked for and read. -/
def PollWorld.Legible (world : PollWorld) (householdId : String) : Prop :=
  world.info.reading ≠ .undecodable ∧
    ∀ info, world.info.reading = .document info →
      world.state.reading ≠ .undecodable ∧
        ∀ state, world.state.reading = .document state →
          ∃ told shown, info = .obj told ∧ state = .obj shown ∧
            (Names householdId shown told → Translatable shown)

theorem names_iff {householdId : String} {state info : Dict} :
    (∃ nodeId, resolveIdentity (.obj state) (.obj info) = .ok (householdId, nodeId)) ↔
      Names householdId state info := by
  have blank : (Json.str "").truthy = false := rfl
  rw [resolveIdentity]
  simp only [membersOf, bind_eq_ok, Except.ok.injEq, exists_eq_left', Json.truthy_orElse, blank,
    Bool.or_false]
  constructor
  · rintro ⟨nodeId, resolved⟩
    split at resolved
    · next node =>
        split at resolved
        · next household =>
            cases resolved
            rw [Json.orElse, if_pos household]
            exact ⟨household, rfl, Bool.or_eq_true_iff.mp node⟩
        · cases resolved
    · cases resolved
  · rintro ⟨household, spelled, node⟩
    rw [if_pos (Bool.or_eq_true_iff.mpr node), if_pos household, ← spelled]
    exact ⟨_, by rw [Json.orElse, if_pos household]; rfl⟩

variable {allowed : Raised → Bool} (refuses : allowed .other = false)

include refuses in
/-- What raises nothing but exceptions of no known kind is done before what comes
next. -/
theorem raisesOnly_bind_and {α β : Type} {first : Except Raised α} {next : α → Except Raised β}
    {tried done : Prop}
    (start : ∀ allowed : Raised → Bool, allowed .other = false →
      (RaisesOnly allowed first ↔ tried))
    (rest : ∀ value, RaisesOnly allowed (next value) ↔ done) :
    RaisesOnly allowed (first >>= next) ↔ tried ∧ done := by
  rw [raisesOnly_bind, start allowed refuses]
  refine and_congr_right fun holds => ?_
  obtain ⟨value, got⟩ : ∃ value, first = .ok value := by
    have nothing := (start (fun _ => false) rfl).mpr holds
    cases first with
    | error raised => cases nothing raised rfl
    | ok value => exact ⟨value, rfl⟩
  constructor
  · intro only
    exact (rest value).mp (only value got)
  · intro finished other _
    exact (rest other).mpr finished

/-- A member that defaults to an empty object is looked into unless it is falsy. -/
theorem raisesOnly_membersOf_orElse (value : Json) (allowed : Raised → Bool)
    (refuses : allowed .other = false) :
    RaisesOnly allowed (membersOf (value.orElse (.obj []))) ↔
      (value.truthy = true → ∃ members, value = .obj members) := by
  rw [raisesOnly_membersOf refuses, Json.orElse]
  cases value.truthy with
  | true => simp
  | false => simp

theorem raisesOnly_healthFromState (state : Dict) (allowed : Raised → Bool)
    (refuses : allowed .other = false) :
    RaisesOnly allowed (healthFromState state) ↔
      (∃ members, Json.get state "health" = .obj members) ∨
        ∀ part ∈ ["reader", "mqtt", "lock"], (Json.get state part).truthy = true →
          ∃ members, Json.get state part = .obj members := by
  have translated : RaisesOnly allowed (healthPayloadFromState state) ↔
      ∀ part ∈ ["reader", "mqtt", "lock"], (Json.get state part).truthy = true →
        ∃ members, Json.get state part = .obj members := by
    rw [healthPayloadFromState]
    refine (raisesOnly_bind_and refuses (raisesOnly_membersOf_orElse _) fun reader =>
      raisesOnly_bind_and refuses (raisesOnly_membersOf_orElse _) fun mqtt =>
        raisesOnly_bind_and refuses (raisesOnly_membersOf_orElse _) fun lock =>
          iff_of_true (raisesOnly_ok _) trivial).trans ?_
    simp only [List.forall_mem_cons, List.not_mem_nil, false_implies, implies_true]
  rw [healthFromState]
  cases Json.get state "health" with
  | obj members => exact iff_of_true (raisesOnly_ok _) (Or.inl ⟨members, rfl⟩)
  | null | bool _ | int _ | float _ | str _ | arr _ => simpa using translated

theorem raisesOnly_lastAuthMessages (state : Dict) (householdId nodeId : String)
    (allowed : Raised → Bool) (refuses : allowed .other = false) :
    RaisesOnly allowed (lastAuthMessages state householdId nodeId) ↔
      ∀ members, Json.get state "last_auth" = .obj members →
        (Json.get members "result").hashable = true := by
  rw [lastAuthMessages]
  cases Json.get state "last_auth" with
  | obj members =>
      have same : (∀ other, Json.obj members = .obj other →
          (Json.get other "result").hashable = true) ↔
            (Json.get members "result").hashable = true :=
        ⟨fun every => every members rfl, by rintro hashable other ⟨⟩; exact hashable⟩
      rw [same]
      dsimp only
      cases Json.get members "result" with
      | str text =>
          refine iff_of_true ?_ rfl
          dsimp only
          split
          · exact raisesOnly_ok _
          · exact raisesOnly_ok _
      | arr items =>
          exact iff_of_false (by simp [raisesOnly_error, Json.hashable, refuses])
            (by simp [Json.hashable])
      | obj inner =>
          exact iff_of_false (by simp [raisesOnly_error, Json.hashable, refuses])
            (by simp [Json.hashable])
      | null | bool _ | int _ | float _ => exact iff_of_true (raisesOnly_ok _) rfl
  | null | bool _ | int _ | float _ | str _ | arr _ => exact iff_of_true (raisesOnly_ok _) (by simp)

include refuses in
/-- A response that can be translated raises nothing; any other raises an
exception that is none of the transport. -/
theorem raisesOnly_stateToMessages (state info : Dict) (householdId nodeId : String) :
    RaisesOnly allowed (stateToMessages state info householdId nodeId) ↔ Translatable state := by
  refine (raisesOnly_bind_and refuses (raisesOnly_healthFromState state) fun health =>
    raisesOnly_bind_and refuses (raisesOnly_lastAuthMessages state householdId nodeId) fun auth =>
      iff_of_true (raisesOnly_ok _) trivial).trans ?_
  rw [and_true]
  exact ⟨fun ⟨health, lastAuth⟩ => ⟨health, lastAuth⟩, fun fine => ⟨fine.health, fine.lastAuth⟩⟩

omit refuses in
/-- What goes wrong while a response is translated is never counted. -/
theorem messagesOf_error {state info : Json} {householdId nodeId : String} {raised : Raised}
    (failed : DirectPoller.messagesOf state info householdId nodeId = .error raised) :
    DirectPoller.countsAsFailure raised = false := by
  cases state with
  | obj shown =>
      cases info with
      | obj told =>
          by_contra counted
          have only : RaisesOnly DirectPoller.countsAsFailure
              (stateToMessages shown told householdId nodeId) := by
            intro cause same
            have failed : stateToMessages shown told householdId nodeId = .error raised := failed
            rw [same] at failed
            cases failed
            simpa using counted
          have translatable := (raisesOnly_stateToMessages rfl ..).mp only
          have silent : RaisesOnly (fun _ => false)
              (stateToMessages shown told householdId nodeId) :=
            (raisesOnly_stateToMessages rfl ..).mpr translatable
          cases silent raised failed
      | null | bool _ | int _ | float _ | str _ | arr _ =>
          cases failed
          rfl
  | null | bool _ | int _ | float _ | str _ | arr _ =>
      cases failed
      rfl

/-! ## Polls -/

namespace DirectPoller

theorem allowsDirect_countsAsFailure : AllowsDirect countsAsFailure := ⟨fun _ _ => rfl, rfl⟩

variable {poller : DirectPoller} {world : PollWorld}

theorem identify_eq_ok_iff {householdId nodeId : String} {state info : Json} :
    poller.identify world = .ok (householdId, nodeId, state, info) ↔
      world.info.reading = .document info ∧ world.state.reading = .document state ∧
        resolveIdentity state info = .ok (householdId, nodeId) := by
  rw [identify]
  simp only [bind_eq_ok, request_eq_ok_iff]
  constructor
  · rintro ⟨told, read, shown, reported, ⟨home, named⟩, resolved, same⟩
    cases same
    exact ⟨read, reported, resolved⟩
  · rintro ⟨read, reported, resolved⟩
    exact ⟨info, read, state, reported, (householdId, nodeId), resolved, rfl⟩

variable (allows : AllowsDirect allowed)

include allows

theorem raisesOnly_identify : RaisesOnly allowed (poller.identify world) ↔
    world.info.reading ≠ .undecodable ∧
      ∀ info, world.info.reading = .document info →
        world.state.reading ≠ .undecodable ∧
          ∀ state, world.state.reading = .document state →
            (∃ told, info = .obj told) ∧ ∃ shown, state = .obj shown := by
  rw [identify, raisesOnly_bind, raisesOnly_request allows]
  refine and_congr_right fun _ => forall_congr' fun info => ?_
  rw [request_eq_ok_iff, raisesOnly_bind, raisesOnly_request allows]
  refine imp_congr_right fun _ => and_congr_right fun _ => forall_congr' fun state => ?_
  rw [request_eq_ok_iff, raisesOnly_bind, raisesOnly_resolveIdentity allows]
  exact imp_congr_right fun _ => and_iff_left fun identity _ => raisesOnly_ok _

omit allows in
/-- A legible response that names its household is translated without an exception. -/
theorem raisesOnly_messagesOf (refuses : allowed .other = false)
    (legible : world.Legible poller.householdId) {nodeId : String} {state info : Json}
    (identified : poller.identify world = .ok (poller.householdId, nodeId, state, info)) :
    RaisesOnly allowed (messagesOf state info poller.householdId nodeId) := by
  obtain ⟨read, reported, resolved⟩ := identify_eq_ok_iff.mp identified
  obtain ⟨told, shown, rfl, rfl, translatable⟩ := (legible.2 info read).2 state reported
  exact (raisesOnly_stateToMessages refuses shown told _ nodeId).mpr
    (translatable (names_iff.mp ⟨nodeId, resolved⟩))

/-- Whatever keeps a poll from being ingested is an error of the transport exactly
when the replies are legible. -/
theorem failure_allowed_iff :
    (∀ raised, poller.failure world = some raised → allowed raised = true) ↔
      world.Legible poller.householdId := by
  have parts : (∀ raised, poller.failure world = some raised → allowed raised = true) ↔
      RaisesOnly allowed (poller.identify world) ∧
        ∀ nodeId state info, poller.identify world = .ok (poller.householdId, nodeId, state, info) →
          RaisesOnly allowed (messagesOf state info poller.householdId nodeId) := by
    rw [failure_eq]
    cases poller.identify world with
    | error raised => simp [raisesOnly_error]
    | ok identity =>
        obtain ⟨householdId, nodeId, state, info⟩ := identity
        rw [and_iff_right (raisesOnly_ok _)]
        dsimp only
        by_cases home : householdId = poller.householdId
        · subst home
          rw [if_pos rfl]
          have only : (∀ named shown told,
              (Except.ok (poller.householdId, nodeId, state, info) : Except Raised _) =
                .ok (poller.householdId, named, shown, told) →
              RaisesOnly allowed (messagesOf shown told poller.householdId named)) ↔
                RaisesOnly allowed (messagesOf state info poller.householdId nodeId) :=
            ⟨fun every => every _ _ _ rfl, by rintro translated _ _ _ ⟨⟩; exact translated⟩
          rw [only]
          cases messagesOf state info poller.householdId nodeId with
          | error raised => simp [raisesOnly_error]
          | ok messages => exact iff_of_true (by simp) (raisesOnly_ok messages)
        · rw [if_neg home]
          refine iff_of_true (by simp) ?_
          rintro _ _ _ ⟨⟩
          exact absurd rfl home
  rw [parts, raisesOnly_identify allows]
  constructor
  · rintro ⟨⟨told, rest⟩, translated⟩
    refine ⟨told, fun info read => ⟨(rest info read).1, fun state reported => ?_⟩⟩
    obtain ⟨⟨members, rfl⟩, shown, rfl⟩ := (rest info read).2 state reported
    refine ⟨members, shown, rfl, rfl, fun names => ?_⟩
    obtain ⟨nodeId, resolved⟩ := names_iff.mpr names
    exact (raisesOnly_stateToMessages allows.other shown members _ nodeId).mp
      (translated nodeId _ _ (identify_eq_ok_iff.mpr ⟨read, reported, resolved⟩))
  · intro legible
    obtain ⟨told, rest⟩ := legible
    refine ⟨⟨told, fun info read => ⟨(rest info read).1, fun state reported => ?_⟩⟩, ?_⟩
    · obtain ⟨members, shown, rfl, rfl, -⟩ := (rest info read).2 state reported
      exact ⟨⟨members, rfl⟩, shown, rfl⟩
    · intro nodeId state info identified
      exact raisesOnly_messagesOf allows.other ⟨told, rest⟩ identified

omit allows in
/-- A legible poll that fails was not answered, and counts. -/
theorem missed_of_legible {raised : Raised} (legible : world.Legible poller.householdId)
    (failed : poller.failure world = some raised) :
    poller.identify world = .error raised ∧ countsAsFailure raised = true := by
  refine ⟨?_, (failure_allowed_iff allowsDirect_countsAsFailure).mpr legible raised failed⟩
  rw [failure_eq] at failed
  split at failed
  · next unidentified =>
      cases failed
      exact unidentified
  · next householdId nodeId state info identified =>
      split at failed
      · next home =>
          subst home
          split at failed
          · next unknown untranslated =>
              have silent : RaisesOnly (fun _ => false)
                  (messagesOf state info poller.householdId nodeId) :=
                raisesOnly_messagesOf rfl legible identified
              cases silent unknown untranslated
          · cases failed
      · cases failed

end DirectPoller

/-! ## Scheduled polls -/

namespace DirectEntry

variable {entry : DirectEntry} {world : PollWorld}

/-- A scheduled poll raises nothing, and counts as a failure when the poll it makes
does. -/
structure Absorbs (entry : DirectEntry) (world : PollWorld) : Prop where
  quiet : (entry.poller.asyncPollSafely entry.coordinator world).raised = none
  counted : (entry.poller.asyncPollOnce entry.coordinator world).raised ≠ none →
    (entry.poller.asyncPollSafely entry.coordinator world).poller.failures =
      entry.poller.failures + 1

theorem absorbs_iff : Absorbs entry world ↔ world.Legible entry.poller.householdId := by
  rw [← DirectPoller.failure_allowed_iff DirectPoller.allowsDirect_countsAsFailure]
  have tried : (entry.poller.asyncPollOnce entry.coordinator world).raised =
      entry.poller.failure world := DirectPoller.asyncPollOnce_raised entry.coordinator
  cases failed : entry.poller.failure world with
  | none =>
      rw [failed] at tried
      refine iff_of_true ⟨?_, ?_⟩ (by simp)
      · rw [DirectPoller.asyncPollSafely, tried]
      · intro raised
        exact absurd tried raised
  | some raised =>
      obtain ⟨learnt, polled⟩ := DirectPoller.asyncPollOnce_of_failure entry.coordinator failed
      constructor
      · rintro absorbs _ ⟨⟩
        have quiet := absorbs.quiet
        rw [DirectPoller.asyncPollSafely, polled] at quiet
        dsimp only at quiet
        split at quiet
        · next counted => exact counted
        · cases quiet
      · intro counted
        refine ⟨?_, fun _ => ?_⟩
        · rw [DirectPoller.asyncPollSafely, polled]
          dsimp only
          rw [if_pos (counted raised rfl)]
          split
          · rfl
          · rfl
        · rw [DirectPoller.asyncPollSafely, polled]
          dsimp only
          rw [if_pos (counted raised rfl)]
          split
          · rfl
          · rfl

/-- Polls that are missed in a row take the node offline, however many there are. -/
theorem onlineOf_missed {nodeId : String} (filled : nodeId ≠ "") {worlds : List PollWorld}
    (home : entry.coordinator.householdId = entry.poller.householdId)
    (named : entry.poller.nodeId = some nodeId)
    (missed : ∀ world ∈ worlds, ∃ raised, entry.poller.identify world = .error raised ∧
      DirectPoller.countsAsFailure raised = true)
    (offline : directOfflineAfterFailures ≤ entry.poller.failures →
      entry.coordinator.onlineOf nodeId = some false)
    (enough : directOfflineAfterFailures ≤ entry.poller.failures + worlds.length) :
    (run step entry (worlds.map .tick)).coordinator.onlineOf nodeId = some false := by
  induction worlds generalizing entry with
  | nil => exact offline enough
  | cons world rest ih =>
      obtain ⟨raised, unidentified, counted⟩ := missed world List.mem_cons_self
      rw [List.map_cons, run_cons, step,
        DirectPoller.asyncPollSafely_of_unidentified entry.coordinator unidentified counted]
      apply ih
      · dsimp only
        split
        · rw [DirectPoller.householdId_asyncMarkOffline, home]
        · exact home
      · exact named
      · exact fun later member => missed later (List.mem_cons_of_mem _ member)
      · intro reached
        dsimp only at reached ⊢
        split
        · rw [DirectPoller.asyncMarkOffline, named]
          exact Coordinator.onlineOf_ingest_offline world.env home filled
        · next unmet => exact offline (by omega)
      · rw [List.length_cons] at enough
        dsimp only
        omega

/-! ## Runs -/

/-- What an entry keeps of the household it was made for. -/
structure Sound (householdId : String) (entry : DirectEntry) : Prop where
  home : entry.poller.householdId = householdId
  registry : entry.coordinator.householdId = householdId
  named : ∀ nodeId, entry.poller.nodeId = some nodeId → nodeId ≠ ""

variable {event : DirectEvent} {householdId : String}

theorem Sound.of_pollOnce (sound : Sound householdId entry) {after : DirectEntry}
    (registered : after.coordinator.householdId =
      (entry.poller.asyncPollOnce entry.coordinator world).coordinator.householdId)
    (home : after.poller.householdId =
      (entry.poller.asyncPollOnce entry.coordinator world).poller.householdId)
    (named : after.poller.nodeId =
      (entry.poller.asyncPollOnce entry.coordinator world).poller.nodeId) :
    Sound householdId after where
  home := by rw [home, DirectPoller.asyncPollOnce_poller_householdId, sound.home]
  registry := by
    rw [registered, DirectPoller.asyncPollOnce_coordinator_householdId, sound.registry]
  named := by
    intro nodeId known
    rw [named] at known
    rcases entry.poller.asyncPollOnce_nodeId entry.coordinator world with kept | ⟨learnt, filled, new⟩
    · exact sound.named nodeId (kept ▸ known)
    · rw [new] at known
      cases known
      exact filled

theorem Sound.step (sound : Sound householdId entry) (event : DirectEvent) :
    Sound householdId (entry.step event) := by
  cases polled : event.poll entry.poller with
  | none =>
      obtain ⟨registered, poller⟩ := step_of_no_poll polled
      refine ⟨?_, ?_, ?_⟩
      · rw [poller, sound.home]
      · rw [registered, sound.registry]
      · rw [poller]
        exact sound.named
  | some world =>
      by_cases scheduled : ∀ world, event ≠ .tick world
      · obtain ⟨registered, poller⟩ := step_of_refresh scheduled polled
        apply sound.of_pollOnce (congrArg _ registered)
        · rw [poller]
        · rw [poller]
      · push Not at scheduled
        obtain ⟨tried, rfl⟩ := scheduled
        cases polled
        apply sound.of_pollOnce
        · exact DirectPoller.asyncPollSafely_coordinator_householdId ..
        · exact DirectPoller.asyncPollSafely_poller_householdId ..
        · exact DirectPoller.asyncPollSafely_poller_nodeId ..

theorem sound_new (client : DirectClient) (householdId : String) :
    Sound householdId (.new client householdId) :=
  ⟨rfl, rfl, fun nodeId known => by cases known⟩

theorem sound_run (client : DirectClient) (householdId : String) (events : List DirectEvent) :
    Sound householdId (run step (.new client householdId) events) := by
  have keeps (entry : DirectEntry) (event : DirectEvent) (sound : Sound householdId entry) :
      Sound householdId (entry.step event) := sound.step event
  exact run_keeps keeps (sound_new client householdId) events

/-- An entry withstands what its node answers along a run: every scheduled poll is
absorbed, and polls that fail in a row take the node offline. -/
structure Withstands (client : DirectClient) (householdId : String) (events : List DirectEvent) :
    Prop where
  absorbed : Along step (fun entry event => ∀ world, event = .tick world → Absorbs entry world)
    (.new client householdId) events
  offline : ∀ (earlier : List DirectEvent) (worlds : List PollWorld),
    earlier ++ worlds.map .tick <+: events →
    let before := run step (.new client householdId) earlier
    before.poller.failures < directOfflineAfterFailures →
    (∀ world ∈ worlds, before.poller.failure world ≠ none) →
    directOfflineAfterFailures ≤ worlds.length →
    ∀ nodeId, before.poller.nodeId = some nodeId →
      (run step before (worlds.map .tick)).coordinator.onlineOf nodeId = some false

/-- An entry withstands its node, and connecting to one fails as documented, exactly
when the replies to scheduled polls and to the connection are legible. -/
theorem withstands_iff (sha256 : Sha256) (client : DirectClient) (householdId : String)
    (events : List DirectEvent) (host : String) (port : Nat) (expected : String)
    (world : ConnectWorld) :
    (Withstands client householdId events ∧
        RaisesOnly Raised.isDirect (asyncConnectNode sha256 host port expected world)) ↔
      (∀ poll, .tick poll ∈ events → poll.Legible householdId) ∧
        world.Legible sha256 expected := by
  rw [raisesOnly_asyncConnectNode allowsDirect_isDirect]
  refine and_congr_left fun _ => ?_
  have absorbed : Along step
      (fun entry event => ∀ world, event = .tick world → Absorbs entry world)
      (.new client householdId) events ↔
        ∀ poll, .tick poll ∈ events → poll.Legible householdId := by
    have absorbs (entry : DirectEntry) (event : DirectEvent) (sound : Sound householdId entry) :
        (∀ world, event = .tick world → Absorbs entry world) ↔
          ∀ world, event = .tick world → world.Legible householdId := by
      simp only [absorbs_iff, sound.home]
    rw [along_congr (fun _ event sound => sound.step event) absorbs
      (sound_new client householdId), along_iff_forall]
    exact ⟨fun every poll member => every _ member poll rfl,
      by rintro every _ member poll rfl; exact every poll member⟩
  constructor
  · intro withstands
    exact absorbed.mp withstands.absorbed
  · intro legible
    refine ⟨absorbed.mpr legible, ?_⟩
    intro earlier worlds inside before below failing enough nodeId named
    have sound := sound_run client householdId earlier
    apply onlineOf_missed (sound.named nodeId named) (sound.registry.trans sound.home.symm) named
    · intro poll member
      obtain ⟨raised, failed⟩ := Option.ne_none_iff_exists'.mp (failing poll member)
      have happened : DirectEvent.tick poll ∈ events :=
        inside.subset (List.mem_append_right _ (List.mem_map_of_mem member))
      have told : poll.Legible before.poller.householdId := by
        rw [show before.poller.householdId = householdId from sound.home]
        exact legible poll happened
      exact ⟨raised, DirectPoller.missed_of_legible told failed⟩
    · intro reached
      exact absurd below (Nat.not_lt.mpr reached)
    · omega

/-- A device whose web server answers with a page. -/
def pagePoll : PollWorld :=
  { info := .response 200 (some "<html>")
    state := .response 200 (some "<html>")
    guest := .timedOut false
    env := fun _ => quietEnv }

theorem reading_page : (Reply.response 200 (some "<html>")).reading = .undecodable := by
  rfl

/-- A page instead of a document is raised to the scheduler, and is not counted. -/
theorem page_not_withstood :
    ¬ ∀ (sha256 : Sha256) (client : DirectClient) (householdId : String)
        (events : List DirectEvent) (host : String) (port : Nat) (expected : String)
        (world : ConnectWorld),
      Withstands client householdId events ∧
        RaisesOnly Raised.isDirect (asyncConnectNode sha256 host port expected world) := by
  intro every
  have refused : ConnectWorld := ⟨.error "refused", .timedOut false, .timedOut false⟩
  have withstands :=
    (every (fun _ => []) sampleClient "HOME001" [.tick pagePoll] "192.0.2.1" 443 "" refused).1
  have absorbed := absorbs_iff.mp (withstands.absorbed.1 pagePoll rfl)
  exact absorbed.1 reading_page

end DirectEntry

end HomeKeyHousehold
