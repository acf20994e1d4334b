import HomeKeyHousehold.Robustness

/-!
# Polls that overlap

A poll is suspended at each of its requests.  Nothing keeps scheduled polls and the
polls after commands from being suspended at the same time; they share the
coordinator and the poller.  Between two requests a poll is not interrupted.
-/

namespace HomeKeyHousehold

open Library

/-! ## Between two requests -/

/-- What a poll makes of the answer to its second request. -/
inductive Response where
  | failed (raised : Raised)
  | foreign
  | shown (nodeId : String) (messages : List HomeKeyMessage)

namespace DirectPoller

/-- Read the state, and resolve who it is of; the node id is kept before the
response is translated. -/
def respond (poller : DirectPoller) (info : Json) (reply : Reply) : DirectPoller × Response :=
  match poller.client.request "/api/ha/state" reply with
  | .error raised => (poller, .failed raised)
  | .ok state =>
      match resolveIdentity state info with
      | .error raised => (poller, .failed raised)
      | .ok (householdId, nodeId) =>
          if householdId = poller.householdId then
            match messagesOf state info householdId nodeId with
            | .error raised => ({ poller with nodeId := some nodeId }, .failed raised)
            | .ok messages => ({ poller with nodeId := some nodeId }, .shown nodeId messages)
          else ({ poller with identityMismatchLogged := true }, .foreign)

/-- The guest document of an answer, replayed as a message. -/
def guestReplies (poller : DirectPoller) (reply : Reply) (nodeId : String) :
    List HomeKeyMessage :=
  match poller.client.asyncGetGuest reply with
  | .ok (some guest) => [.document poller.householdId nodeId .guestStatus guest true]
  | _ => []

/-- The message that takes the node offline, if its id is known. -/
def offlineMessages (poller : DirectPoller) : List HomeKeyMessage :=
  (poller.nodeId.map (offlineMessage poller.householdId)).toList

variable {poller : DirectPoller} {world : PollWorld}

theorem asyncMarkOffline_eq (coordinator : Coordinator) :
    poller.asyncMarkOffline coordinator world =
      coordinator.ingest world.env poller.offlineMessages := by
  rw [asyncMarkOffline, offlineMessages]
  cases poller.nodeId with
  | none => rfl
  | some nodeId => rfl

/-- A device that answers with a state of the household is shown. -/
theorem respond_answer {info state : Dict} {nodeId : String} {messages : List HomeKeyMessage}
    (resolved : resolveIdentity (.obj state) (.obj info) = .ok (poller.householdId, nodeId))
    (translated : messagesOf (.obj state) (.obj info) poller.householdId nodeId = .ok messages) :
    poller.respond (.obj info) (.answer (.obj state)) =
      ({ poller with nodeId := some nodeId }, .shown nodeId messages) := by
  rw [respond, request_answer]
  dsimp only
  rw [resolved]
  dsimp only
  rw [if_pos rfl, translated]

/-- What `async_poll_once` leaves behind after a response. -/
def concluded (coordinator : Coordinator) (world : PollWorld) :
    DirectPoller × Response → Polled
  | (poller, .failed raised) => ⟨coordinator, poller, some raised⟩
  | (poller, .foreign) => ⟨coordinator, poller, none⟩
  | (poller, .shown nodeId messages) =>
      ⟨coordinator.ingest world.env (messages ++ poller.guestReplies world.guest nodeId),
        { poller with failures := 0 }, none⟩

theorem asyncPollOnce_of_untold (coordinator : Coordinator) {raised : Raised}
    (refused : poller.client.request "/api/ha/info" world.info = .error raised) :
    poller.asyncPollOnce coordinator world = ⟨coordinator, poller, some raised⟩ := by
  apply asyncPollOnce_of_unidentified
  rw [identify, refused]
  rfl

theorem asyncPollOnce_of_told (coordinator : Coordinator) {info : Json}
    (answered : poller.client.request "/api/ha/info" world.info = .ok info) :
    poller.asyncPollOnce coordinator world =
      concluded coordinator world (poller.respond info world.state) := by
  rw [asyncPollOnce, identify, answered, respond]
  cases poller.client.request "/api/ha/state" world.state with
  | error raised => rfl
  | ok state =>
      dsimp only [bind, Except.bind]
      cases resolveIdentity state info with
      | error raised => rfl
      | ok identity =>
          obtain ⟨householdId, nodeId⟩ := identity
          dsimp only [pure, Except.pure]
          by_cases home : householdId = poller.householdId
          · subst home
            rw [if_pos rfl, if_pos rfl]
            cases messagesOf state info poller.householdId nodeId with
            | error raised => rfl
            | ok messages => rfl
          · rw [if_neg home, if_neg home]
            rfl

end DirectPoller

/-! ## Suspended polls -/

/-- What a poll waits for.  An answer to the second request is under way once the
device has sampled its state. -/
inductive Stage where
  | info
  | state (info : Json)
  | sampled (info : Json) (sample : Nat) (reply : Reply)
  | guest (nodeId : String)

/-- A poll that was begun and has not returned. -/
structure Task where
  scheduled : Bool
  stage : Stage

/-- A response that was ingested, with when the device sampled it. -/
structure Ingested where
  sample : Nat
  nodeId : String
  messages : List HomeKeyMessage
  env : Subtopic → Env

/-- A direct entry with its polls.  The polls are numbered as they are begun, the
answers of the device as they are sampled, and what was ingested is remembered in
that order. -/
structure Polling where
  coordinator : Coordinator
  poller : DirectPoller
  tasks : Nat → Option Task
  begun : Nat
  samples : Nat
  ingested : List Ingested
  loaded : Bool

/-- What happens: a poll is begun, an answer arrives, the device samples its state for
a request, a request for the state fails without an answer, or the entry is
unloaded. -/
inductive PollEvent where
  | begin (scheduled : Bool)
  | told (id : Nat) (reply : Reply) (env : Subtopic → Env)
  | sample (id : Nat) (reply : Reply)
  | shown (id : Nat) (env : Subtopic → Env)
  | missed (id : Nat) (error : DirectError) (message : String) (env : Subtopic → Env)
  | guest (id : Nat) (reply : Reply) (env : Subtopic → Env)
  | unload

/-- The poll an event is about. -/
def PollEvent.poll : PollEvent → Option Nat
  | .begin _ => none
  | .told id .. => some id
  | .sample id _ => some id
  | .shown id _ => some id
  | .missed id .. => some id
  | .guest id .. => some id
  | .unload => none

namespace Polling

/-- A new entry, on the pool that is found. -/
def new (client : DirectClient) (householdId : String) (pool : Option (Keyed Node.nodeId)) :
    Polling :=
  { coordinator := .new householdId pool
    poller := .new client householdId
    tasks := fun _ => none
    begun := 0
    samples := 0
    ingested := []
    loaded := true }

/-- A poll waits for something else, or has returned. -/
def put (polling : Polling) (id : Nat) (task : Option Task) : Polling :=
  { polling with tasks := Function.update polling.tasks id task }

/-- Count a failure, and take the node offline when the count is met. -/
def countFailure (polling : Polling) (env : Subtopic → Env) : Polling :=
  let poller := { polling.poller with failures := polling.poller.failures + 1 }
  { polling with
    poller
    coordinator :=
      if poller.failures = directOfflineAfterFailures then
        polling.coordinator.ingest env poller.offlineMessages
      else polling.coordinator }

/-- A poll raises: the scheduled one counts what it knows, and the one after a command
swallows it. -/
def fail (polling : Polling) (id : Nat) (scheduled : Bool) (raised : Raised)
    (env : Subtopic → Env) : Polling :=
  if scheduled && DirectPoller.countsAsFailure raised then (polling.put id none).countFailure env
  else polling.put id none

/-- The poll is over, and the count with it. -/
def succeed (polling : Polling) (id : Nat) : Polling :=
  let polling := polling.put id none
  { polling with poller := { polling.poller with failures := 0 } }

/-- Go on with an answer to the second request. -/
def resume (polling : Polling) (id : Nat) (scheduled : Bool) (sample : Nat)
    (env : Subtopic → Env) : DirectPoller × Response → Polling
  | (poller, .failed raised) => { polling with poller }.fail id scheduled raised env
  | (poller, .foreign) =>
      if scheduled then { polling with poller }.succeed id
      else { polling with poller }.put id none
  | (poller, .shown nodeId messages) =>
      { polling.put id (some ⟨scheduled, .guest nodeId⟩) with
        poller
        coordinator := polling.coordinator.ingest env messages
        ingested := polling.ingested ++ [⟨sample, nodeId, messages, env⟩] }

/-- One event; one for which no poll waits does nothing. -/
def step (polling : Polling) : PollEvent → Polling
  | .begin scheduled =>
      if scheduled && !polling.loaded then polling
      else { polling.put polling.begun (some ⟨scheduled, .info⟩) with begun := polling.begun + 1 }
  | .told id reply env =>
      match polling.tasks id with
      | some ⟨scheduled, .info⟩ =>
          match polling.poller.client.request "/api/ha/info" reply with
          | .error raised => polling.fail id scheduled raised env
          | .ok info => polling.put id (some ⟨scheduled, .state info⟩)
      | _ => polling
  | .sample id reply =>
      match polling.tasks id with
      | some ⟨scheduled, .state info⟩ =>
          { polling.put id (some ⟨scheduled, .sampled info polling.samples reply⟩) with
            samples := polling.samples + 1 }
      | _ => polling
  | .shown id env =>
      match polling.tasks id with
      | some ⟨scheduled, .sampled info sample reply⟩ =>
          polling.resume id scheduled sample env (polling.poller.respond info reply)
      | _ => polling
  | .missed id error message env =>
      match polling.tasks id with
      | some ⟨scheduled, .state _⟩ => polling.fail id scheduled (.direct error message) env
      | some ⟨scheduled, .sampled ..⟩ => polling.fail id scheduled (.direct error message) env
      | _ => polling
  | .guest id reply env =>
      match polling.tasks id with
      | some ⟨_, .guest nodeId⟩ =>
          { polling with
            coordinator :=
              polling.coordinator.ingest env (polling.poller.guestReplies reply nodeId) }.succeed id
      | _ => polling
  | .unload =>
      if polling.loaded then
        { polling with coordinator := { polling.coordinator with pool := none }, loaded := false }
      else polling

/-! ## What an event can do -/

/-- An event makes a poll raise, when something is wrong with what arrived. -/
inductive Raises (polling : Polling) : PollEvent → Bool → Raised → Prop where
  | told {id scheduled reply env raised} (waiting : polling.tasks id = some ⟨scheduled, .info⟩)
      (refused : polling.poller.client.request "/api/ha/info" reply = .error raised) :
      Raises polling (.told id reply env) scheduled raised
  | shown {id scheduled info sample reply env raised}
      (waiting : polling.tasks id = some ⟨scheduled, .sampled info sample reply⟩)
      (failed : (polling.poller.respond info reply).2 = .failed raised) :
      Raises polling (.shown id env) scheduled raised
  | unanswered {id scheduled info error message env}
      (waiting : polling.tasks id = some ⟨scheduled, .state info⟩) :
      Raises polling (.missed id error message env) scheduled (.direct error message)
  | lost {id scheduled info sample reply error message env}
      (waiting : polling.tasks id = some ⟨scheduled, .sampled info sample reply⟩) :
      Raises polling (.missed id error message env) scheduled (.direct error message)

/-- A scheduled poll fails in a way that is counted. -/
def Counts (polling : Polling) (event : PollEvent) : Prop :=
  ∃ raised, polling.Raises event true raised ∧ DirectPoller.countsAsFailure raised = true

/-- The outcomes of an event. -/
inductive Moves (polling : Polling) : PollEvent → Polling → Prop where
  | idle (event : PollEvent) : Moves polling event polling
  | begin {scheduled} (active : scheduled = true → polling.loaded = true) :
      Moves polling (.begin scheduled)
        { polling.put polling.begun (some ⟨scheduled, .info⟩) with begun := polling.begun + 1 }
  | told {id scheduled reply env info} (waiting : polling.tasks id = some ⟨scheduled, .info⟩)
      (answered : polling.poller.client.request "/api/ha/info" reply = .ok info) :
      Moves polling (.told id reply env) (polling.put id (some ⟨scheduled, .state info⟩))
  | sample {id scheduled info reply}
      (waiting : polling.tasks id = some ⟨scheduled, .state info⟩) :
      Moves polling (.sample id reply)
        { polling.put id (some ⟨scheduled, .sampled info polling.samples reply⟩) with
          samples := polling.samples + 1 }
  | counted {event id env} (counts : polling.Counts event) :
      Moves polling event ((polling.put id none).countFailure env)
  | dropped {event id} (poller : DirectPoller) (learnt : Option String)
      (keeps : poller = { polling.poller with nodeId := learnt })
      (named : ∀ nodeId, learnt = some nodeId →
        polling.poller.nodeId = some nodeId ∨ nodeId ≠ "") :
      Moves polling event ({ polling with poller }.put id none)
  | foreign {id env scheduled info sample reply} (poller : DirectPoller)
      (keeps : poller = { polling.poller with identityMismatchLogged := true })
      (waiting : polling.tasks id = some ⟨scheduled, .sampled info sample reply⟩)
      (responded : polling.poller.respond info reply = (poller, .foreign)) :
      Moves polling (.shown id env)
        (if scheduled then { polling with poller }.succeed id
          else { polling with poller }.put id none)
  | shown {id env scheduled info sample reply nodeId messages} (poller : DirectPoller)
      (keeps : poller = { polling.poller with nodeId := some nodeId })
      (waiting : polling.tasks id = some ⟨scheduled, .sampled info sample reply⟩)
      (responded : polling.poller.respond info reply = (poller, .shown nodeId messages))
      (named : nodeId ≠ "")
      (made : ∃ state told,
        stateToMessages state told polling.poller.householdId nodeId = .ok messages) :
      Moves polling (.shown id env)
        { polling.put id (some ⟨scheduled, .guest nodeId⟩) with
          poller
          coordinator := polling.coordinator.ingest env messages
          ingested := polling.ingested ++ [⟨sample, nodeId, messages, env⟩] }
  | guest {id reply env scheduled nodeId}
      (waiting : polling.tasks id = some ⟨scheduled, .guest nodeId⟩) :
      Moves polling (.guest id reply env)
        ({ polling with
          coordinator :=
            polling.coordinator.ingest env (polling.poller.guestReplies reply nodeId) }.succeed id)
  | unload (loaded : polling.loaded = true) :
      Moves polling .unload
        { polling with coordinator := { polling.coordinator with pool := none }, loaded := false }

end Polling

/-- What a poller is after a response. -/
inductive DirectPoller.Responds (poller : DirectPoller) : DirectPoller × Response → Prop where
  | failed (learnt : Option String) (raised : Raised)
      (named : ∀ nodeId, learnt = some nodeId → poller.nodeId = some nodeId ∨ nodeId ≠ "")
      (counted : countsAsFailure raised = true → learnt = poller.nodeId) :
      Responds poller ({ poller with nodeId := learnt }, .failed raised)
  | foreign : Responds poller ({ poller with identityMismatchLogged := true }, .foreign)
  | shown {nodeId : String} {messages : List HomeKeyMessage} (named : nodeId ≠ "")
      (made : ∃ state told, stateToMessages state told poller.householdId nodeId = .ok messages) :
      Responds poller ({ poller with nodeId := some nodeId }, .shown nodeId messages)

theorem DirectPoller.responds (poller : DirectPoller) (info : Json) (reply : Reply) :
    poller.Responds (poller.respond info reply) := by
  have kept (raised : Raised) : poller.Responds (poller, .failed raised) :=
    .failed poller.nodeId raised (fun nodeId known => Or.inl known) fun _ => rfl
  unfold respond
  cases poller.client.request "/api/ha/state" reply with
  | error raised => exact kept raised
  | ok state =>
      dsimp only
      cases resolved : resolveIdentity state info with
      | error raised => exact kept raised
      | ok identity =>
          obtain ⟨householdId, nodeId⟩ := identity
          have named := resolveIdentity_named resolved
          dsimp only
          by_cases home : householdId = poller.householdId
          · subst home
            rw [if_pos rfl]
            cases translated : messagesOf state info poller.householdId nodeId with
            | error raised =>
                refine .failed (some nodeId) raised ?_ fun counted => ?_
                · rintro other ⟨⟩
                  exact Or.inr named
                · rw [messagesOf_error translated] at counted
                  cases counted
            | ok messages =>
                obtain ⟨shown, told, -, -, made⟩ := messagesOf_eq_ok translated
                exact .shown named ⟨shown, told, made⟩
          · rw [if_neg home]
            exact .foreign

namespace Polling

variable {polling : Polling}

/-- A poll that raises is counted, or leaves at most a node id. -/
theorem moves_fail {event : PollEvent} {id : Nat} {scheduled : Bool} {raised : Raised}
    {env : Subtopic → Env} {learnt : Option String}
    (raises : polling.Raises event scheduled raised)
    (named : ∀ nodeId, learnt = some nodeId → polling.poller.nodeId = some nodeId ∨ nodeId ≠ "")
    (kept : DirectPoller.countsAsFailure raised = true → learnt = polling.poller.nodeId) :
    Moves polling event (({ polling with
      poller := { polling.poller with nodeId := learnt } } : Polling).fail id scheduled raised
        env) := by
  rw [fail]
  split
  · next counts =>
      obtain ⟨rfl, counted⟩ := Bool.and_eq_true_iff.mp counts
      rw [kept counted]
      exact .counted ⟨raised, raises, counted⟩
  · exact .dropped _ learnt rfl named

theorem moves_step (polling : Polling) (event : PollEvent) :
    Moves polling event (polling.step event) := by
  cases event with
  | begin scheduled =>
      rw [step]
      split
      · exact .idle _
      · next active =>
          refine .begin fun timed => ?_
          cases loaded : polling.loaded with
          | true => rfl
          | false => simp [timed, loaded] at active
  | told id reply env =>
      rw [step]
      split
      · next scheduled waiting =>
          split
          · next raised refused =>
              exact moves_fail (.told waiting refused) (fun _ known => Or.inl known) fun _ => rfl
          · next info answered => exact .told waiting answered
      · exact .idle _
  | sample id reply =>
      rw [step]
      split
      · next scheduled info waiting => exact .sample waiting
      · exact .idle _
  | shown id env =>
      rw [step]
      split
      · next scheduled info sample reply waiting =>
          have responds := polling.poller.responds info reply
          cases responded : polling.poller.respond info reply with
          | mk poller response =>
              rw [responded] at responds
              cases responds with
              | failed learnt raised named counted =>
                  exact moves_fail (.shown waiting (by rw [responded])) named counted
              | foreign => exact .foreign _ rfl waiting responded
              | shown named made => exact .shown _ rfl waiting responded named made
      · exact .idle _
  | missed id error message env =>
      rw [step]
      split
      · next scheduled info waiting =>
          exact moves_fail (.unanswered waiting) (fun _ known => Or.inl known) fun _ => rfl
      · next scheduled info sample reply waiting =>
          exact moves_fail (.lost waiting) (fun _ known => Or.inl known) fun _ => rfl
      · exact .idle _
  | guest id reply env =>
      rw [step]
      split
      · next scheduled nodeId waiting => exact .guest waiting
      · exact .idle _
  | unload =>
      rw [step]
      split
      · next loaded => exact .unload loaded
      · exact .idle _

@[simp]
theorem tasks_put_self (polling : Polling) (id : Nat) (task : Option Task) :
    (polling.put id task).tasks id = task := Function.update_self ..

theorem tasks_put_of_ne {id other : Nat} (apart : other ≠ id) (task : Option Task) :
    (polling.put id task).tasks other = polling.tasks other := Function.update_of_ne apart ..

theorem fail_of_counted {raised : Raised} (counted : DirectPoller.countsAsFailure raised = true)
    (id : Nat) (env : Subtopic → Env) :
    polling.fail id true raised env = (polling.put id none).countFailure env := by
  rw [fail, Bool.true_and, if_pos counted]

theorem coordinator_countFailure (polling : Polling) (id : Nat) (env : Subtopic → Env) :
    ((polling.put id none).countFailure env).coordinator =
      if polling.poller.failures + 1 = directOfflineAfterFailures then
        polling.coordinator.ingest env polling.poller.offlineMessages
      else polling.coordinator := rfl

/-- A failure that counts is counted. -/
theorem step_of_counts {event : PollEvent} (counts : polling.Counts event) :
    ∃ id env, polling.step event = (polling.put id none).countFailure env := by
  obtain ⟨raised, raises, counted⟩ := counts
  cases raises with
  | @told id _ reply env _ waiting refused =>
      refine ⟨id, env, ?_⟩
      rw [step, waiting]
      dsimp only
      rw [refused]
      exact fail_of_counted counted id env
  | @shown id _ info sample reply env _ waiting failed =>
      refine ⟨id, env, ?_⟩
      rw [step, waiting]
      dsimp only
      have responds := polling.poller.responds info reply
      cases responded : polling.poller.respond info reply with
      | mk poller response =>
          rw [responded] at responds failed
          cases responds with
          | failed learnt cause named kept =>
              cases failed
              rw [kept counted]
              exact fail_of_counted counted id env
          | foreign => cases failed
          | shown named made => cases failed
  | @unanswered id _ info error message env waiting =>
      refine ⟨id, env, ?_⟩
      rw [step, waiting]
      exact fail_of_counted counted id env
  | @lost id _ info sample reply error message env waiting =>
      refine ⟨id, env, ?_⟩
      rw [step, waiting]
      exact fail_of_counted counted id env

/-! ## What all events keep -/

/-- The entry, its poller and its suspended polls are of one household, and no node
goes without an id. -/
structure Sound (householdId : String) (polling : Polling) : Prop where
  registry : polling.coordinator.householdId = householdId
  home : polling.poller.householdId = householdId
  named : ∀ nodeId, polling.poller.nodeId = some nodeId → nodeId ≠ ""
  guests : ∀ id scheduled nodeId, polling.tasks id = some ⟨scheduled, .guest nodeId⟩ →
    nodeId ≠ ""

variable {householdId : String}

theorem sound_new (client : DirectClient) (householdId : String)
    (pool : Option (Keyed Node.nodeId)) : Sound householdId (new client householdId pool) where
  registry := rfl
  home := rfl
  named := fun nodeId known => by cases known
  guests := fun id scheduled nodeId waiting => by cases waiting

/-- A poll goes on to wait for something else than a guest document, or returns. -/
theorem Sound.put (sound : Sound householdId polling) {id : Nat} {task : Option Task}
    (other : ∀ scheduled nodeId, task = some ⟨scheduled, .guest nodeId⟩ → nodeId ≠ "") :
    Sound householdId (polling.put id task) := by
  refine ⟨sound.registry, sound.home, sound.named, ?_⟩
  intro waiting scheduled nodeId found
  by_cases same : waiting = id
  · rw [same, tasks_put_self] at found
    exact other scheduled nodeId found
  · rw [tasks_put_of_ne same] at found
    exact sound.guests waiting scheduled nodeId found

theorem Sound.withPoller (sound : Sound householdId polling) {poller : DirectPoller}
    (home : poller.householdId = polling.poller.householdId)
    (named : ∀ nodeId, poller.nodeId = some nodeId → nodeId ≠ "") :
    Sound householdId { polling with poller } :=
  ⟨sound.registry, home.trans sound.home, named, sound.guests⟩

theorem Sound.countFailure (sound : Sound householdId polling) (id : Nat)
    (env : Subtopic → Env) : Sound householdId ((polling.put id none).countFailure env) := by
  have returned : Sound householdId (polling.put id none) :=
    sound.put fun scheduled nodeId waiting => by cases waiting
  refine ⟨?_, sound.home, sound.named, returned.guests⟩
  rw [Polling.countFailure]
  dsimp only
  split
  · rw [Coordinator.householdId_ingest]
    exact sound.registry
  · exact sound.registry

theorem Sound.succeed (sound : Sound householdId polling) (id : Nat) :
    Sound householdId (polling.succeed id) := by
  have returned : Sound householdId (polling.put id none) :=
    sound.put fun scheduled nodeId waiting => by cases waiting
  exact ⟨sound.registry, sound.home, sound.named, returned.guests⟩

theorem Sound.moves (sound : Sound householdId polling) {event : PollEvent} {after : Polling}
    (moves : Moves polling event after) : Sound householdId after := by
  cases moves with
  | idle => exact sound
  | @begin scheduled active =>
      have waiting : Sound householdId (polling.put polling.begun (some ⟨scheduled, .info⟩)) :=
        sound.put fun _ _ other => by cases other
      exact ⟨waiting.registry, waiting.home, waiting.named, waiting.guests⟩
  | told waiting answered => exact sound.put fun _ _ other => by cases other
  | @sample id scheduled info reply waiting =>
      have asked : Sound householdId
          (polling.put id (some ⟨scheduled, .sampled info polling.samples reply⟩)) :=
        sound.put fun _ _ other => by cases other
      exact ⟨asked.registry, asked.home, asked.named, asked.guests⟩
  | counted counts => exact sound.countFailure _ _
  | dropped poller learnt keeps named =>
      have told : Sound householdId { polling with poller } := by
        apply sound.withPoller (by rw [keeps])
        intro nodeId known
        rw [keeps] at known
        rcases named nodeId known with kept | filled
        · exact sound.named nodeId kept
        · exact filled
      exact told.put fun _ _ other => by cases other
  | foreign poller keeps waiting responded =>
      have told : Sound householdId { polling with poller } := by
        apply sound.withPoller (by rw [keeps])
        intro nodeId known
        rw [keeps] at known
        exact sound.named nodeId known
      split
      · exact told.succeed _
      · exact told.put fun _ _ other => by cases other
  | @shown id env scheduled info sample reply nodeId messages poller keeps waiting responded named
      made =>
      subst keeps
      have asked : Sound householdId (polling.put id (some ⟨scheduled, .guest nodeId⟩)) := by
        apply sound.put
        rintro _ _ ⟨⟩
        exact named
      refine ⟨?_, sound.home, ?_, asked.guests⟩
      · rw [Coordinator.householdId_ingest]
        exact sound.registry
      · rintro _ ⟨⟩
        exact named
  | @guest id reply env scheduled nodeId waiting =>
      have ingested : Sound householdId { polling with
          coordinator :=
            polling.coordinator.ingest env (polling.poller.guestReplies reply nodeId) } := by
        refine ⟨?_, sound.home, sound.named, sound.guests⟩
        rw [Coordinator.householdId_ingest]
        exact sound.registry
      exact ingested.succeed id
  | unload loaded => exact ⟨sound.registry, sound.home, sound.named, sound.guests⟩

theorem Sound.step (sound : Sound householdId polling) (event : PollEvent) :
    Sound householdId (polling.step event) :=
  sound.moves (polling.moves_step event)

theorem sound_run (client : DirectClient) (householdId : String)
    (pool : Option (Keyed Node.nodeId)) (events : List PollEvent) :
    Sound householdId (run Polling.step (new client householdId pool) events) := by
  have keeps (polling : Polling) (event : PollEvent) (sound : Sound householdId polling) :
      Sound householdId (polling.step event) := sound.step event
  exact run_keeps keeps (sound_new client householdId pool) events

/-! ## A poll without interruption -/

variable {id : Nat} {event : PollEvent}

/-- Nothing arrives for a poll that has returned. -/
theorem step_of_returned (about : event.poll = some id) (returned : polling.tasks id = none) :
    polling.step event = polling := by
  cases event with
  | begin scheduled => cases about
  | unload => cases about
  | told other reply env =>
      cases about
      rw [step, returned]
  | sample other reply =>
      cases about
      rw [step, returned]
  | shown other env =>
      cases about
      rw [step, returned]
  | missed other error message env =>
      cases about
      rw [step, returned]
  | guest other reply env =>
      cases about
      rw [step, returned]

theorem run_of_returned {events : List PollEvent}
    (about : ∀ event ∈ events, event.poll = some id) (returned : polling.tasks id = none) :
    run step polling events = polling := by
  induction events with
  | nil => rfl
  | cons event rest ih =>
      rw [run_cons, step_of_returned (about event List.mem_cons_self) returned]
      exact ih fun later member => about later (List.mem_cons_of_mem event member)

theorem step_begin {scheduled : Bool} (active : scheduled = true → polling.loaded = true) :
    polling.step (.begin scheduled) =
      { polling.put polling.begun (some ⟨scheduled, .info⟩) with
        begun := polling.begun + 1 } := by
  rw [step, if_neg]
  intro inactive
  rw [Bool.and_eq_true] at inactive
  rw [active inactive.1] at inactive
  cases inactive.2

/-- A new poll that waits for the answer the device has sampled. -/
def asked (polling : Polling) (scheduled : Bool) (info : Json) (reply : Reply) : Polling :=
  { polling.put polling.begun (some ⟨scheduled, .sampled info polling.samples reply⟩) with
    begun := polling.begun + 1
    samples := polling.samples + 1 }

theorem run_asked (polling : Polling) (scheduled : Bool) (info : Dict) (reply : Reply)
    (env : Subtopic → Env) (active : scheduled = true → polling.loaded = true) :
    run step polling [.begin scheduled, .told polling.begun (.answer (.obj info)) env,
        .sample polling.begun reply] = polling.asked scheduled (.obj info) reply := by
  rw [run_cons, step_begin active, run_cons, step]
  dsimp only
  rw [tasks_put_self]
  dsimp only
  rw [request_answer, run_cons, run_nil, step]
  dsimp only
  rw [tasks_put_self]
  simp only [put, asked, Function.update_idem]

/-- A poll whose answer is of the household shows it, and reads the guest document. -/
theorem step_answered {id sample : Nat} {scheduled : Bool} {info state : Dict} {nodeId : String}
    {messages : List HomeKeyMessage}
    (waiting : polling.tasks id =
      some ⟨scheduled, .sampled (.obj info) sample (.answer (.obj state))⟩)
    (resolved : resolveIdentity (.obj state) (.obj info) =
      .ok (polling.poller.householdId, nodeId))
    (translated : DirectPoller.messagesOf (.obj state) (.obj info) polling.poller.householdId
      nodeId = .ok messages) (env : Subtopic → Env) :
    polling.step (.shown id env) =
      { polling.put id (some ⟨scheduled, .guest nodeId⟩) with
        poller := { polling.poller with nodeId := some nodeId }
        coordinator := polling.coordinator.ingest env messages
        ingested := polling.ingested ++ [⟨sample, nodeId, messages, env⟩] } := by
  rw [step, waiting]
  dsimp only
  rw [DirectPoller.respond_answer resolved translated, resume]

/-- A scheduled poll that is not answered is counted. -/
theorem run_unanswered (polling : Polling) (env : Subtopic → Env)
    (active : polling.loaded = true) :
    run step polling [.begin true, .told polling.begun (.timedOut false) env] =
      ({ polling.put polling.begun none with begun := polling.begun + 1 } :
        Polling).countFailure env := by
  rw [run_cons, step_begin fun _ => active, run_cons, run_nil, step]
  dsimp only
  rw [tasks_put_self]
  dsimp only [DirectClient.request]
  rw [fail_of_counted rfl]
  simp only [put, Function.update_idem]

/-- The events of a poll that nothing interrupts. -/
def uninterrupted (id : Nat) (scheduled : Bool) (world : PollWorld) : List PollEvent :=
  [.begin scheduled, .told id world.info world.env, .sample id world.state,
    .shown id world.env, .guest id world.guest world.env]

/-- What a poll leaves behind, scheduled or after a command. -/
def polled (polling : Polling) (scheduled : Bool) (world : PollWorld) : Polled :=
  if scheduled then polling.poller.asyncPollSafely polling.coordinator world
  else polling.poller.asyncPollOnce polling.coordinator world

/-- The coordinator and the poller are what a poll leaves. -/
def Leaves (polling : Polling) (polled : Polled) : Prop :=
  polling.coordinator = polled.coordinator ∧ polling.poller = polled.poller

variable {world : PollWorld} {scheduled : Bool} {info : Json}

theorem leaves_fail {coordinator : Coordinator} {poller : DirectPoller} {raised : Raised}
    (once : polling.poller.asyncPollOnce polling.coordinator world =
      ⟨coordinator, poller, some raised⟩) :
    Leaves (({ polling with coordinator, poller } : Polling).fail id scheduled raised world.env)
      (polling.polled scheduled world) := by
  rw [polled, fail]
  cases scheduled with
  | false =>
      rw [if_neg Bool.false_ne_true, once]
      exact ⟨rfl, rfl⟩
  | true =>
      rw [if_pos rfl, DirectPoller.asyncPollSafely_of_raised once, Bool.true_and]
      by_cases counted : DirectPoller.countsAsFailure raised = true
      · rw [if_pos counted, if_pos counted, DirectPoller.asyncMarkOffline_eq]
        exact ⟨rfl, rfl⟩
      · rw [if_neg counted, if_neg counted]
        exact ⟨rfl, rfl⟩

/-- A poll that returns without an exception ends the count when it is scheduled. -/
theorem polled_of_returned {coordinator : Coordinator} {poller : DirectPoller}
    (once : polling.poller.asyncPollOnce polling.coordinator world =
      ⟨coordinator, poller, none⟩) :
    polling.polled scheduled world =
      ⟨coordinator, if scheduled then { poller with failures := 0 } else poller, none⟩ := by
  rw [polled]
  cases scheduled with
  | false => exact once
  | true => exact DirectPoller.asyncPollSafely_of_returned once

theorem tasks_fail (polling : Polling) (id : Nat) (scheduled : Bool) (raised : Raised)
    (env : Subtopic → Env) :
    (polling.fail id scheduled raised env).tasks = Function.update polling.tasks id none := by
  rw [fail]
  split
  · rfl
  · rfl

theorem returned_fail (polling : Polling) (id : Nat) (scheduled : Bool) (raised : Raised)
    (env : Subtopic → Env) : (polling.fail id scheduled raised env).tasks id = none := by
  rw [tasks_fail, Function.update_self]

theorem returned_succeed (polling : Polling) (id : Nat) :
    (polling.succeed id).tasks id = none := Function.update_self ..

theorem leaves_of_sampled {sample : Nat}
    (told : polling.poller.client.request "/api/ha/info" world.info = .ok info)
    (waiting : polling.tasks id = some ⟨scheduled, .sampled info sample world.state⟩) :
    Leaves (run step polling [.shown id world.env, .guest id world.guest world.env])
      (polling.polled scheduled world) := by
  have once := DirectPoller.asyncPollOnce_of_told polling.coordinator told
  rw [run_cons, step, waiting]
  dsimp only
  cases responded : polling.poller.respond info world.state with
  | mk poller response =>
      rw [responded] at once
      cases response with
      | failed raised =>
          rw [resume, run_of_returned (by simp [PollEvent.poll]) (returned_fail ..)]
          exact leaves_fail once
      | foreign =>
          rw [polled_of_returned once, resume]
          split
          · rw [run_of_returned (by simp [PollEvent.poll]) (returned_succeed ..)]
            exact ⟨rfl, rfl⟩
          · rw [run_of_returned (by simp [PollEvent.poll]) (tasks_put_self ..)]
            exact ⟨rfl, rfl⟩
      | shown nodeId messages =>
          rw [polled_of_returned once, resume, run_cons, run_nil, step]
          dsimp only
          rw [tasks_put_self]
          dsimp only
          rw [Coordinator.ingest_append]
          refine ⟨rfl, ?_⟩
          split
          · rfl
          · rfl

theorem leaves_of_told (told : polling.poller.client.request "/api/ha/info" world.info = .ok info)
    (waiting : polling.tasks id = some ⟨scheduled, .state info⟩) :
    Leaves (run step polling [.sample id world.state, .shown id world.env,
      .guest id world.guest world.env]) (polling.polled scheduled world) := by
  rw [run_cons, step, waiting]
  dsimp only
  have sampled := @leaves_of_sampled
    { polling.put id (some ⟨scheduled, .sampled info polling.samples world.state⟩) with
      samples := polling.samples + 1 } id world scheduled info polling.samples told
    (tasks_put_self ..)
  exact sampled

theorem leaves_of_begun (waiting : polling.tasks id = some ⟨scheduled, .info⟩) :
    Leaves (run step polling [.told id world.info world.env, .sample id world.state,
      .shown id world.env, .guest id world.guest world.env])
      (polling.polled scheduled world) := by
  rw [run_cons, step, waiting]
  dsimp only
  cases told : polling.poller.client.request "/api/ha/info" world.info with
  | error raised =>
      dsimp only
      rw [run_of_returned (by simp [PollEvent.poll]) (returned_fail ..)]
      exact leaves_fail (DirectPoller.asyncPollOnce_of_untold _ told)
  | ok info =>
      exact @leaves_of_told (polling.put id (some ⟨scheduled, .state info⟩)) id world scheduled
        info told (tasks_put_self ..)

/-- A poll that nothing interrupts is the poll of a direct entry. -/
theorem run_uninterrupted (polling : Polling) (scheduled : Bool) (world : PollWorld)
    (active : scheduled = true → polling.loaded = true) :
    Leaves (run step polling (uninterrupted polling.begun scheduled world))
      (polling.polled scheduled world) := by
  rw [uninterrupted, run_cons, step_begin active]
  exact @leaves_of_begun
    { polling.put polling.begun (some ⟨scheduled, .info⟩) with begun := polling.begun + 1 }
    polling.begun world scheduled (tasks_put_self ..)

end Polling

end HomeKeyHousehold
