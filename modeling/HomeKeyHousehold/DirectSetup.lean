import HomeKeyHousehold.DirectTrust
import HomeKeyHousehold.EntrySetup

/-!
# Setting up the entry of a node

The set-up of an entry of a node verifies the node and reads it once, and schedules
the recurring poll last, once the platforms exist.  Unloading stops the poll before
it asks the platforms.  Every run of set-ups, scheduled polls and unloadings is shown
to poll only what is loaded.
-/

namespace HomeKeyHousehold

open Library

/-! ## What a set-up acquires -/

/-- A runtime in `hass.data`, with the `_unsubscribe` of its poller. -/
structure LiveDirect where
  runtime : Runtime
  unsubscribe : Option Nat

/-- What Home Assistant holds for one entry of a node; the timers are the interval
timers that are running, by their number. -/
structure DirectHass where
  scheduled : Nat
  timers : List Nat
  runtime : Option LiveDirect
  updateListener : Bool
  onUnload : List OnUnload
  loaded : Bool

/-- What the world contributes to one set-up. -/
structure DirectSetup where
  configured : ConfiguredEntry
  storedKeys : Option Dict
  pool : Option (Keyed Node.nodeId)
  start : SetupWorld
  firstRefresh : Except SetupFailure Unit
  forward : Except SetupFailure Unit

namespace DirectHass

/-- Nothing was set up yet. -/
def new : DirectHass :=
  { scheduled := 0
    timers := []
    runtime := none
    updateListener := false
    onUnload := []
    loaded := false }

/-- `hass.data[DOMAIN][entry.entry_id] = runtime`. -/
def storeRuntime (hass : DirectHass) (runtime : Runtime) : DirectHass :=
  { hass with runtime := some ⟨runtime, none⟩ }

/-- `DirectPoller.async_start`, of the poller of the runtime. -/
def asyncStart (hass : DirectHass) : DirectHass :=
  { hass with
    scheduled := hass.scheduled + 1
    timers := hass.timers ++ [hass.scheduled]
    runtime := hass.runtime.map fun live => { live with unsubscribe := some hass.scheduled } }

/-- `DirectPoller.async_stop`, of the poller of the runtime. -/
def asyncStop (hass : DirectHass) : DirectHass :=
  match hass.runtime with
  | none => hass
  | some live =>
      match live.unsubscribe with
      | none => hass
      | some timer =>
          { hass with
            timers := hass.timers.erase timer
            runtime := some { live with unsubscribe := none } }

/-- `entry.async_on_unload(entry.add_update_listener(_async_reload_entry))`. -/
def addUpdateListener (hass : DirectHass) : DirectHass :=
  { hass with
    updateListener := true
    onUnload := hass.onUnload ++ [.removeUpdateListener] }

/-- Run the callbacks registered with `async_on_unload`. -/
def processOnUnload (hass : DirectHass) : DirectHass :=
  { hass.onUnload.foldl (fun hass callback =>
      match callback with
      | .removeUpdateListener => { hass with updateListener := false }) hass with
    onUnload := [] }

end DirectHass

/-- A poll of what is running. -/
def LiveDirect.polled (live : LiveDirect) (world : PollWorld) : LiveDirect :=
  match live.runtime.transport with
  | .mqtt _ => live
  | .direct poller =>
      let polled := poller.asyncPollSafely live.runtime.coordinator world
      { live with
        runtime :=
          { live.runtime with
            coordinator := polled.coordinator
            transport := .direct polled.poller } }

namespace DirectSetup

/-- The runtime of the entry, after its first reading. -/
def runtime (world : DirectSetup) (coordinator : Coordinator) (poller : DirectPoller) : Runtime :=
  { entryId := world.configured.entryId
    entry := world.configured.entry
    options := world.configured.options
    coordinator
    transport := .direct poller }

/-- The part of `async_setup_entry` that follows the first reading. -/
def onceStarted (world : DirectSetup) (started : Coordinator × DirectPoller) :
    EStateM SetupFailure DirectHass Unit := do
  modify fun hass => hass.storeRuntime (world.runtime started.1 started.2)
  ofExcept world.firstRefresh
  ofExcept world.forward
  modify DirectHass.asyncStart
  modify DirectHass.addUpdateListener

/-- `async_setup_entry`, for an entry of a node. -/
def asyncSetupEntry (sha256 : Sha256) (world : DirectSetup) :
    EStateM SetupFailure DirectHass Unit := do
  let _ ← ofExcept ((CommandKeyStore.asyncLoad world.storedKeys).mapError fun _ =>
    SetupFailure.raised)
  let started ← ofExcept (startDirect sha256 world.configured.entry
    (.new world.configured.entry.householdId world.pool) world.start)
  world.onceStarted started

end DirectSetup

/-! ## Setting up, polling and unloading -/

/-- What happens to the entry next. -/
inductive DirectEntryEvent where
  | setUp (world : DirectSetup)
  | tick (timer : Nat) (world : PollWorld)
  | unload (platforms : Except Raised Bool)

namespace DirectHass

/-- `async_unload_entry`, as far as the poll and the runtime go. -/
def asyncUnloadEntry (platforms : Except Raised Bool) : EStateM Raised DirectHass Bool := do
  modify asyncStop
  let unloadOk ← ofExcept platforms
  modify fun hass => { hass with runtime := none }
  return unloadOk

/-- `_async_tick`: a timer that is running polls the poller that started it. -/
def asyncTick (hass : DirectHass) (timer : Nat) (world : PollWorld) : DirectHass :=
  if timer ∈ hass.timers then
    { hass with
      runtime := hass.runtime.map fun live =>
        if live.unsubscribe = some timer then live.polled world else live }
  else hass

/-- Home Assistant sets up what is not loaded and unloads what is; a failed set-up runs
the registered callbacks and nothing else. -/
def step (sha256 : Sha256) (hass : DirectHass) : DirectEntryEvent → DirectHass
  | .setUp world =>
      if hass.loaded then hass
      else
        match (world.asyncSetupEntry sha256).run hass with
        | .ok () after => { after with loaded := true }
        | .error _ after => after.processOnUnload
  | .tick timer world => hass.asyncTick timer world
  | .unload platforms =>
      if hass.loaded then
        match (asyncUnloadEntry platforms).run hass with
        | .ok true after => { after.processOnUnload with loaded := false }
        | .ok false after => after
        | .error _ after => after
      else hass

end DirectHass

/-! ## How far a set-up gets -/

/-- What a set-up that raises leaves beside the state it began in: a runtime that is
not polled at most. -/
structure DirectHass.LeftBy (before after : DirectHass) : Prop where
  scheduled : after.scheduled = before.scheduled
  timers : after.timers = before.timers
  updateListener : after.updateListener = before.updateListener
  onUnload : after.onUnload = before.onUnload
  loaded : after.loaded = before.loaded
  runtime : after.runtime = before.runtime ∨
    ∃ runtime poller, after.runtime = some ⟨runtime, none⟩ ∧ runtime.transport = .direct poller

namespace DirectSetup

variable {world : DirectSetup} {hass : DirectHass}

theorem onceStarted_cases (world : DirectSetup) (started : Coordinator × DirectPoller)
    (hass : DirectHass) :
    (∃ failure after, (world.onceStarted started).run hass = .error failure after ∧
        hass.LeftBy after) ∨
      (world.onceStarted started).run hass =
        .ok ()
          ((hass.storeRuntime (world.runtime started.1 started.2)).asyncStart).addUpdateListener := by
  rw [onceStarted, EStateM.run_bind, EStateM.run_modify]
  dsimp only
  have left : hass.LeftBy (hass.storeRuntime (world.runtime started.1 started.2)) :=
    ⟨rfl, rfl, rfl, rfl, rfl, Or.inr ⟨_, started.2, rfl, rfl⟩⟩
  rw [ofExcept_bind]
  cases refreshed : world.firstRefresh with
  | error failure => exact Or.inl ⟨failure, _, rfl, left⟩
  | ok value =>
      dsimp only
      rw [ofExcept_bind]
      cases forwarded : world.forward with
      | error failure => exact Or.inl ⟨failure, _, rfl, left⟩
      | ok value => exact Or.inr rfl

/-- A set-up raises and leaves no timer, or completes and leaves one of its own. -/
theorem asyncSetupEntry_cases (sha256 : Sha256) (world : DirectSetup) (hass : DirectHass) :
    (∃ failure after, (world.asyncSetupEntry sha256).run hass = .error failure after ∧
        hass.LeftBy after) ∨
      ∃ runtime poller, runtime.transport = .direct poller ∧
        (world.asyncSetupEntry sha256).run hass =
          .ok () ((hass.storeRuntime runtime).asyncStart).addUpdateListener := by
  have same : hass.LeftBy hass := ⟨rfl, rfl, rfl, rfl, rfl, Or.inl rfl⟩
  rw [asyncSetupEntry, ofExcept_bind]
  cases (CommandKeyStore.asyncLoad world.storedKeys).mapError fun _ => SetupFailure.raised with
  | error failure => exact Or.inl ⟨failure, hass, rfl, same⟩
  | ok store =>
      dsimp only
      rw [ofExcept_bind]
      cases startDirect sha256 world.configured.entry
          (.new world.configured.entry.householdId world.pool) world.start with
      | error failure => exact Or.inl ⟨failure, hass, rfl, same⟩
      | ok started =>
          rcases world.onceStarted_cases started hass with failed | done
          · exact Or.inl failed
          · exact Or.inr ⟨world.runtime started.1 started.2, started.2, rfl, done⟩

end DirectSetup

/-! ## What is polled -/

namespace DirectHass

/-- The only timer there may be is that of the poller of the runtime; an entry that is
not loaded has none, and what unloading undoes is registered while it is loaded. -/
structure Paced (hass : DirectHass) : Prop where
  held : hass.timers = (hass.runtime.bind LiveDirect.unsubscribe).toList
  idle : hass.loaded = false → hass.timers = []
  listens : hass.updateListener = hass.loaded
  registered : hass.onUnload = if hass.loaded then [.removeUpdateListener] else []
  polls : ∀ live, hass.runtime = some live → ∃ poller, live.runtime.transport = .direct poller

variable {sha256 : Sha256} {hass after : DirectHass}

theorem Paced.new : Paced .new :=
  ⟨rfl, fun _ => rfl, rfl, rfl, fun live absent => by cases absent⟩

theorem processOnUnload_of_nothing (nothing : hass.onUnload = []) :
    hass.processOnUnload = hass := by
  rw [processOnUnload, nothing]
  dsimp only [List.foldl_nil]
  rw [← nothing]

/-- A set-up that raised leaves no timer. -/
theorem paced_of_left (paced : hass.Paced) (unloaded : hass.loaded = false)
    (left : hass.LeftBy after) : after.processOnUnload.Paced := by
  have nothing : after.onUnload = [] := by
    rw [left.onUnload, paced.registered, unloaded]
    rfl
  rw [processOnUnload_of_nothing nothing]
  have idle : after.timers = [] := left.timers.trans (paced.idle unloaded)
  have down : after.loaded = false := left.loaded.trans unloaded
  refine ⟨?_, fun _ => idle, ?_, by rw [nothing, down]; rfl, ?_⟩
  · rcases left.runtime with same | ⟨runtime, poller, stored, -⟩
    · rw [left.timers, same]
      exact paced.held
    · rw [idle, stored]
      rfl
  · rw [left.updateListener, left.loaded]
    exact paced.listens
  · rcases left.runtime with same | ⟨runtime, poller, stored, direct⟩
    · rw [same]
      exact paced.polls
    · intro live running
      cases stored.symm.trans running
      exact ⟨poller, direct⟩

/-- A set-up that completes schedules the only timer. -/
theorem paced_of_completed (paced : hass.Paced) (unloaded : hass.loaded = false)
    {runtime : Runtime} {poller : DirectPoller} (direct : runtime.transport = .direct poller) :
    Paced { ((hass.storeRuntime runtime).asyncStart).addUpdateListener with loaded := true } where
  held := by
    change hass.timers ++ [hass.scheduled] = [hass.scheduled]
    rw [paced.idle unloaded]
    rfl
  idle := fun down => by cases down
  listens := rfl
  registered := by
    change hass.onUnload ++ _ = _
    rw [paced.registered, unloaded]
    rfl
  polls := fun live running => by
    cases running
    exact ⟨poller, direct⟩

theorem polled_unsubscribe (live : LiveDirect) (world : PollWorld) :
    (live.polled world).unsubscribe = live.unsubscribe := by
  unfold LiveDirect.polled
  split <;> rfl

theorem polled_direct {live : LiveDirect} (world : PollWorld)
    (direct : ∃ poller, live.runtime.transport = .direct poller) :
    ∃ poller, (live.polled world).runtime.transport = .direct poller := by
  obtain ⟨poller, transport⟩ := direct
  rw [LiveDirect.polled, transport]
  exact ⟨_, rfl⟩

/-- A poll leaves the timers and the entry as they are. -/
theorem paced_asyncTick (paced : hass.Paced) (timer : Nat) (world : PollWorld) :
    (hass.asyncTick timer world).Paced := by
  unfold asyncTick
  split
  · refine ⟨?_, paced.idle, paced.listens, paced.registered, fun live running => ?_⟩
    · rw [paced.held]
      dsimp only
      cases hass.runtime with
      | none => rfl
      | some live =>
          simp only [Option.map_some, Option.bind_some]
          split
          · rw [polled_unsubscribe]
          · rfl
    · obtain ⟨old, was, rfl⟩ := Option.map_eq_some_iff.mp running
      split
      · exact polled_direct world (paced.polls old was)
      · exact paced.polls old was
  · exact paced

/-- Stopping takes the only timer back. -/
theorem timers_asyncStop (paced : hass.Paced) : hass.asyncStop.timers = [] := by
  have held := paced.held
  unfold asyncStop
  split
  · next absent =>
      rw [absent] at held
      exact held
  · next live running =>
      rw [running, Option.bind_some] at held
      split
      · next stopped =>
          rw [stopped] at held
          exact held
      · next timer going =>
          dsimp only
          rw [held, going]
          exact List.erase_cons_head timer []

/-- What is stopped is not polled, and is what it was otherwise. -/
theorem paced_asyncStop (paced : hass.Paced) : hass.asyncStop.Paced := by
  have idle := timers_asyncStop paced
  cases running : hass.runtime with
  | none =>
      have same : hass.asyncStop = hass := by rw [asyncStop, running]
      rw [same]
      exact paced
  | some live =>
      cases going : live.unsubscribe with
      | none =>
          have same : hass.asyncStop = hass := by
            rw [asyncStop, running]
            dsimp only
            rw [going]
          rw [same]
          exact paced
      | some timer =>
          have stops : hass.asyncStop =
              { hass with
                timers := hass.timers.erase timer
                runtime := some { live with unsubscribe := none } } := by
            rw [asyncStop, running]
            dsimp only
            rw [going]
          rw [stops] at idle ⊢
          refine ⟨idle, fun _ => idle, paced.listens, paced.registered, fun other found => ?_⟩
          cases found
          exact paced.polls live running

theorem loaded_asyncStop (hass : DirectHass) : hass.asyncStop.loaded = hass.loaded := by
  unfold asyncStop
  split
  · rfl
  split <;> rfl

theorem run_asyncUnloadEntry (platforms : Except Raised Bool) (hass : DirectHass) :
    (asyncUnloadEntry platforms).run hass =
      match platforms with
      | .ok unloadOk => .ok unloadOk { hass.asyncStop with runtime := none }
      | .error raised => .error raised hass.asyncStop := by
  cases platforms with
  | ok unloadOk => rfl
  | error raised => rfl

/-- A runtime that is not polled can be dropped. -/
theorem Paced.dropped (paced : hass.Paced) (idle : hass.timers = []) :
    Paced { hass with runtime := none } :=
  ⟨idle, fun _ => idle, paced.listens, paced.registered, fun live absent => by cases absent⟩

/-- What unloading undoes is undone. -/
theorem Paced.unloaded (paced : hass.Paced) (idle : hass.timers = [])
    (loaded : hass.loaded = true) : Paced { hass.processOnUnload with loaded := false } := by
  have registered : hass.onUnload = [.removeUpdateListener] := by
    rw [paced.registered, loaded]
    rfl
  rw [processOnUnload, registered]
  exact ⟨paced.held, fun _ => idle, rfl, rfl, paced.polls⟩

/-! ### One step -/

theorem step_of_loaded (loaded : hass.loaded = true) (world : DirectSetup) :
    hass.step sha256 (.setUp world) = hass := by
  rw [step, if_pos loaded]

theorem step_of_unloaded (unloaded : hass.loaded = false) (platforms : Except Raised Bool) :
    hass.step sha256 (.unload platforms) = hass := by
  rw [step, if_neg (Bool.eq_false_iff.mp unloaded)]

/-- A set-up that is run leaves the entry unloaded, or polled by a timer of its own. -/
theorem step_setUp (sha256 : Sha256) (paced : hass.Paced) (unloaded : hass.loaded = false)
    (world : DirectSetup) :
    (hass.step sha256 (.setUp world)).Paced ∧
      ((hass.step sha256 (.setUp world)).loaded = false ∨
        (hass.step sha256 (.setUp world)).loaded = true ∧
          (hass.step sha256 (.setUp world)).timers = [hass.scheduled]) := by
  rw [step, if_neg (Bool.eq_false_iff.mp unloaded)]
  rcases world.asyncSetupEntry_cases sha256 hass with
    ⟨failure, after, done, left⟩ | ⟨runtime, poller, direct, done⟩
  · rw [done]
    refine ⟨paced_of_left paced unloaded left, Or.inl ?_⟩
    have nothing : after.onUnload = [] := by
      rw [left.onUnload, paced.registered, unloaded]
      rfl
    dsimp only
    rw [processOnUnload_of_nothing nothing]
    exact left.loaded.trans unloaded
  · rw [done]
    refine ⟨paced_of_completed paced unloaded direct, Or.inr ⟨rfl, ?_⟩⟩
    change hass.timers ++ [hass.scheduled] = _
    rw [paced.idle unloaded]
    rfl

/-- Unloading stops the poll even when it fails, and only then leaves the entry loaded. -/
theorem step_unload (sha256 : Sha256) (paced : hass.Paced) (loaded : hass.loaded = true)
    (platforms : Except Raised Bool) :
    (hass.step sha256 (.unload platforms)).Paced ∧
      (hass.step sha256 (.unload platforms)).timers = [] ∧
      ((hass.step sha256 (.unload platforms)).loaded = true ↔ platforms ≠ .ok true) := by
  have idle := timers_asyncStop paced
  have stopped := paced_asyncStop paced
  have up : hass.asyncStop.loaded = true := (loaded_asyncStop hass).trans loaded
  rw [step, if_pos loaded, run_asyncUnloadEntry]
  cases platforms with
  | error raised => exact ⟨stopped, idle, iff_of_true up (by simp)⟩
  | ok unloadOk =>
      cases unloadOk with
      | false => exact ⟨stopped.dropped idle, idle, iff_of_true up (by simp)⟩
      | true =>
          have dropped := stopped.dropped idle
          have unloaded := dropped.unloaded idle up
          exact ⟨unloaded, unloaded.idle rfl, iff_of_false (by simp) (by simp)⟩

/-- A poll leaves the timers and the entry as they are. -/
theorem step_tick (hass : DirectHass) (sha256 : Sha256) (timer : Nat) (world : PollWorld) :
    (hass.step sha256 (.tick timer world)).timers = hass.timers ∧
      (hass.step sha256 (.tick timer world)).loaded = hass.loaded := by
  rw [step, asyncTick]
  split
  · exact ⟨rfl, rfl⟩
  · exact ⟨rfl, rfl⟩

theorem paced_step (sha256 : Sha256) (paced : hass.Paced) (event : DirectEntryEvent) :
    (hass.step sha256 event).Paced := by
  cases event with
  | setUp world =>
      cases loaded : hass.loaded with
      | true =>
          rw [step_of_loaded loaded]
          exact paced
      | false => exact (step_setUp sha256 paced loaded world).1
  | tick timer world => exact paced_asyncTick paced timer world
  | unload platforms =>
      cases loaded : hass.loaded with
      | true => exact (step_unload sha256 paced loaded platforms).1
      | false =>
          rw [step_of_unloaded loaded]
          exact paced

/-! ### Every run -/

theorem paced_run (sha256 : Sha256) (events : List DirectEntryEvent) :
    (run (step sha256) new events).Paced := by
  have keeps (hass : DirectHass) (event : DirectEntryEvent) (paced : hass.Paced) (_ : True) :
      (hass.step sha256 event).Paced := paced_step sha256 paced event
  exact run_invariant keeps Paced.new (along_of_forall (fun _ _ => trivial) new)

/-- An unloading of the loaded entry failed, and none that was tried since went through. -/
def UnloadFailed (sha256 : Sha256) (events : List DirectEntryEvent) : Prop :=
  ∃ before event after, events = before ++ event :: after ∧
    (∃ platforms, event = .unload platforms ∧ platforms ≠ .ok true ∧
        (run (step sha256) new before).loaded = true) ∧
      ∀ later ∈ after, later ≠ .unload (.ok true)

/-- One more event after a failed unloading, or a failed unloading. -/
theorem unloadFailed_concat (sha256 : Sha256) (events : List DirectEntryEvent)
    (last : DirectEntryEvent) :
    UnloadFailed sha256 (events ++ [last]) ↔
      (∃ platforms, last = .unload platforms ∧ platforms ≠ .ok true ∧
          (run (step sha256) new events).loaded = true) ∨
        UnloadFailed sha256 events ∧ last ≠ .unload (.ok true) := by
  rw [UnloadFailed, exists_split_concat]
  refine or_congr ⟨fun failed => failed.1, fun failed => ⟨failed, by simp⟩⟩ ?_
  constructor
  · rintro ⟨before, event, after, split, failed, since⟩
    refine ⟨⟨before, event, after, split, failed, fun later member => ?_⟩, ?_⟩
    · exact since later (List.mem_append_left _ member)
    · exact since last (List.mem_append_right _ (List.mem_singleton_self _))
  · rintro ⟨⟨before, event, after, split, failed, since⟩, other⟩
    refine ⟨before, event, after, split, failed, fun later member => ?_⟩
    rcases List.mem_append.mp member with early | final
    · exact since later early
    · rw [List.mem_singleton.mp final]
      exact other

/-- An entry is loaded and not polled exactly when unloading it failed. -/
theorem unloadFailed_iff (sha256 : Sha256) (events : List DirectEntryEvent) :
    UnloadFailed sha256 events ↔
      (run (step sha256) new events).loaded = true ∧
        (run (step sha256) new events).timers = [] := by
  induction events using List.reverseRecOn with
  | nil =>
      refine iff_of_false ?_ (by simp [new])
      rintro ⟨before, event, after, split, -⟩
      simp at split
  | append_singleton events last ih =>
      have paced := paced_run sha256 events
      rw [unloadFailed_concat, run_concat, ih]
      cases last with
      | tick timer world =>
          obtain ⟨timers, loaded⟩ := step_tick (run (step sha256) new events) sha256 timer world
          rw [timers, loaded]
          simp
      | setUp world =>
          cases loaded : (run (step sha256) new events).loaded with
          | true =>
              rw [step_of_loaded loaded, loaded]
              simp
          | false =>
              rcases (step_setUp sha256 paced loaded world).2 with down | ⟨-, polled⟩
              · rw [down]
                simp
              · rw [polled]
                simp
      | unload platforms =>
          cases loaded : (run (step sha256) new events).loaded with
          | true =>
              obtain ⟨-, idle, stays⟩ := step_unload sha256 paced loaded platforms
              rw [idle, stays]
              constructor
              · rintro (⟨other, same, failed, -⟩ | ⟨-, other⟩)
                · cases same
                  exact ⟨failed, rfl⟩
                · exact ⟨fun done => other (by rw [done]), rfl⟩
              · rintro ⟨failed, -⟩
                exact Or.inl ⟨platforms, rfl, failed, rfl⟩
          | false =>
              rw [step_of_unloaded loaded, loaded]
              simp

/-- In every run of set-ups, scheduled polls and unloadings of the entry of a node, at
most one timer is running; it is the one of the poller of the runtime, of an entry that
is loaded.  A loaded entry is without one exactly when unloading it failed, and the
listener of its options is there exactly while it is loaded. -/
theorem polled_while_loaded (sha256 : Sha256) (events : List DirectEntryEvent) :
    (∀ timer ∈ (run (step sha256) new events).timers,
        (run (step sha256) new events).timers = [timer] ∧
          (run (step sha256) new events).loaded = true ∧
          ∃ live poller, (run (step sha256) new events).runtime = some live ∧
            live.unsubscribe = some timer ∧ live.runtime.transport = .direct poller) ∧
      ((run (step sha256) new events).loaded = true →
        ((run (step sha256) new events).timers = [] ↔ UnloadFailed sha256 events)) ∧
      (run (step sha256) new events).updateListener = (run (step sha256) new events).loaded := by
  have paced := paced_run sha256 events
  refine ⟨fun timer running => ?_, fun loaded => ?_, paced.listens⟩
  · have loaded : (run (step sha256) new events).loaded = true := by
      by_contra down
      rw [paced.idle (Bool.eq_false_iff.mpr down)] at running
      exact List.not_mem_nil running
    have held := paced.held
    rw [held, Option.mem_toList] at running
    obtain ⟨live, stored, scheduled⟩ := Option.bind_eq_some_iff.mp running
    obtain ⟨poller, direct⟩ := paced.polls live stored
    rw [running] at held
    exact ⟨held, loaded, live, poller, stored, scheduled, direct⟩
  · rw [unloadFailed_iff]
    exact ⟨fun idle => ⟨loaded, idle⟩, fun stalled => stalled.2⟩

end DirectHass

end HomeKeyHousehold
