import HomeKeyHousehold.BackupRuns
import HomeKeyHousehold.PendingCauses

/-!
# Setting up an MQTT entry

A set-up subscribes first, puts the runtime into `hass.data` next, and only then takes
the steps that most often fail.  What gives the subscriptions back is unloading,
and an entry whose set-up failed is not unloaded.
-/

namespace HomeKeyHousehold

open Library

/-- `legacy_status_subscribe`: the wildcard takes the whole level of the client id. -/
def legacyStatusSubscribe (_ : String) : String := "+/status"

/-! ## What a set-up acquires -/

/-- An active subscription, with the number of the client that made it. -/
structure Subscription where
  client : Nat
  topic : String
  qos : Nat
  deriving DecidableEq

/-- A runtime in `hass.data`, with the `_unsubscribes` of its client. -/
structure LiveRuntime where
  runtime : Runtime
  unsubscribes : List Subscription

/-- A callback registered with `async_on_unload`. -/
inductive OnUnload where
  | removeUpdateListener
  deriving DecidableEq

/-- What Home Assistant holds for one entry. -/
structure EntryHass where
  /-- The MQTT clients made so far. -/
  clients : Nat
  subscriptions : List Subscription
  runtime : Option LiveRuntime
  updateListener : Bool
  onUnload : List OnUnload
  loaded : Bool

/-- What the world contributes to one set-up: what the calls it awaits return or raise. -/
structure MqttSetup where
  configured : ConfiguredEntry
  storedKeys : Option Dict
  pool : Option (Keyed Node.nodeId)
  broker : Except Raised Unit
  subscribe : String → Except Raised Unit
  retained : List Delivery
  initialNodes : Except Raised Unit
  firstRefresh : Except Raised Unit
  forward : Except Raised Unit

/-- A set-up in progress: its client, and the `_unsubscribes` of that client. -/
structure Attempt where
  hass : EntryHass
  client : Nat
  unsubscribes : List Subscription

namespace Attempt

/-- A new client, with nothing subscribed. -/
def start (hass : EntryHass) : Attempt :=
  { hass := { hass with clients := hass.clients + 1 }
    client := hass.clients
    unsubscribes := [] }

/-- A subscription is active, and its unsubscribe callable is kept. -/
def subscribed (attempt : Attempt) (filter : String × Nat) : Attempt :=
  let subscription : Subscription := ⟨attempt.client, filter.1, filter.2⟩
  { attempt with
    hass :=
      { attempt.hass with subscriptions := attempt.hass.subscriptions ++ [subscription] }
    unsubscribes := attempt.unsubscribes ++ [subscription] }

/-- `hass.data[DOMAIN][entry.entry_id] = runtime`. -/
def storeRuntime (attempt : Attempt) (runtime : Runtime) : Attempt :=
  { attempt with
    hass := { attempt.hass with runtime := some ⟨runtime, attempt.unsubscribes⟩ } }

/-- `entry.async_on_unload(entry.add_update_listener(_async_reload_entry))`. -/
def addUpdateListener (attempt : Attempt) : Attempt :=
  { attempt with
    hass :=
      { attempt.hass with
        updateListener := true
        onUnload := attempt.hass.onUnload ++ [.removeUpdateListener] } }

end Attempt

namespace MqttSetup

/-- The prefix the client gets. -/
def legacyPrefix (world : MqttSetup) : String :=
  (world.configured.options.map EntryOptions.legacyClientIdPrefix).getD
    defaultLegacyClientIdPrefix

/-- The filters `async_start` subscribes to, with their qos. -/
def filters (world : MqttSetup) : List (String × Nat) :=
  (topicSubscribeAll, 1) ::
    if world.legacyPrefix = "" then [] else [(legacyStatusSubscribe world.legacyPrefix, 1)]

/-- `transport.subscribe`. -/
def subscribeTo (world : MqttSetup) (filter : String × Nat) : EStateM Raised Attempt Unit := do
  ofExcept (world.subscribe filter.1)
  modify fun attempt => attempt.subscribed filter

/-- `HomeKeyMqttClient.async_start`. -/
def asyncStart (world : MqttSetup) : EStateM Raised Attempt Unit := do
  ofExcept world.broker
  forM world.filters world.subscribeTo

/-- The coordinator, after the messages that arrived while the first nodes were awaited. -/
def coordinator (world : MqttSetup) : Coordinator :=
  run Coordinator.handle (.new world.configured.entry.householdId world.pool) world.retained

/-- The runtime of the entry. -/
def runtime (world : MqttSetup) : Runtime :=
  { entryId := world.configured.entryId
    entry := world.configured.entry
    options := world.configured.options
    coordinator := world.coordinator
    transport := .mqtt (.new world.configured.entry.householdId world.legacyPrefix) }

/-- The part of `async_setup_entry` that follows `async_start`. -/
def onceStarted (world : MqttSetup) : EStateM Raised Attempt Unit := do
  -- the wait ends by itself; it only raises when the set-up is cancelled
  ofExcept world.initialNodes
  modify fun attempt => attempt.storeRuntime world.runtime
  ofExcept world.firstRefresh
  ofExcept world.forward
  modify Attempt.addUpdateListener

/-- `async_setup_entry`, over MQTT. -/
def asyncSetupEntry (world : MqttSetup) : EStateM Raised Attempt Unit := do
  let _ ← ofExcept (CommandKeyStore.asyncLoad world.storedKeys).orRaise
  world.asyncStart
  world.onceStarted

end MqttSetup

/-! ## Setting up, failing and unloading -/

namespace EntryHass

/-- No client yet. -/
def new : EntryHass :=
  { clients := 0
    subscriptions := []
    runtime := none
    updateListener := false
    onUnload := []
    loaded := false }

/-- Run the callbacks registered with `async_on_unload`. -/
def processOnUnload (hass : EntryHass) : EntryHass :=
  { hass.onUnload.foldl (fun hass callback =>
      match callback with
      | .removeUpdateListener => { hass with updateListener := false }) hass with
    onUnload := [] }

/-- `HomeKeyMqttClient.async_stop`, of the client of a runtime. -/
def asyncStop (hass : EntryHass) (live : LiveRuntime) : EntryHass :=
  { hass with
    subscriptions := live.unsubscribes.foldl List.erase hass.subscriptions
    runtime := some { live with unsubscribes := [] } }

/-- `async_unload_entry`, as far as the subscriptions and the runtime go. -/
def asyncUnloadEntry (platforms : Except Raised Bool) : EStateM Raised EntryHass Bool := do
  modify fun hass =>
    match hass.runtime with
    | some live => hass.asyncStop live
    | none => hass
  let unloadOk ← ofExcept platforms
  modify fun hass => { hass with runtime := none }
  return unloadOk

end EntryHass

/-- What happens to the entry next. -/
inductive SetupEvent where
  | setUp (world : MqttSetup)
  | unload (platforms : Except Raised Bool)

namespace EntryHass

/-- Home Assistant sets up what is not loaded and unloads what is; a failed set-up runs
the registered callbacks and nothing else. -/
def step (hass : EntryHass) : SetupEvent → EntryHass
  | .setUp world =>
      if hass.loaded then hass
      else
        match world.asyncSetupEntry.run (.start hass) with
        | .ok () attempt => { attempt.hass with loaded := true }
        | .error _ attempt => attempt.hass.processOnUnload
  | .unload platforms =>
      if hass.loaded then
        match (asyncUnloadEntry platforms).run hass with
        | .ok true after => { after.processOnUnload with loaded := false }
        | .ok false after => after
        | .error _ after => after
      else hass

/-- A set-up is run, and raises. -/
def Raises (hass : EntryHass) : SetupEvent → Prop
  | .setUp world =>
      hass.loaded = false ∧ ∃ raised attempt,
        world.asyncSetupEntry.run (.start hass) = .error raised attempt
  | .unload _ => False

/-- The clients with an active subscription. -/
def subscribers (hass : EntryHass) : List Nat :=
  (hass.subscriptions.map Subscription.client).dedup

/-- A set-up that raises leaves no subscription of its own and no runtime, and no step
leaves more than one subscriber. -/
structure LeavesNothing (hass : EntryHass) (event : SetupEvent) : Prop where
  released : hass.Raises event →
    (∀ subscription ∈ (hass.step event).subscriptions, subscription.client ≠ hass.clients) ∧
      (hass.step event).runtime = none
  single : (hass.step event).subscribers.length ≤ 1

end EntryHass

/-! ## How far a set-up gets -/

section
variable {ε σ α β : Type}

/-- A call that raises ends the action where it is. -/
theorem ofExcept_bind (call : Except ε α) (next : α → EStateM ε σ β) (state : σ) :
    (ofExcept call >>= next).run state =
      match call with
      | .ok value => (next value).run state
      | .error raised => .error raised state := by
  cases call with
  | ok value => rfl
  | error raised => rfl

end

namespace MqttSetup

variable {world : MqttSetup} {attempt : Attempt} {hass : EntryHass}

/-- Nothing raises before the first subscription is active. -/
structure Subscribes (world : MqttSetup) : Prop where
  keys : ∃ store, CommandKeyStore.asyncLoad world.storedKeys = .ok store
  broker : world.broker = .ok ()
  first : world.subscribe topicSubscribeAll = .ok ()

/-- Nothing raises after the first subscription is active. -/
structure Continues (world : MqttSetup) : Prop where
  others : ∀ filter ∈ world.filters, world.subscribe filter.1 = .ok ()
  initialNodes : world.initialNodes = .ok ()
  firstRefresh : world.firstRefresh = .ok ()
  forward : world.forward = .ok ()

/-- The loop over the filters ends at the first one that raises, with those before it
subscribed. -/
theorem forM_subscribeTo (world : MqttSetup) (filters : List (String × Nat))
    (attempt : Attempt) :
    ((∀ filter ∈ filters, world.subscribe filter.1 = .ok ()) ∧
        (forM filters world.subscribeTo).run attempt = .ok () (filters.foldl .subscribed attempt)) ∨
      ∃ before filter after raised, filters = before ++ filter :: after ∧
        (∀ earlier ∈ before, world.subscribe earlier.1 = .ok ()) ∧
        world.subscribe filter.1 = .error raised ∧
        (forM filters world.subscribeTo).run attempt =
          .error raised (before.foldl .subscribed attempt) := by
  induction filters generalizing attempt with
  | nil => exact Or.inl ⟨nofun, rfl⟩
  | cons filter rest ih =>
      have unfolded : (forM (filter :: rest) world.subscribeTo).run attempt =
          match world.subscribe filter.1 with
          | .ok () => (forM rest world.subscribeTo).run (attempt.subscribed filter)
          | .error raised => .error raised attempt := by
        rw [List.forM_cons, subscribeTo, bind_assoc, ofExcept_bind]
        cases world.subscribe filter.1 with
        | ok value => rfl
        | error raised => rfl
      cases answered : world.subscribe filter.1 with
      | error raised =>
          rw [answered] at unfolded
          exact Or.inr ⟨[], filter, rest, raised, rfl, nofun, answered, unfolded⟩
      | ok value =>
          rw [answered] at unfolded
          rcases ih (attempt.subscribed filter) with
            ⟨all, done⟩ | ⟨before, failing, after, raised, split, earlier, fails, done⟩
          · exact Or.inl ⟨List.forall_mem_cons.mpr ⟨answered, all⟩, unfolded.trans done⟩
          · refine Or.inr ⟨filter :: before, failing, after, raised, ?_, ?_, fails, ?_⟩
            · rw [split, List.cons_append]
            · exact List.forall_mem_cons.mpr ⟨answered, earlier⟩
            · exact unfolded.trans done

/-- The subscriptions of a client to some filters. -/
def subscriptionsOf (client : Nat) (filters : List (String × Nat)) : List Subscription :=
  filters.map fun filter => ⟨client, filter.1, filter.2⟩

theorem foldl_subscribed (filters : List (String × Nat)) (attempt : Attempt) :
    filters.foldl .subscribed attempt =
      { attempt with
        hass :=
          { attempt.hass with
            subscriptions :=
              attempt.hass.subscriptions ++ subscriptionsOf attempt.client filters }
        unsubscribes := attempt.unsubscribes ++ subscriptionsOf attempt.client filters } := by
  induction filters generalizing attempt with
  | nil => simp [subscriptionsOf]
  | cons filter rest ih =>
      rw [List.foldl_cons, ih]
      simp [Attempt.subscribed, subscriptionsOf]

theorem mem_filters : (topicSubscribeAll, 1) ∈ world.filters := List.mem_cons_self

/-- Once a filter is subscribed to, the client has an active subscription. -/
theorem exists_subscription {filters : List (String × Nat)} (some : filters ≠ [])
    (attempt : Attempt) :
    ∃ subscription ∈ (filters.foldl Attempt.subscribed attempt).hass.subscriptions,
      subscription.client = attempt.client := by
  obtain ⟨filter, rest, rfl⟩ := List.exists_cons_of_ne_nil some
  rw [foldl_subscribed]
  refine ⟨⟨attempt.client, filter.1, filter.2⟩, ?_, rfl⟩
  exact List.mem_append_right _ (List.mem_cons_self ..)

/-- `async_start` raises with nothing subscribed, raises with something subscribed, or
subscribes to every filter. -/
theorem asyncStart_cases (world : MqttSetup) (attempt : Attempt) :
    (¬ (world.broker = .ok () ∧ world.subscribe topicSubscribeAll = .ok ()) ∧
        ∃ raised, world.asyncStart.run attempt = .error raised attempt) ∨
      ((world.broker = .ok () ∧ world.subscribe topicSubscribeAll = .ok ()) ∧
        (¬ ∀ filter ∈ world.filters, world.subscribe filter.1 = .ok ()) ∧
        ∃ raised after, world.asyncStart.run attempt = .error raised after ∧
          ∃ subscription ∈ after.hass.subscriptions, subscription.client = attempt.client) ∨
      (world.broker = .ok () ∧
        (∀ filter ∈ world.filters, world.subscribe filter.1 = .ok ()) ∧
        world.asyncStart.run attempt = .ok () (world.filters.foldl .subscribed attempt)) := by
  rw [asyncStart, ofExcept_bind]
  cases broker : world.broker with
  | error raised => exact Or.inl ⟨fun reached => (by cases reached.1), raised, rfl⟩
  | ok value =>
      dsimp only
      rcases forM_subscribeTo world world.filters attempt with
        ⟨all, done⟩ | ⟨before, filter, after, raised, split, earlier, fails, done⟩
      · exact Or.inr (Or.inr ⟨rfl, all, done⟩)
      · have failing : filter ∈ world.filters := by
          rw [split]
          exact List.mem_append_right _ List.mem_cons_self
        cases before with
        | nil =>
            cases split
            refine Or.inl ⟨fun reached => ?_, raised, done⟩
            cases reached.2.symm.trans fails
        | cons first rest =>
            obtain ⟨rfl, -⟩ := List.cons.inj split
            refine Or.inr (Or.inl
              ⟨⟨rfl, earlier _ List.mem_cons_self⟩, ?_, raised, _, done, ?_⟩)
            · intro all
              cases (all filter failing).symm.trans fails
            · exact exists_subscription (List.cons_ne_nil _ _) attempt

/-- What follows `async_start` makes no subscription and gives none back. -/
theorem onceStarted_cases (world : MqttSetup) (attempt : Attempt) :
    (world.initialNodes = .ok () ∧ world.firstRefresh = .ok () ∧ world.forward = .ok () ∧
        world.onceStarted.run attempt =
          .ok () (attempt.storeRuntime world.runtime).addUpdateListener) ∨
      (¬ (world.initialNodes = .ok () ∧ world.firstRefresh = .ok () ∧
          world.forward = .ok ()) ∧
        ∃ raised after, world.onceStarted.run attempt = .error raised after ∧
          after.hass.subscriptions = attempt.hass.subscriptions) := by
  rw [onceStarted, ofExcept_bind]
  cases awaited : world.initialNodes with
  | error raised => exact Or.inr ⟨nofun, raised, attempt, rfl, rfl⟩
  | ok value =>
      dsimp only
      rw [EStateM.run_bind, EStateM.run_modify]
      dsimp only
      rw [ofExcept_bind]
      cases refreshed : world.firstRefresh with
      | error raised => exact Or.inr ⟨nofun, raised, _, rfl, rfl⟩
      | ok value =>
          dsimp only
          rw [ofExcept_bind]
          cases forwarded : world.forward with
          | error raised => exact Or.inr ⟨nofun, raised, _, rfl, rfl⟩
          | ok value => exact Or.inl ⟨rfl, rfl, rfl, rfl⟩

/-- Before any message the runtime is the one a set-up is known by elsewhere. -/
theorem setUpRuntime_eq (sha256 : Sha256) {setup : SetupWorld}
    (mqtt : world.configured.entry.transport = .mqtt) (starts : setup.mqttStarts = true)
    (fresh : world.pool = none) (silent : world.retained = []) :
    setUpRuntime sha256 world.configured setup = some world.runtime := by
  rw [setUpRuntime, mqtt]
  dsimp only
  rw [if_pos starts, runtime, coordinator, silent, fresh, run_nil, legacyPrefix]

/-- What a set-up that completes leaves. -/
def completed (world : MqttSetup) (attempt : Attempt) : Attempt :=
  ((world.filters.foldl .subscribed attempt).storeRuntime world.runtime).addUpdateListener

/-- A set-up raises with nothing subscribed, raises with something subscribed, or
completes. -/
theorem asyncSetupEntry_cases (world : MqttSetup) (attempt : Attempt) :
    (¬ world.Subscribes ∧
        ∃ raised, world.asyncSetupEntry.run attempt = .error raised attempt) ∨
      (world.Subscribes ∧ ¬ world.Continues ∧
        ∃ raised after, world.asyncSetupEntry.run attempt = .error raised after ∧
          ∃ subscription ∈ after.hass.subscriptions, subscription.client = attempt.client) ∨
      (world.Continues ∧
        world.asyncSetupEntry.run attempt = .ok () (world.completed attempt)) := by
  rw [asyncSetupEntry, ofExcept_bind]
  cases keys : CommandKeyStore.asyncLoad world.storedKeys with
  | error raised =>
      refine Or.inl ⟨fun subscribes => ?_, _, rfl⟩
      obtain ⟨store, loaded⟩ := subscribes.keys
      cases loaded.symm.trans keys
  | ok store =>
      change (¬ _ ∧ ∃ raised, (world.asyncStart >>= _).run attempt = .error raised attempt) ∨
        (_ ∧ _ ∧ ∃ raised after, (world.asyncStart >>= _).run attempt = .error raised after ∧ _) ∨
        (_ ∧ (world.asyncStart >>= _).run attempt = _)
      rw [EStateM.run_bind]
      rcases asyncStart_cases world attempt with
        ⟨unreached, raised, done⟩ | ⟨reached, fails, raised, after, done, active⟩ |
          ⟨broker, all, done⟩
      · rw [done]
        exact Or.inl ⟨fun subscribes => unreached ⟨subscribes.broker, subscribes.first⟩,
          raised, rfl⟩
      · rw [done]
        have subscribes : world.Subscribes := ⟨⟨store, keys⟩, reached.1, reached.2⟩
        exact Or.inr (Or.inl ⟨subscribes, fun continues => fails continues.others,
          raised, after, rfl, active⟩)
      · rw [done]
        have subscribes : world.Subscribes := ⟨⟨store, keys⟩, broker, all _ mem_filters⟩
        rcases onceStarted_cases world (world.filters.foldl .subscribed attempt) with
          ⟨nodes, refresh, forward, done⟩ | ⟨fails, raised, after, done, kept⟩
        · exact Or.inr (Or.inr ⟨⟨all, nodes, refresh, forward⟩, done⟩)
        · refine Or.inr (Or.inl ⟨subscribes, fun continues => fails
            ⟨continues.initialNodes, continues.firstRefresh, continues.forward⟩,
            raised, after, done, ?_⟩)
          rw [kept]
          exact exists_subscription (List.cons_ne_nil _ _) attempt

end MqttSetup

namespace EntryHass

variable {hass : EntryHass} {event : SetupEvent} {world : MqttSetup}

@[simp]
theorem subscriptions_processOnUnload (hass : EntryHass) :
    hass.processOnUnload.subscriptions = hass.subscriptions := by
  rw [processOnUnload]
  dsimp only
  induction hass.onUnload generalizing hass with
  | nil => rfl
  | cons callback rest ih => exact ih _

@[simp]
theorem runtime_processOnUnload (hass : EntryHass) :
    hass.processOnUnload.runtime = hass.runtime := by
  rw [processOnUnload]
  dsimp only
  induction hass.onUnload generalizing hass with
  | nil => rfl
  | cons callback rest ih => exact ih _

/-- The active subscriptions are those the runtime holds, and belong to one client; an
entry that is not loaded has no runtime. -/
structure Tidy (hass : EntryHass) : Prop where
  held : hass.subscriptions = (hass.runtime.map LiveRuntime.unsubscribes).getD []
  idle : hass.loaded = false → hass.runtime = none
  owned : ∃ client, ∀ subscription ∈ hass.subscriptions, subscription.client = client

theorem Tidy.new : Tidy .new := ⟨rfl, fun _ => rfl, 0, nofun⟩

theorem Tidy.nothing (tidy : Tidy hass) (unloaded : hass.loaded = false) :
    hass.subscriptions = [] := by
  rw [tidy.held, tidy.idle unloaded]
  rfl

/-- One client is one subscriber. -/
theorem Tidy.single (tidy : Tidy hass) : hass.subscribers.length ≤ 1 := by
  obtain ⟨client, owned⟩ := tidy.owned
  have covered : hass.subscribers ⊆ [client] := by
    intro other member
    obtain ⟨subscription, active, same⟩ := List.mem_map.mp (List.mem_dedup.mp member)
    rw [List.mem_singleton, ← same]
    exact owned subscription active
  exact ((List.nodup_dedup _).subperm covered).length_le

/-- A set-up that reaches its first subscription goes on to the end. -/
def FailsEarly (hass : EntryHass) : SetupEvent → Prop
  | .setUp world => hass.loaded = false → world.Subscribes → world.Continues
  | .unload _ => True

theorem step_of_loaded (loaded : hass.loaded = true) (world : MqttSetup) :
    hass.step (.setUp world) = hass := by
  rw [step, if_pos loaded]

theorem step_of_error {raised : Raised} {after : Attempt} (unloaded : hass.loaded = false)
    (fails : world.asyncSetupEntry.run (.start hass) = .error raised after) :
    hass.step (.setUp world) = after.hass.processOnUnload := by
  rw [step, if_neg (Bool.eq_false_iff.mp unloaded), fails]

theorem step_of_completed (unloaded : hass.loaded = false)
    (done : world.asyncSetupEntry.run (.start hass) = .ok () (world.completed (.start hass))) :
    hass.step (.setUp world) = { (world.completed (.start hass)).hass with loaded := true } := by
  rw [step, if_neg (Bool.eq_false_iff.mp unloaded), done]

/-- A set-up that completes leaves its own subscriptions, held by the runtime. -/
theorem tidy_of_completed (tidy : Tidy hass) (unloaded : hass.loaded = false)
    (world : MqttSetup) :
    Tidy { (world.completed (.start hass)).hass with loaded := true } where
  held := by
    rw [MqttSetup.completed, MqttSetup.foldl_subscribed]
    change hass.subscriptions ++ _ = [] ++ _
    rw [tidy.nothing unloaded]
  idle := nofun
  owned := by
    refine ⟨hass.clients, fun subscription active => ?_⟩
    rw [MqttSetup.completed, MqttSetup.foldl_subscribed] at active
    change subscription ∈ hass.subscriptions ++ _ at active
    rw [tidy.nothing unloaded] at active
    obtain ⟨filter, -, rfl⟩ := List.mem_map.mp active
    rfl

/-- A set-up that raised before it subscribed leaves what was there. -/
theorem tidy_of_unreached (tidy : Tidy hass) (unloaded : hass.loaded = false) :
    Tidy (Attempt.start hass).hass.processOnUnload where
  held := by
    rw [subscriptions_processOnUnload, runtime_processOnUnload]
    exact tidy.held
  idle := fun _ => by
    rw [runtime_processOnUnload]
    exact tidy.idle unloaded
  owned := by
    rw [subscriptions_processOnUnload]
    exact tidy.owned

/-- Stopping the client of a runtime takes all its subscriptions back. -/
theorem foldl_erase_self (subscriptions : List Subscription) :
    subscriptions.foldl List.erase subscriptions = [] := by
  induction subscriptions with
  | nil => rfl
  | cons subscription rest ih => rw [List.foldl_cons, List.erase_cons_head, ih]

/-- What unloading leaves before the platforms are asked. -/
def stopped (hass : EntryHass) : EntryHass :=
  match hass.runtime with
  | some live => hass.asyncStop live
  | none => hass

theorem run_asyncUnloadEntry (platforms : Except Raised Bool) (hass : EntryHass) :
    (asyncUnloadEntry platforms).run hass =
      match platforms with
      | .ok unloadOk => .ok unloadOk { hass.stopped with runtime := none }
      | .error raised => .error raised hass.stopped := by
  cases platforms with
  | ok unloadOk => rfl
  | error raised => rfl

theorem subscriptions_stopped (tidy : Tidy hass) : hass.stopped.subscriptions = [] := by
  have held := tidy.held
  rw [stopped]
  cases running : hass.runtime with
  | none =>
      rw [running] at held
      exact held
  | some live =>
      rw [running] at held
      change live.unsubscribes.foldl List.erase hass.subscriptions = []
      rw [held]
      exact foldl_erase_self live.unsubscribes

/-- An unloading that raises leaves a runtime whose client holds nothing. -/
theorem held_stopped (hass : EntryHass) :
    (hass.stopped.runtime.map LiveRuntime.unsubscribes).getD [] = [] := by
  rw [stopped]
  cases running : hass.runtime with
  | none =>
      dsimp only
      rw [running]
      rfl
  | some live => rfl

theorem loaded_stopped (hass : EntryHass) : hass.stopped.loaded = hass.loaded := by
  rw [stopped]
  cases hass.runtime with
  | none => rfl
  | some live => rfl

/-- Without a subscription and without a runtime there is nothing to hold. -/
theorem tidy_of_nothing (none : hass.subscriptions = []) (stored : hass.runtime = Option.none) :
    Tidy hass where
  held := by
    rw [none, stored]
    rfl
  idle := fun _ => stored
  owned := by
    rw [none]
    exact ⟨0, nofun⟩

/-- Unloading takes all subscriptions back. -/
theorem tidy_unload (tidy : Tidy hass) (platforms : Except Raised Bool) :
    Tidy (hass.step (.unload platforms)) := by
  have none := subscriptions_stopped tidy
  cases loaded : hass.loaded with
  | false =>
      rw [step, if_neg (Bool.eq_false_iff.mp loaded)]
      exact tidy
  | true =>
      rw [step, if_pos loaded, run_asyncUnloadEntry]
      cases platforms with
      | error raised =>
          refine ⟨none.trans (held_stopped hass).symm, fun unloaded => ?_, 0, ?_⟩
          · rw [loaded_stopped, loaded] at unloaded
            cases unloaded
          · dsimp only
            rw [none]
            nofun
      | ok unloadOk =>
          cases unloadOk with
          | false => exact tidy_of_nothing none rfl
          | true =>
              refine tidy_of_nothing ?_ ?_
              · exact (subscriptions_processOnUnload _).trans none
              · exact runtime_processOnUnload _

/-- A set-up that raised before it subscribed leaves nothing behind. -/
theorem leavesNothing_of_unreached (tidy : Tidy hass) (unloaded : hass.loaded = false)
    {raised : Raised}
    (done : world.asyncSetupEntry.run (.start hass) = .error raised (.start hass)) :
    LeavesNothing hass (.setUp world) ∧ Tidy (hass.step (.setUp world)) := by
  have after := tidy_of_unreached tidy unloaded
  rw [← step_of_error unloaded done] at after
  refine ⟨⟨fun _ => ⟨?_, ?_⟩, after.single⟩, after⟩
  · rw [step_of_error unloaded done, subscriptions_processOnUnload]
    change ∀ subscription ∈ hass.subscriptions, _
    rw [tidy.nothing unloaded]
    nofun
  · rw [step_of_error unloaded done, runtime_processOnUnload]
    exact tidy.idle unloaded

/-- A set-up that raised after it subscribed leaves that subscription. -/
theorem not_leavesNothing_of_late (unloaded : hass.loaded = false) {raised : Raised}
    {after : Attempt} (done : world.asyncSetupEntry.run (.start hass) = .error raised after)
    (active : ∃ subscription ∈ after.hass.subscriptions, subscription.client = hass.clients) :
    ¬ LeavesNothing hass (.setUp world) := by
  intro leaves
  obtain ⟨subscription, active, own⟩ := active
  refine (leaves.released ⟨unloaded, raised, after, done⟩).1 subscription ?_ own
  rw [step_of_error unloaded done, subscriptions_processOnUnload]
  exact active

/-- A set-up that completes raises nothing. -/
theorem leavesNothing_of_completed (tidy : Tidy hass) (unloaded : hass.loaded = false)
    (done : world.asyncSetupEntry.run (.start hass) = .ok () (world.completed (.start hass))) :
    LeavesNothing hass (.setUp world) ∧ Tidy (hass.step (.setUp world)) := by
  have after := tidy_of_completed tidy unloaded world
  rw [← step_of_completed unloaded done] at after
  refine ⟨⟨fun raises => ?_, after.single⟩, after⟩
  obtain ⟨-, raised, attempt, fails⟩ := raises
  cases fails.symm.trans done

/-- From a tidy state, a step leaves nothing behind exactly when it does not raise after
the first subscription, and then it leaves a tidy state. -/
theorem leavesNothing_iff (tidy : Tidy hass) (event : SetupEvent) :
    (LeavesNothing hass event ↔ FailsEarly hass event) ∧
      (FailsEarly hass event → Tidy (hass.step event)) := by
  cases event with
  | unload platforms =>
      have after := tidy_unload tidy platforms
      exact ⟨iff_of_true ⟨fun raises => raises.elim, after.single⟩ trivial, fun _ => after⟩
  | setUp world =>
      cases loaded : hass.loaded with
      | true =>
          have same := step_of_loaded loaded world
          have idle : FailsEarly hass (.setUp world) := fun unloaded => by
            rw [loaded] at unloaded
            cases unloaded
          refine ⟨iff_of_true ⟨fun raises => ?_, ?_⟩ idle, fun _ => ?_⟩
          · cases raises.1.symm.trans loaded
          · rw [same]
            exact tidy.single
          · rw [same]
            exact tidy
      | false =>
          rcases world.asyncSetupEntry_cases (.start hass) with
            ⟨unreached, raised, done⟩ | ⟨reached, fails, raised, after, done, active⟩ |
              ⟨continues, done⟩
          · obtain ⟨leaves, after⟩ := leavesNothing_of_unreached tidy loaded done
            exact ⟨iff_of_true leaves fun _ reached => absurd reached unreached, fun _ => after⟩
          · have late : ¬ FailsEarly hass (.setUp world) := fun early =>
              fails (early loaded reached)
            exact ⟨iff_of_false (not_leavesNothing_of_late loaded done active) late,
              fun early => absurd early late⟩
          · obtain ⟨leaves, after⟩ := leavesNothing_of_completed tidy loaded done
            exact ⟨iff_of_true leaves fun _ _ => continues, fun _ => after⟩

/-- In every run of set-ups and unloadings, no failed set-up leaves a subscription or a
runtime and at most one client is ever subscribed, exactly when every set-up that
reaches its first subscription completes. -/
theorem failed_setups_leave_nothing_iff (events : List SetupEvent) :
    Along step LeavesNothing .new events ↔ Along step FailsEarly .new events := by
  have agree : ∀ hass event, Tidy hass → (LeavesNothing hass event ↔ FailsEarly hass event) :=
    fun hass event tidy => (leavesNothing_iff tidy event).1
  have keeps : ∀ hass event, Tidy hass → LeavesNothing hass event → Tidy (hass.step event) :=
    fun hass event tidy leaves =>
      (leavesNothing_iff tidy event).2 ((agree hass event tidy).mp leaves)
  exact along_congr_of_kept keeps agree Tidy.new

/-- Everything goes well until the first refresh. -/
def failingRefresh : MqttSetup :=
  { configured := mqttConfigured "home" "HOME001"
    storedKeys := none
    pool := none
    broker := .ok ()
    subscribe := fun _ => .ok ()
    retained := []
    initialNodes := .ok ()
    firstRefresh := .error .other
    forward := .ok () }

/-- A first refresh that raises leaves the subscription to the household tree. -/
theorem failingRefresh_stays_subscribed :
    ¬ Along step LeavesNothing .new [.setUp failingRefresh] := by
  rintro ⟨leaves, -⟩
  have early := (leavesNothing_iff Tidy.new _).1.mp leaves
  have reached : failingRefresh.Subscribes := ⟨⟨_, rfl⟩, rfl, rfl⟩
  cases (early rfl reached).firstRefresh

end EntryHass

end HomeKeyHousehold
