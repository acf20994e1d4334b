import HomeKeyHousehold.CommandDelivery
import HomeKeyHousehold.ConfigFlow

/-!
# Rotating the command key

The options form stores a new key through a store of its own.  The entry that is
running goes on signing with the key its own store had loaded, until it is set up
again, and it is set up again only when the stored options change.
-/

namespace HomeKeyHousehold

open Library

/-! ## The options form -/

def defaultLegacyClientIdPrefix : String := "ESP_"
def defaultHttpsPort : Nat := 443

/-- The options of an entry. -/
structure EntryOptions where
  legacyClientIdPrefix : String
  commandControl : Bool
  host : String
  port : Nat
  username : String
  password : String
  fingerprint : String
  includeCredentials : Bool
  deriving DecidableEq, Repr

/-- A submitted options form. -/
structure OptionsInput where
  recoverySecret : Option String := none
  salt : Option String := none
  legacyClientIdPrefix : Option String := none
  commandControl : Option Bool := none
  host : Option String := none
  port : Option Nat := none
  username : Option String := none
  password : Option String := none
  fingerprint : Option String := none
  includeCredentials : Option Bool := none

/-- The options a form is stored as; a blank password keeps the stored one. -/
def newOptions (entry : ConfigEntry) (options : Option EntryOptions) (input : OptionsInput) :
    EntryOptions :=
  let currentPassword :=
    (unlessBlank entry.password).getD ((options.map EntryOptions.password).getD "")
  { legacyClientIdPrefix := input.legacyClientIdPrefix.getD defaultLegacyClientIdPrefix
    commandControl := input.commandControl.getD true
    host := strip (input.host.getD "")
    port := (input.port.filter fun port => port ≠ 0).getD defaultHttpsPort
    username := input.username.getD ""
    password := (unlessBlank input.password).getD currentPassword
    fingerprint := strip (input.fingerprint.getD "")
    includeCredentials := input.includeCredentials.getD false }

/-! ## A loaded entry -/

/-- `async_setup_entry` over MQTT, as far as commands go. -/
def asyncSetupEntry (entry : ConfigEntry) (options : Option EntryOptions) (keys : Option Dict) :
    Validated Entry := do
  let store ← CommandKeyStore.asyncLoad keys
  let legacyPrefix :=
    (options.map EntryOptions.legacyClientIdPrefix).getD defaultLegacyClientIdPrefix
  let commandControl :=
    ((options.map EntryOptions.commandControl).or entry.commandControl).getD true
  pure
    { coordinator := .new entry.householdId
      commandKeyProvider :=
        if commandControl then some ((store.get entry.householdId).map CommandCredential.key)
        else none
      mqtt := some (.new entry.householdId legacyPrefix)
      direct := none }

/-- An MQTT entry with its stored options, the key file, what is running for it,
and the key of the secret that was accepted last. -/
structure LoadedEntry where
  entry : ConfigEntry
  options : Option EntryOptions
  keys : Option Dict
  running : Option Entry
  accepted : Option Bytes

/-- What happens next to a loaded entry. -/
inductive EntryEvent where
  | submit (input : OptionsInput)
  | command (nodeId action : String) (world : CommandWorld)

namespace LoadedEntry

/-- The key a submitted secret stands for. -/
def submittedKey (blake2b : Blake2b) (input : OptionsInput) : Option Bytes :=
  (unlessBlank input.recoverySecret).bind fun secret =>
    (deriveCommandKey blake2b secret ((unlessBlank input.salt).getD "")).toOption

/-- `async_step_init` with a submitted form: a form that is refused changes
nothing, and the entry is reloaded when its options change. -/
def asyncStepInit (blake2b : Blake2b) (state : LoadedEntry) (input : OptionsInput) :
    LoadedEntry :=
  match submitSecret blake2b state.keys state.entry.householdId input.recoverySecret
    input.salt with
  | .kept keys =>
      let options := some (newOptions state.entry state.options input)
      { state with
        options
        keys
        running :=
          if options = state.options then state.running
          else (asyncSetupEntry state.entry options keys).toOption
        accepted := (submittedKey blake2b input).or state.accepted }
  | .refused => state
  | .failed => state

/-- What a lock command publishes. -/
def published (hmac : HmacSha256) (state : LoadedEntry) : EntryEvent → List Publication
  | .submit _ => []
  | .command nodeId action world =>
      match state.running with
      | none => []
      | some running => (running.asyncSendLockCommand hmac nodeId action world).published

/-- The state after an event. -/
def step (blake2b : Blake2b) (hmac : HmacSha256) (state : LoadedEntry) :
    EntryEvent → LoadedEntry
  | .submit input => state.asyncStepInit blake2b input
  | .command nodeId action world =>
      { state with
        running := state.running.map fun running =>
          (running.asyncSendLockCommand hmac nodeId action world).entry }

/-- The key a file holds for a household. -/
def storedKey (keys : Option Dict) (householdId : String) : Option Bytes :=
  (CommandKeyStore.asyncLoad keys).toOption.bind fun store =>
    (store.get householdId).map CommandCredential.key

/-- An entry that has just been loaded; the file has the key accepted last. -/
def start (entry : ConfigEntry) (options : Option EntryOptions) (keys : Option Dict) :
    LoadedEntry :=
  { entry
    options
    keys
    running := (asyncSetupEntry entry options keys).toOption
    accepted := storedKey keys entry.householdId }

/-- A publication is a command for the household, signed with a key. -/
def SignedWith (hmac : HmacSha256) (key : Bytes) (householdId : String)
    (publication : Publication) : Prop :=
  ∃ nodeId act ts bytes uuid, publication =
    HomeKeyMqttClient.commandPublication householdId nodeId (Action.spelling act)
      (HomeKeyMqttClient.commandOf hmac key act ts bytes uuid)

/-- Whatever is published is signed with the key that was accepted last. -/
def SignsWithAccepted (hmac : HmacSha256) (state : LoadedEntry) (event : EntryEvent) : Prop :=
  ∀ publication ∈ state.published hmac event, ∃ key, state.accepted = some key ∧
    SignedWith hmac key state.entry.householdId publication

/-- A secret that is accepted stands for the key in use, or comes with changed
options. -/
def ComesIntoUse (blake2b : Blake2b) (state : LoadedEntry) : EntryEvent → Prop
  | .submit input => ∀ key keys, submittedKey blake2b input = some key →
      submitSecret blake2b state.keys state.entry.householdId input.recoverySecret input.salt =
          .kept keys →
      some (newOptions state.entry state.options input) ≠ state.options ∨
        ∀ running, state.running = some running →
          ∀ inUse, running.commandKey = some inUse → inUse = key
  | .command .. => True

/-! ### What is running -/

variable {blake2b : Blake2b} {hmac : HmacSha256} {state : LoadedEntry} {householdId : String}
variable {accepted : Option Bytes} {running : Entry}

/-- An MQTT entry of a household that signs with one key at most. -/
structure Runs (householdId : String) (accepted : Option Bytes) (running : Entry) : Prop where
  indirect : running.direct = none
  home : running.coordinator.householdId = householdId
  keyed : ∀ key, running.commandKey = some key → accepted = some key

/-- An entry that is set up signs with the key in the file. -/
theorem runs_asyncSetupEntry {entry : ConfigEntry} {options : Option EntryOptions}
    {keys : Option Dict} (loaded : asyncSetupEntry entry options keys = .ok running) :
    Runs entry.householdId (storedKey keys entry.householdId) running := by
  obtain ⟨store, read, made⟩ := bind_eq_ok.mp loaded
  cases made
  refine ⟨rfl, rfl, ?_⟩
  intro key keyed
  rw [storedKey, read]
  unfold Entry.commandKey at keyed
  dsimp only at keyed
  split at keyed
  · next found provided =>
      split at keyed
      · cases keyed
      · cases keyed
        split at provided
        · exact Option.some.inj provided
        · cases provided
  · cases keyed

/-- A lock command leaves what is running as it was, but for its nonces. -/
theorem Runs.asyncSendLockCommand (runs : Runs householdId accepted running)
    (nodeId action : String) (world : CommandWorld) :
    Runs householdId accepted (running.asyncSendLockCommand hmac nodeId action world).entry := by
  cases keyed : running.commandKey with
  | none =>
      rw [Entry.asyncSendLockCommand, runs.indirect, keyed]
      exact runs
  | some key =>
      cases connected : running.mqtt with
      | none =>
          rw [Entry.asyncSendLockCommand, runs.indirect, keyed, connected]
          exact runs
      | some client =>
          rw [Entry.asyncSendLockCommand_mqtt hmac nodeId action world runs.indirect keyed connected]
          exact ⟨runs.indirect, runs.home, runs.keyed⟩

/-- What is running publishes nothing that is not signed with its key. -/
theorem Runs.signed (runs : Runs householdId accepted running) {nodeId action : String}
    {world : CommandWorld} {publication : Publication}
    (member : publication ∈ (running.asyncSendLockCommand hmac nodeId action world).published) :
    ∃ key, accepted = some key ∧ SignedWith hmac key householdId publication := by
  cases keyed : running.commandKey with
  | none =>
      rw [Entry.asyncSendLockCommand, runs.indirect, keyed] at member
      cases member
  | some key =>
      refine ⟨key, runs.keyed key keyed, ?_⟩
      cases connected : running.mqtt with
      | none =>
          rw [Entry.asyncSendLockCommand, runs.indirect, keyed, connected] at member
          cases member
      | some client =>
          rw [Entry.asyncSendLockCommand_mqtt hmac nodeId action world runs.indirect keyed
            connected] at member
          obtain ⟨after, command, signed, rfl⟩ := HomeKeyMqttClient.signCommand_of_sent member
          obtain ⟨-, act, bytes, spelled, -, -, -, rfl⟩ := HomeKeyMqttClient.signCommand_ok signed
          exact ⟨nodeId, act, _, bytes, _, by rw [spelled, runs.home]⟩

/-! ### Keys come into use -/

/-- The file has the key accepted last, and nothing else is signed with. -/
structure Current (state : LoadedEntry) : Prop where
  filed : state.accepted = storedKey state.keys state.entry.householdId
  runs : ∀ running, state.running = some running →
    Runs state.entry.householdId state.accepted running

/-- A form that is kept files the key it submits. -/
theorem storedKey_of_kept {keys after : Option Dict} {input : OptionsInput}
    (kept : submitSecret blake2b keys householdId input.recoverySecret input.salt = .kept after) :
    storedKey after householdId = (submittedKey blake2b input).or (storedKey keys householdId) := by
  unfold submitSecret at kept
  rw [submittedKey]
  cases submitted : unlessBlank input.recoverySecret with
  | none =>
      rw [submitted] at kept
      cases kept
      rfl
  | some secret =>
      rw [submitted] at kept
      dsimp only at kept
      split at kept
      · cases kept
      · next store read =>
          split at kept
          · cases kept
          · next saved set =>
              cases kept
              obtain ⟨key, derived, written, found⟩ := CommandKeyStore.asyncSetFromSecret_ok set
              rw [written, storedKey, CommandKeyStore.asyncLoad_payload, Option.bind_some, derived]
              exact found

theorem current_start (entry : ConfigEntry) (options : Option EntryOptions) (keys : Option Dict) :
    (start entry options keys).Current := by
  refine ⟨rfl, ?_⟩
  intro running loaded
  unfold start at loaded
  cases made : asyncSetupEntry entry options keys with
  | error reason =>
      rw [made] at loaded
      cases loaded
  | ok ready =>
      rw [made] at loaded
      cases loaded
      exact runs_asyncSetupEntry made

theorem current_step (event : EntryEvent) (current : state.Current)
    (comes : ComesIntoUse blake2b state event) : (state.step blake2b hmac event).Current := by
  cases event with
  | command nodeId action world =>
      refine ⟨current.filed, ?_⟩
      intro running sent
      obtain ⟨before, was, rfl⟩ := Option.map_eq_some_iff.mp sent
      exact (current.runs before was).asyncSendLockCommand nodeId action world
  | submit input =>
      rw [step, asyncStepInit]
      cases submitted : submitSecret blake2b state.keys state.entry.householdId
        input.recoverySecret input.salt with
      | refused => exact current
      | failed => exact current
      | kept keys =>
          have filed : (submittedKey blake2b input).or state.accepted =
              storedKey keys state.entry.householdId := by
            rw [storedKey_of_kept submitted, current.filed]
          refine ⟨filed, ?_⟩
          intro running ready
          dsimp only at ready ⊢
          split at ready
          · next same =>
              have runs := current.runs running ready
              refine ⟨runs.indirect, runs.home, fun inUse keyed => ?_⟩
              cases derived : submittedKey blake2b input with
              | none => exact runs.keyed inUse keyed
              | some key =>
                  -- The store of what is running was not read again.
                  rcases comes key keys derived submitted with changed | inUseOnly
                  · exact absurd same changed
                  · rw [inUseOnly running ready inUse keyed, Option.some_or]
          · cases loaded : asyncSetupEntry state.entry
              (some (newOptions state.entry state.options input)) keys with
            | error reason =>
                rw [loaded] at ready
                cases ready
            | ok made =>
                rw [loaded] at ready
                cases ready
                rw [filed]
                exact runs_asyncSetupEntry loaded

/-- Everything that is published is signed with the key of the secret accepted
last, as long as every accepted secret comes into use. -/
theorem signs_with_accepted (entry : ConfigEntry) (options : Option EntryOptions)
    (keys : Option Dict) {events : List EntryEvent}
    (comes : Along (step blake2b hmac) (ComesIntoUse blake2b) (start entry options keys) events) :
    Along (step blake2b hmac) (SignsWithAccepted hmac) (start entry options keys) events := by
  refine comes.of_invariant (fun _ event current => current_step event current) ?_
    (current_start entry options keys)
  intro state event current _ publication member
  cases event with
  | submit input => cases member
  | command nodeId action world =>
      unfold published at member
      cases ready : state.running with
      | none =>
          rw [ready] at member
          cases member
      | some running =>
          rw [ready] at member
          exact (current.runs running ready).signed member

/-! ### A secret that does not come into use -/

def homeEntry : ConfigEntry :=
  { uniqueId := uniqueIdOf "HOME001"
    title := "HOME001"
    transport := .mqtt
    householdId := "HOME001"
    householdName := "HOME001"
    commandControl := some true }

def rotateTo (secret : String) : EntryEvent := .submit { recoverySecret := some secret }

/-- A digest that shows its key. -/
def keyHmac : HmacSha256 := fun key _ => hexText key

/-- The first secret is stored with the first options of the entry. -/
theorem first_key_signs :
    Along (step sampleBlake2b keyHmac) (SignsWithAccepted keyHmac) (start homeEntry none none)
      [rotateTo "first", .command "GATE-001" "lock" Entry.acceptingWorld] := by
  refine signs_with_accepted homeEntry none none
    ⟨fun key keys _ _ => Or.inl fun same => ?_, trivial, trivial⟩
  cases same

/-- What is running once it has loaded a key. -/
def readyWith (key : Bytes) : Entry :=
  { coordinator := .new "HOME001"
    commandKeyProvider := some (some key)
    mqtt := some (.new "HOME001" "ESP_")
    direct := none }

/-- The options of a form that only has a secret. -/
def plainOptions : EntryOptions := newOptions homeEntry none {}

/-- A form that only has a secret files its key, and reloads the entry if that
gives it its first options. -/
theorem step_rotateTo (state : LoadedEntry) {store : CommandKeyStore} {secret : String}
    {key : Bytes} (home : state.entry = homeEntry)
    (read : CommandKeyStore.asyncLoad state.keys = .ok store)
    (options : state.options = none ∨ state.options = some plainOptions)
    (spelled : unlessBlank (some secret) = some secret)
    (derived : deriveCommandKey sampleBlake2b secret "" = .ok key) (filled : key ≠ []) :
    state.step sampleBlake2b keyHmac (rotateTo secret) =
      { entry := homeEntry
        options := some plainOptions
        keys := some (CommandKeyStore.payload (Keyed.put store ("HOME001", ⟨key, filled, none⟩)))
        running := if state.options = none then some (readyWith key) else state.running
        accepted := some key } := by
  obtain ⟨entry, stored, keys, running, accepted⟩ := state
  subst home
  have kept : submitSecret sampleBlake2b keys homeEntry.householdId (some secret) none =
      .kept (some (CommandKeyStore.payload
        (Keyed.put store ("HOME001", ⟨key, filled, none⟩)))) :=
    @submitSecret_of_derived sampleBlake2b keys store "HOME001" (some secret) none secret key
      spelled read derived filled
  have submitted : submittedKey sampleBlake2b { recoverySecret := some secret } = some key := by
    rw [submittedKey, spelled, Option.bind_some]
    exact congrArg Except.toOption derived
  have plain : newOptions homeEntry stored { recoverySecret := some secret } = plainOptions := by
    rcases options with rfl | rfl <;> rfl
  have loaded : asyncSetupEntry homeEntry (some plainOptions) (some (CommandKeyStore.payload
      (Keyed.put store ("HOME001", ⟨key, filled, none⟩)))) = .ok (readyWith key) := by
    have found : (Keyed.put store ("HOME001", ⟨key, filled, none⟩)).get? homeEntry.householdId =
        some ("HOME001", ⟨key, filled, none⟩) := Keyed.get?_put_self store _
    rw [asyncSetupEntry, CommandKeyStore.asyncLoad_payload]
    simp only [bind, Except.bind, CommandKeyStore.get, found]
    rfl
  rw [rotateTo, step, asyncStepInit]
  dsimp only
  rw [kept, submitted, plain]
  dsimp only
  rw [loaded, Option.some_or]
  rcases options with rfl | rfl <;> rfl

/-- A lock command that is published shows the key of what is running. -/
theorem readyWith_publishes {key : Bytes} (filled : key ≠ []) :
    ∃ command nodeId, HomeKeyMqttClient.commandPublication "HOME001" nodeId "lock" command ∈
      ((readyWith key).asyncSendLockCommand keyHmac "GATE-001" "lock"
        Entry.acceptingWorld).published ∧ command.mac = hexText key := by
  have keyed : (readyWith key).commandKey = some key := if_neg filled
  rw [Entry.asyncSendLockCommand_mqtt keyHmac "GATE-001" "lock" Entry.acceptingWorld rfl keyed rfl]
  rw [if_pos rfl, HomeKeyMqttClient.asyncPublishAuthenticatedCommand]
  rcases (HomeKeyMqttClient.new "HOME001" (some "ESP_")).signCommand_cases keyHmac filled .lock none
    Entry.acceptingWorld.publishing.clock Entry.acceptingWorld.publishing.entropy with
      ⟨-, stale⟩ | ⟨bytes, -, -, signed⟩
  · have known := stale (Vector.replicate _ 0x11) (by decide)
    cases known
  · rw [signed]
    exact ⟨_, "GATE-001", List.mem_singleton_self _, rfl⟩

/-- A secret that is submitted with unchanged options does not come into use. -/
theorem second_key_does_not_sign :
    ¬ Along (step sampleBlake2b keyHmac) (SignsWithAccepted keyHmac) (start homeEntry none none)
      [rotateTo "first", rotateTo "second", .command "GATE-001" "lock" Entry.acceptingWorld] := by
  have firstKey : deriveCommandKey sampleBlake2b "first" "" = .ok (List.replicate 32 5) := by
    decide +kernel
  have secondKey : deriveCommandKey sampleBlake2b "second" "" = .ok (List.replicate 32 6) := by
    decide +kernel
  obtain ⟨after, reached, home, ⟨store, read⟩, options, running⟩ :
      ∃ after, (start homeEntry none none).step sampleBlake2b keyHmac (rotateTo "first") = after ∧
        after.entry = homeEntry ∧ (∃ store, CommandKeyStore.asyncLoad after.keys = .ok store) ∧
        after.options = some plainOptions ∧
        after.running = some (readyWith (List.replicate 32 5)) :=
    ⟨_, step_rotateTo (start homeEntry none none) rfl (by rfl) (Or.inl rfl) (by decide) firstKey
      (by decide), rfl, ⟨_, CommandKeyStore.asyncLoad_payload _⟩, rfl, by rfl⟩
  rintro ⟨-, -, signed, -⟩
  rw [reached, step_rotateTo after home read (Or.inr options) (by decide) secondKey (by decide),
    options, if_neg (Option.some_ne_none _), running] at signed
  obtain ⟨command, nodeId, member, shown⟩ :=
    readyWith_publishes (by decide : List.replicate 32 (5 : UInt8) ≠ [])
  obtain ⟨key, accepted, named, act, ts, bytes, uuid, same⟩ := signed _ member
  cases accepted
  have sameCommand := dumpsCommand_injective (congrArg Publication.payload same)
  have sameKey := congrArg AuthenticatedCommand.mac sameCommand
  rw [shown] at sameKey
  exact absurd (hexText_injective sameKey) (by decide)

end LoadedEntry

end HomeKeyHousehold
