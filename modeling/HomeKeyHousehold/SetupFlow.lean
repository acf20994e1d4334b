import HomeKeyHousehold.Library.Pursuit
import HomeKeyHousehold.ConfigFlow

/-!
# Making sure of MQTT

The flow for a household begins with MQTT: it looks for a connected client, and
offers a walkthrough, a broker form and the broker add-on when there is none.
The last two drive the flow of the MQTT integration, whose answers are inputs.
-/

namespace HomeKeyHousehold

open Library

/-! ## The flow of the MQTT integration -/

/-- What `_schema_defaults` reads: a dictionary, or an object with the `default`
and the `schema` it may have. -/
inductive SchemaObject where
  | dict (members : List (String × SchemaObject))
  | object (default : Option Json) (schema : Option SchemaObject)

/-- A declared default that is not `None`. -/
def declaredDefault : Option Json → Option Json
  | some .null => none
  | default => default

/-- The loop of `_schema_defaults`: a section is the dictionary of its own defaults. -/
def memberDefaults : List (String × SchemaObject) → Dict
  | [] => []
  | (_, .dict _) :: rest => memberDefaults rest
  | (name, .object default (some (.dict members))) :: rest =>
      (name, (declaredDefault default).getD (.obj (memberDefaults members))) :: memberDefaults rest
  | (name, .object default (some (.object ..))) :: rest =>
      (name, (declaredDefault default).getD (.obj [])) :: memberDefaults rest
  | (name, .object default none) :: rest =>
      ((declaredDefault default).map fun value => (name, value)).toList ++ memberDefaults rest

/-- `_schema_defaults`. -/
def schemaDefaults : SchemaObject → Dict
  | .dict members => memberDefaults members
  | .object _ (some (.dict members)) => memberDefaults members
  | .object _ (some (.object ..)) => []
  | .object _ none => []

inductive ResultType where
  | form
  | menu
  | createEntry
  | showProgress
  | abort
  | other
  deriving DecidableEq, Repr

/-- A result of the MQTT flow. -/
structure MqttResult where
  type : ResultType
  flowId : String
  menuOptions : List String
  /-- `errors.get("base")`. -/
  baseError : Option String
  reason : Option String
  schema : Option SchemaObject

/-- What the world contributes to one step: MQTT, and the answers of its flow.
A call that raises has no answer. -/
structure MqttWorld where
  /-- `async_validate_mqtt`. -/
  validated : Bool
  /-- `_async_mqtt_entry_exists`. -/
  entryExists : Bool
  /-- `_is_hassio`. -/
  hassio : Bool
  /-- The brokers of the MQTT entries when the form of the household is made. -/
  brokers : List (Option String)
  init : Option MqttResult
  configure : Nat → Option MqttResult

/-! ## Two ways to set up MQTT -/

/-- A submitted broker form. -/
structure BrokerInput where
  broker : String
  port : Int
  username : Option String
  password : Option String

def defaultMqttProtocol : String := "5"

/-- The settings of a broker form. -/
def BrokerInput.data (input : BrokerInput) : Dict :=
  [("broker", .str input.broker), ("port", .int input.port),
      ("protocol", .str defaultMqttProtocol)] ++
    ((unlessBlank input.username).map fun value => ("username", Json.str value)).toList ++
    ((unlessBlank input.password).map fun value => ("password", Json.str value)).toList

/-- `other.setdefault(key, value)`. -/
def setDefault (members : Dict) (key : String) (value : Json) : Dict :=
  if (Json.lookup members key).isSome then members else members ++ [(key, value)]

/-- The settings the MQTT flow is given: its own defaults under those of the form.
What cannot be made a dictionary raises. -/
def mqttPayload (schema : Option SchemaObject) (data : Dict) : Except Raised Dict := do
  let payload := (schema.map schemaDefaults).getD [] ++ data
  let other ← membersOf ((Json.get payload "other_settings").orElse (.obj []))
  let other := setDefault (setDefault other "set_ca_cert" (.str "off")) "set_client_cert" (.bool false)
  pure (payload ++ [("other_settings", .obj other)])

/-- What an attempt to set up MQTT leaves behind: what is kept of its error, the
settings it submitted, and whether MQTT is there. -/
structure MqttAttempt where
  error : Option String
  submitted : List Dict
  result : Except Raised Bool

/-- `_async_create_mqtt_entry`; the error of an earlier attempt stays when this one
brings none of its own. -/
def asyncCreateMqttEntry (world : MqttWorld) (error : Option String) (data : Dict) : MqttAttempt :=
  match world.init with
  | none => ⟨error, [], .error .other⟩
  | some init =>
      if init.type ≠ .form ∨ init.flowId = "" then ⟨error, [], .ok false⟩
      else
        match mqttPayload init.schema data with
        | .error raised => ⟨error, [], .error raised⟩
        | .ok payload =>
            match world.configure 0 with
            | none => ⟨error, [payload], .ok false⟩
            | some result =>
                if result.type = .createEntry then ⟨error, [payload], .ok world.validated⟩
                else ⟨unlessBlank result.baseError, [payload], .ok false⟩

/-- Whether the flow of the add-on is still installing or starting it. -/
def MqttResult.progressing (result : MqttResult) : Bool := result.type = .showProgress

def addonRounds : Nat := 20

/-- The error of an add-on flow that made no entry; `settled` tells the type of the
result that ended the loop from one that was not looked at. -/
def addonError (settled : Bool) (result : MqttResult) : String :=
  (((unlessBlank result.baseError).or
    (if settled && result.type = .abort then unlessBlank result.reason else none))).getD
      "mqtt_addon_failed"

/-- `_async_setup_mqtt_addon`. -/
def asyncSetupMqttAddon (world : MqttWorld) : MqttAttempt :=
  match world.init with
  | none => ⟨none, [], .ok false⟩
  | some init =>
      if init.type = .menu ∧ "addon" ∈ init.menuOptions then
        match world.configure 0 with
        | none => ⟨none, [], .error .other⟩
        | some result =>
            match pursue MqttResult.progressing world.configure addonRounds 1 result with
            | .failed => ⟨none, [], .error .other⟩
            | .settled result =>
                if result.type = .createEntry then ⟨none, [], .ok world.validated⟩
                else ⟨some (addonError true result), [], .ok false⟩
            | .exhausted result => ⟨some (addonError false result), [], .ok false⟩
      else ⟨some "mqtt_addon_unavailable", [], .ok false⟩

/-! ## The flow -/

inductive SetupStep where
  | mqttGuide
  | mqttExpress
  | mqttAddon
  | household
  deriving DecidableEq, Repr

/-- What a flow shows. -/
inductive Shown where
  | menu (options : List SetupStep)
  | form (step : SetupStep) (errors : List (String × String))
  | abort (reason : String)
  | createEntry
  deriving DecidableEq, Repr

/-- A flow for a household, and the installation it adds to. -/
structure SetupFlow where
  shown : Shown
  expressError : Option String
  addonError : Option String
  /-- The name in `_household_defaults`. -/
  nameDefault : Option String
  hass : Installation

/-- What is submitted next. -/
inductive SetupInput where
  | choose (step : SetupStep)
  | confirm
  | broker (input : BrokerInput)
  | household (input : HouseholdInput)

/-- `_async_mqtt_household_defaults`. -/
def MqttWorld.householdName (world : MqttWorld) : Option String :=
  (world.brokers.findSome? unlessBlank).map fun broker => "HomeKey (" ++ broker ++ ")"

namespace SetupFlow

/-- What is known of a household is kept, and the broker names it otherwise. -/
def prefilled (flow : SetupFlow) (world : MqttWorld) : SetupFlow :=
  { flow with nameDefault := flow.nameDefault.or world.householdName }

/-- `async_step_household` before anything is submitted. -/
def asyncStepHousehold (flow : SetupFlow) (world : MqttWorld) : SetupFlow :=
  { flow.prefilled world with shown := .form .household [] }

/-- `async_step_household`; a step that raises is shown again. -/
def submitHousehold (blake2b : Blake2b) (flow : SetupFlow) (world : MqttWorld)
    (input : HouseholdInput) : SetupFlow :=
  let flow := flow.prefilled world
  match flow.hass.asyncStepHousehold blake2b input with
  | (hass, .form _ errors) => { flow with hass, shown := .form .household errors }
  | (hass, .abort reason) => { flow with hass, shown := .abort reason }
  | (hass, .createEntry) => { flow with hass, shown := .createEntry }
  | (hass, .failed) => { flow with hass }

/-- `async_step_user`: the flow begins. -/
def asyncStepUser (hass : Installation) (world : MqttWorld) : SetupFlow :=
  let flow : SetupFlow :=
    { shown := .menu ([.mqttGuide, .mqttExpress] ++ if world.hassio then [.mqttAddon] else [])
      expressError := none
      addonError := none
      nameDefault := none
      hass }
  if world.validated then flow.asyncStepHousehold world else flow

/-- `async_step_mqtt_guide`, submitted. -/
def asyncStepMqttGuide (flow : SetupFlow) (world : MqttWorld) : SetupFlow :=
  if world.validated then flow.asyncStepHousehold world
  else { flow with shown := .form .mqttGuide [("base", "mqtt_not_configured")] }

/-- `async_step_mqtt_express`, submitted. -/
def asyncStepMqttExpress (flow : SetupFlow) (world : MqttWorld) (input : BrokerInput) :
    SetupFlow :=
  if world.entryExists then
    if world.validated then flow.asyncStepHousehold world
    else { flow with shown := .form .mqttExpress [("base", "mqtt_not_configured")] }
  else
    let attempt := asyncCreateMqttEntry world flow.expressError input.data
    let flow := { flow with expressError := attempt.error }
    match attempt.result with
    | .error _ => flow
    | .ok true =>
        let name := "HomeKey (" ++ input.broker ++ ")"
        { flow with nameDefault := flow.nameDefault.or (some name) }.asyncStepHousehold world
    | .ok false =>
        { flow with
          shown := .form .mqttExpress
            [("base", (unlessBlank flow.expressError).getD "mqtt_setup_failed")] }

/-- `async_step_mqtt_addon`, submitted. -/
def asyncStepMqttAddon (flow : SetupFlow) (world : MqttWorld) : SetupFlow :=
  if world.hassio then
    let attempt := asyncSetupMqttAddon world
    let flow := { flow with addonError := attempt.error }
    match attempt.result with
    | .error _ => flow
    | .ok true => flow.asyncStepHousehold world
    | .ok false =>
        { flow with
          shown := .form .mqttAddon [("base", (unlessBlank flow.addonError).getD "mqtt_addon_failed")] }
  else { flow with shown := .abort "not_hassio" }

/-- A step that is chosen from the menu. -/
def enter (flow : SetupFlow) (world : MqttWorld) : SetupStep → SetupFlow
  | .mqttGuide => { flow with shown := .form .mqttGuide [] }
  | .mqttExpress => { flow with shown := .form .mqttExpress [] }
  | .mqttAddon =>
      { flow with shown := if world.hassio then .form .mqttAddon [] else .abort "not_hassio" }
  | .household => flow.asyncStepHousehold world

/-- What a submission does to what is shown; the flow manager refuses one that does
not answer it. -/
def step (blake2b : Blake2b) (flow : SetupFlow) (event : SetupInput × MqttWorld) : SetupFlow :=
  let world := event.2
  match flow.shown, event.1 with
  | .menu options, .choose step => if step ∈ options then flow.enter world step else flow
  | .form .mqttGuide _, .confirm => flow.asyncStepMqttGuide world
  | .form .mqttExpress _, .broker input => flow.asyncStepMqttExpress world input
  | .form .mqttAddon _, .confirm => flow.asyncStepMqttAddon world
  | .form .household _, .household input => flow.submitHousehold blake2b world input
  | _, _ => flow

end SetupFlow

/-! ## The broker form -/

section

variable {schema : Option SchemaObject} {payload : Dict}

theorem isSome_lookup_setDefault (members : Dict) (key : String) (value : Json) :
    (Json.lookup (setDefault members key value) key).isSome = true := by
  unfold setDefault
  split
  · next present => exact present
  · rw [Json.lookup_concat, if_pos rfl]
    rfl

/-- Another setting stays what it was. -/
theorem lookup_setDefault {members : Dict} {key other : String} (value : Json)
    (apart : other ≠ key) :
    Json.lookup (setDefault members key value) other = Json.lookup members other := by
  unfold setDefault
  split
  · rfl
  · rw [Json.lookup_concat, if_neg apart]

/-- The MQTT flow is given what the form says under every other name, and always the
two settings its schema has no default for. -/
theorem mqttPayload_settings {data : Dict} (made : mqttPayload schema data = .ok payload) :
    (∀ key, key ≠ "other_settings" →
        Json.lookup payload key = Json.lookup ((schema.map schemaDefaults).getD [] ++ data) key) ∧
      ∃ other, Json.lookup payload "other_settings" = some (.obj other) ∧
        (Json.lookup other "set_ca_cert").isSome = true ∧
        (Json.lookup other "set_client_cert").isSome = true := by
  obtain ⟨other, -, made⟩ := bind_eq_ok.mp made
  cases made
  refine ⟨fun key apart => by rw [Json.lookup_concat, if_neg apart], _,
    by rw [Json.lookup_concat, if_pos rfl], ?_, isSome_lookup_setDefault _ _ _⟩
  rw [lookup_setDefault _ (by decide)]
  exact isSome_lookup_setDefault _ _ _

end

/-! ## The add-on -/

section

variable {world : MqttWorld}

/-- The MQTT flow offers its add-on. -/
def MqttWorld.OffersAddon (world : MqttWorld) : Prop :=
  ∃ init, world.init = some init ∧ init.type = .menu ∧ "addon" ∈ init.menuOptions

/-- The answer to the menu choice is followed like the others. -/
theorem metAt_configure {first : MqttResult} (chosen : world.configure 0 = some first) :
    metAt world.configure 1 first = world.configure := by
  funext round
  cases round with
  | zero => exact chosen.symm
  | succ round => rw [metAt, Nat.add_comm]

theorem asyncSetupMqttAddon_of_offered (offered : world.OffersAddon) :
    asyncSetupMqttAddon world =
      match world.configure 0 with
      | none => ⟨none, [], .error .other⟩
      | some result =>
          match pursue MqttResult.progressing world.configure addonRounds 1 result with
          | .failed => ⟨none, [], .error .other⟩
          | .settled result =>
              if result.type = .createEntry then ⟨none, [], .ok world.validated⟩
              else ⟨some (addonError true result), [], .ok false⟩
          | .exhausted result => ⟨some (addonError false result), [], .ok false⟩ := by
  obtain ⟨init, answered, menu, listed⟩ := offered
  rw [asyncSetupMqttAddon, answered]
  dsimp only
  rw [if_pos ⟨menu, listed⟩]

theorem offered_of_result {result : Except Raised Bool}
    (ended : (asyncSetupMqttAddon world).result = result) (other : result ≠ .ok false) :
    world.OffersAddon := by
  unfold asyncSetupMqttAddon at ended
  split at ended
  · exact absurd ended.symm other
  · next init answered =>
      split at ended
      · next offered => exact ⟨init, answered, offered.1, offered.2⟩
      · exact absurd ended.symm other

/-- A first answer is met in the first round. -/
theorem configure_zero_of_metIn {round : Nat} {result : MqttResult}
    (met : MetIn MqttResult.progressing world.configure round result) :
    ∃ first, world.configure 0 = some first := by
  cases round with
  | zero => exact ⟨result, met.here⟩
  | succ round =>
      obtain ⟨first, chosen, -⟩ := met.before 0 (Nat.succ_pos round)
      exact ⟨first, chosen⟩

/-- An entry is not progress. -/
theorem progressing_of_created {result : MqttResult} (made : result.type = .createEntry) :
    result.progressing = false := by
  rw [MqttResult.progressing, made]
  rfl

/-- The add-on flow that ends at an answer of another type leaves its error. -/
theorem addon_settled (offered : world.OffersAddon) {round : Nat} {result : MqttResult}
    (bound : round < addonRounds)
    (met : MetIn MqttResult.progressing world.configure round result)
    (ended : result.progressing = false) :
    asyncSetupMqttAddon world =
      if result.type = .createEntry then ⟨none, [], .ok world.validated⟩
      else ⟨some (addonError true result), [], .ok false⟩ := by
  obtain ⟨first, chosen⟩ := configure_zero_of_metIn met
  have settled : pursue MqttResult.progressing world.configure addonRounds 1 first =
      .settled result := by
    rw [pursue_eq_settled_iff, metAt_configure chosen]
    exact ⟨ended, round, bound, met⟩
  rw [asyncSetupMqttAddon_of_offered offered, chosen]
  dsimp only
  rw [settled]

/-- The add-on flow that is still going when the rounds are used up is given up, and
what it answers last is not looked at. -/
theorem addon_exhausted (offered : world.OffersAddon) {result : MqttResult}
    (met : MetIn MqttResult.progressing world.configure addonRounds result) :
    asyncSetupMqttAddon world = ⟨some (addonError false result), [], .ok false⟩ := by
  obtain ⟨first, chosen⟩ := configure_zero_of_metIn met
  have exhausted : pursue MqttResult.progressing world.configure addonRounds 1 first =
      .exhausted result := by
    rw [pursue_eq_exhausted_iff, metAt_configure chosen]
    exact met
  rw [asyncSetupMqttAddon_of_offered offered, chosen]
  dsimp only
  rw [exhausted]

/-- The add-on sets up MQTT exactly when its flow is offered, makes an entry after
fewer progress answers than there are rounds, and MQTT connects. -/
theorem addon_created_iff :
    (asyncSetupMqttAddon world).result = .ok true ↔
      world.validated = true ∧ world.OffersAddon ∧
        ∃ round result, round < addonRounds ∧
          MetIn MqttResult.progressing world.configure round result ∧
          result.type = .createEntry := by
  constructor
  · intro created
    have offered := offered_of_result created (by simp)
    rw [asyncSetupMqttAddon_of_offered offered] at created
    split at created
    · cases created
    · next first chosen =>
        split at created
        · cases created
        · next result settled =>
            obtain ⟨-, round, bound, met⟩ := pursue_eq_settled_iff.mp settled
            rw [metAt_configure chosen] at met
            split at created
            · next made => exact ⟨Except.ok.inj created, offered, round, result, bound, met, made⟩
            · cases created
        · cases created
  · rintro ⟨validated, offered, round, result, bound, met, made⟩
    rw [addon_settled offered bound met (progressing_of_created made), if_pos made, validated]

/-- The add-on flow raises exactly when a call to it does that an answer asked for. -/
theorem addon_raises_iff :
    (∃ raised, (asyncSetupMqttAddon world).result = .error raised) ↔
      world.OffersAddon ∧ ∃ round, round ≤ addonRounds ∧ world.configure round = none ∧
        ∀ earlier, earlier < round → ∃ other, world.configure earlier = some other ∧
          other.progressing = true := by
  constructor
  · rintro ⟨raised, failed⟩
    have offered := offered_of_result failed (by simp)
    refine ⟨offered, ?_⟩
    rw [asyncSetupMqttAddon_of_offered offered] at failed
    split at failed
    · next missing =>
        exact ⟨0, Nat.zero_le _, missing, fun earlier bound => absurd bound (Nat.not_lt_zero _)⟩
    · next first chosen =>
        split at failed
        · next ended =>
            obtain ⟨round, other, bound, met, going, missing⟩ := pursue_eq_failed_iff.mp ended
            rw [metAt_configure chosen] at met
            refine ⟨round + 1, bound, by rw [Nat.add_comm]; exact missing, fun earlier before => ?_⟩
            rcases Nat.lt_succ_iff_lt_or_eq.mp before with early | rfl
            · exact met.before earlier early
            · exact ⟨other, met.here, going⟩
        · split at failed <;> cases failed
        · cases failed
  · rintro ⟨offered, round, bound, missing, before⟩
    rw [asyncSetupMqttAddon_of_offered offered]
    cases round with
    | zero =>
        rw [missing]
        exact ⟨_, rfl⟩
    | succ round =>
        obtain ⟨first, chosen, -⟩ := before 0 (Nat.succ_pos round)
        obtain ⟨other, here, going⟩ := before round (Nat.lt_succ_self round)
        have failed : pursue MqttResult.progressing world.configure addonRounds 1 first =
            .failed := by
          rw [pursue_eq_failed_iff, metAt_configure chosen]
          refine ⟨round, other, bound, ⟨here, fun earlier early => ?_⟩, going, ?_⟩
          · exact before earlier (Nat.lt_succ_of_lt early)
          · rw [Nat.add_comm]
            exact missing
        rw [chosen]
        dsimp only
        rw [failed]
        exact ⟨_, rfl⟩

/-- How the add-on sets up MQTT.  It succeeds exactly when the MQTT flow offers it,
makes an entry after fewer progress answers than there are rounds, and MQTT
connects; it raises exactly when a call does that such an answer asked for.  An entry
that is made while MQTT does not connect leaves no error.  The first answer that is
neither progress nor an entry leaves its error, and so does the one after the last
round, whatever its type. -/
theorem addon_within_rounds (world : MqttWorld) :
    ((asyncSetupMqttAddon world).result = .ok true ↔
        world.validated = true ∧ world.OffersAddon ∧
          ∃ round result, round < addonRounds ∧
            MetIn MqttResult.progressing world.configure round result ∧
            result.type = .createEntry) ∧
      ((∃ raised, (asyncSetupMqttAddon world).result = .error raised) ↔
        world.OffersAddon ∧ ∃ round, round ≤ addonRounds ∧ world.configure round = none ∧
          ∀ earlier, earlier < round → ∃ other, world.configure earlier = some other ∧
            other.progressing = true) ∧
      (∀ round result, world.OffersAddon → round < addonRounds →
        MetIn MqttResult.progressing world.configure round result →
        result.type = .createEntry → world.validated = false →
        asyncSetupMqttAddon world = ⟨none, [], .ok false⟩) ∧
      ∀ round result, world.OffersAddon →
        MetIn MqttResult.progressing world.configure round result →
        (round < addonRounds ∧ result.progressing = false ∧ result.type ≠ .createEntry) ∨
          round = addonRounds →
        asyncSetupMqttAddon world =
          ⟨some (addonError (decide (round < addonRounds)) result), [], .ok false⟩ := by
  refine ⟨addon_created_iff, addon_raises_iff,
    fun round result offered bound met made unconnected => ?_,
    fun round result offered met ended => ?_⟩
  · rw [addon_settled offered bound met (progressing_of_created made), if_pos made, unconnected]
  rcases ended with ⟨bound, stopped, other⟩ | rfl
  · rw [addon_settled offered bound met stopped, if_neg other, decide_eq_true bound]
  · rw [addon_exhausted offered met, decide_eq_false (Nat.lt_irrefl _)]

end

/-! ## Every run of the flow -/

/-- Everything a submitted household form does to the installation. -/
theorem Installation.asyncStepHousehold_cases (blake2b : Blake2b) (hass : Installation)
    (input : HouseholdInput) :
    ((hass.asyncStepHousehold blake2b input).1 = hass ∧
        (hass.asyncStepHousehold blake2b input).2 ≠ .createEntry) ∨
      ∃ keys, hass.asyncStepHousehold blake2b input =
        ({ hass with keys, entries := hass.entries ++ [householdEntry input] }, .createEntry) := by
  unfold asyncStepHousehold
  dsimp only
  split
  · exact Or.inl ⟨rfl, by simp⟩
  split
  · exact Or.inl ⟨rfl, by simp⟩
  split
  · exact Or.inl ⟨rfl, by simp⟩
  split
  · exact Or.inl ⟨rfl, by simp⟩
  · exact Or.inl ⟨rfl, by simp⟩
  · next keys stored => exact Or.inr ⟨keys, rfl⟩

namespace SetupFlow

/-- The form of the household that a submission brings, where it is shown. -/
def submittedForm (flow : SetupFlow) (event : SetupInput × MqttWorld) : Option HouseholdInput :=
  match flow.shown, event.1 with
  | .form .household _, .household input => some input
  | _, _ => none

/-- The forms of the household that a run is answered with, in order. -/
def submittedForms (blake2b : Blake2b) (flow : SetupFlow) :
    List (SetupInput × MqttWorld) → List HouseholdInput
  | [] => []
  | event :: rest =>
      (flow.submittedForm event).toList ++ submittedForms blake2b (flow.step blake2b event) rest

/-- A flow in which the form of the household is only shown once MQTT was there, and which
adds nothing but the entry of the last form. -/
structure Gated (blake2b : Blake2b) (validated : Prop) (before : Installation)
    (last : Option HouseholdInput) (flow : SetupFlow) : Prop where
  menu : ∀ options, flow.shown = .menu options → SetupStep.household ∉ options
  form : ∀ errors, flow.shown = .form .household errors → validated
  kept : flow.shown ≠ .createEntry → flow.hass = before
  entry : flow.shown = .createEntry → validated ∧ ∃ input keys, last = some input ∧
    before.asyncStepHousehold blake2b input = (flow.hass, .createEntry) ∧
    flow.hass = { before with keys, entries := before.entries ++ [householdEntry input] }

variable {blake2b : Blake2b} {validated : Prop} {before : Installation} {flow : SetupFlow}
variable {last : Option HouseholdInput} {world : MqttWorld}

/-- A form other than the one of the household, an abort and the household's own
form once MQTT was there keep the gate. -/
theorem Gated.showing (same : flow.hass = before)
    (menu : ∀ options, flow.shown ≠ .menu options)
    (form : ∀ errors, flow.shown = .form .household errors → validated)
    (going : flow.shown ≠ .createEntry) : flow.Gated blake2b validated before last :=
  ⟨fun options shown => absurd shown (menu options), form, fun _ => same,
    fun ended => absurd ended going⟩

/-- A flow that shows what it showed keeps the gate. -/
theorem Gated.unmoved {after : SetupFlow} (gated : flow.Gated blake2b validated before last)
    (going : flow.shown ≠ .createEntry) (shown : after.shown = flow.shown)
    (same : after.hass = before) : after.Gated blake2b validated before last :=
  ⟨fun options seen => gated.menu options (shown ▸ seen),
    fun errors seen => gated.form errors (shown ▸ seen), fun _ => same,
    fun ended => absurd (shown ▸ ended) going⟩

theorem gated_household (same : flow.hass = before) (met : validated) :
    (flow.asyncStepHousehold world).Gated blake2b validated before last :=
  .showing same (by simp [asyncStepHousehold]) (fun _ _ => met) (by simp [asyncStepHousehold])

theorem gated_submitHousehold (world : MqttWorld) (input : HouseholdInput)
    (gated : flow.Gated blake2b validated before last) {errors : List (String × String)}
    (shown : flow.shown = .form .household errors) :
    (flow.submitHousehold blake2b world input).Gated blake2b validated before (some input) := by
  have met := gated.form errors shown
  have same := gated.kept (by rw [shown]; simp)
  subst same
  unfold submitHousehold
  dsimp only
  rcases flow.hass.asyncStepHousehold_cases blake2b input with ⟨same, other⟩ | ⟨keys, created⟩
  · split
    · next hass _ errors result =>
        rw [show flow.hass.asyncStepHousehold blake2b input = _ from result] at same
        exact .showing same (by simp) (fun _ _ => met) (by simp)
    · next hass reason result =>
        rw [show flow.hass.asyncStepHousehold blake2b input = _ from result] at same
        exact .showing same (by simp) (fun _ _ => met) (by simp)
    · next hass result =>
        rw [show flow.hass.asyncStepHousehold blake2b input = _ from result] at other
        exact absurd rfl other
    · next hass result =>
        rw [show flow.hass.asyncStepHousehold blake2b input = _ from result] at same
        refine .showing same (fun options menu => ?_) (fun _ _ => met) (fun ended => ?_)
        · cases shown.symm.trans menu
        · cases shown.symm.trans ended
  · rw [prefilled]
    dsimp only
    rw [created]
    exact ⟨by simp, by simp, fun going => absurd rfl going,
      fun _ => ⟨met, input, keys, rfl, created, rfl⟩⟩

theorem gated_mqttGuide (same : flow.hass = before) (met : world.validated = true → validated) :
    (flow.asyncStepMqttGuide world).Gated blake2b validated before last := by
  unfold asyncStepMqttGuide
  split
  · next connected => exact gated_household same (met connected)
  · exact .showing same (by simp) (by simp) (by simp)

/-- An attempt that ends well found MQTT. -/
theorem validated_of_created {error : Option String} {data : Dict}
    (created : (asyncCreateMqttEntry world error data).result = .ok true) :
    world.validated = true := by
  unfold asyncCreateMqttEntry at created
  split at created
  · cases created
  split at created
  · cases created
  split at created
  · cases created
  split at created
  · cases created
  split at created
  · exact Except.ok.inj created
  · cases created

theorem gated_mqttExpress (input : BrokerInput) (going : flow.shown ≠ .createEntry)
    (gated : flow.Gated blake2b validated before last)
    (met : world.validated = true → validated) :
    (flow.asyncStepMqttExpress world input).Gated blake2b validated before last := by
  have same := gated.kept going
  unfold asyncStepMqttExpress
  split
  · split
    · next connected => exact gated_household same (met connected)
    · exact .showing same (by simp) (by simp) (by simp)
  · dsimp only
    split
    · exact gated.unmoved going rfl same
    · next created => exact gated_household same (met (validated_of_created created))
    · exact .showing same (by simp) (by simp) (by simp)

theorem gated_mqttAddon (going : flow.shown ≠ .createEntry)
    (gated : flow.Gated blake2b validated before last)
    (met : world.validated = true → validated) :
    (flow.asyncStepMqttAddon world).Gated blake2b validated before last := by
  have same := gated.kept going
  unfold asyncStepMqttAddon
  split
  · dsimp only
    split
    · exact gated.unmoved going rfl same
    · next created => exact gated_household same (met (addon_created_iff.mp created).1)
    · exact .showing same (by simp) (by simp) (by simp)
  · exact .showing same (by simp) (by simp) (by simp)

theorem gated_enter {step : SetupStep} (offered : step ≠ .household) (same : flow.hass = before) :
    (flow.enter world step).Gated blake2b validated before last := by
  cases step with
  | mqttGuide => exact .showing same (by simp [enter]) (by simp [enter]) (by simp [enter])
  | mqttExpress => exact .showing same (by simp [enter]) (by simp [enter]) (by simp [enter])
  | mqttAddon =>
      rw [enter]
      split
      · exact .showing same (by simp) (by simp) (by simp)
      · exact .showing same (by simp) (by simp) (by simp)
  | household => exact absurd rfl offered

theorem submittedForm_eq_none {event : SetupInput × MqttWorld}
    (unanswered : ∀ errors form, flow.shown = .form .household errors →
      event.1 = .household form → False) : flow.submittedForm event = none := by
  unfold submittedForm
  split
  · next errors form shown submitted => exact (unanswered errors form shown submitted).elim
  · rfl

/-- A step in which MQTT is there only if it was there in the run keeps the gate, with the
form it is answered with as the last one. -/
theorem gated_step (event : SetupInput × MqttWorld)
    (gated : flow.Gated blake2b validated before last)
    (met : (∀ input, event.1 ≠ .household input) → event.2.validated = true → validated) :
    (flow.step blake2b event).Gated blake2b validated before
      ((flow.submittedForm event).or last) := by
  obtain ⟨input, world⟩ := event
  unfold step
  dsimp only
  split
  · next options chosen shown =>
      rw [submittedForm_eq_none (by simp [shown]), Option.none_or]
      split
      · next listed =>
          refine gated_enter (fun same => ?_) (gated.kept (by simp [shown]))
          exact gated.menu options shown (same ▸ listed)
      · exact gated
  · next shown =>
      rw [submittedForm_eq_none (by simp [shown]), Option.none_or]
      exact gated_mqttGuide (gated.kept (by simp [shown])) (met (by simp))
  · next shown =>
      rw [submittedForm_eq_none (by simp [shown]), Option.none_or]
      exact gated_mqttExpress _ (by simp [shown]) gated (met (by simp))
  · next shown =>
      rw [submittedForm_eq_none (by simp [shown]), Option.none_or]
      exact gated_mqttAddon (by simp [shown]) gated (met (by simp))
  · next form shown =>
      have taken : flow.submittedForm (.household form, world) = some form := by
        rw [submittedForm, shown]
      rw [taken]
      exact gated_submitHousehold world form gated shown
  · next unanswered =>
      rw [submittedForm_eq_none unanswered, Option.none_or]
      exact gated

/-- A run in which MQTT is there at no other time keeps the gate. -/
theorem gated_run (gated : flow.Gated blake2b validated before last)
    {events : List (SetupInput × MqttWorld)}
    (met : ∀ event ∈ events, (∀ input, event.1 ≠ .household input) →
      event.2.validated = true → validated) :
    (run (step blake2b) flow events).Gated blake2b validated before
      ((submittedForms blake2b flow events).getLast?.or last) := by
  induction events generalizing flow last with
  | nil => exact gated
  | cons event rest ih =>
      obtain ⟨first, others⟩ := List.forall_mem_cons.mp met
      have later := ih (gated_step event gated first) others
      rw [← Option.or_assoc] at later
      rw [run_cons, submittedForms, List.getLast?_append]
      cases taken : flow.submittedForm event with
      | none =>
          rw [taken] at later
          exact later
      | some form =>
          rw [taken] at later
          exact later

/-- In every run of the flow the form of the household is only shown, and the
installation only touched, once MQTT was there at a step before; and what it is
left with then is one more entry, the one its last form makes. -/
theorem household_after_mqtt (blake2b : Blake2b) (hass : Installation) (world : MqttWorld)
    (events : List (SetupInput × MqttWorld)) :
    (run (step blake2b) (asyncStepUser hass world) events).Gated blake2b
      (world.validated = true ∨
        ∃ event ∈ events, event.2.validated = true ∧ ∀ input, event.1 ≠ .household input)
      hass (submittedForms blake2b (asyncStepUser hass world) events).getLast? := by
  rw [← Option.or_none (o := (submittedForms blake2b (asyncStepUser hass world) events).getLast?)]
  refine gated_run ?_ fun event member other connected => Or.inr ⟨event, member, connected, other⟩
  unfold asyncStepUser
  dsimp only
  split
  · next connected => exact gated_household rfl (Or.inl connected)
  · refine ⟨fun options shown => ?_, by simp, fun _ => rfl, by simp⟩
    cases shown
    split <;> simp

end SetupFlow

end HomeKeyHousehold
