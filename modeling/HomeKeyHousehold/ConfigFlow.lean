import HomeKeyHousehold.Library.Run
import HomeKeyHousehold.Connect
import HomeKeyHousehold.Credential

/-!
# Adding entries

A household is added by its id and a node by its certificate, so the unique ids
of the two kinds of entries say nothing about each other.  The flow for a node
looks at the households of all entries before it creates one; the flow for a
household only asks whether its own unique id is taken.
-/

namespace HomeKeyHousehold

open Library

/-! ## Entries and flows -/

inductive TransportKind where
  | mqtt
  | direct
  deriving DecidableEq, Repr

/-- A config entry: its unique id, its title and its data. -/
structure ConfigEntry where
  uniqueId : String
  title : String
  transport : TransportKind
  householdId : String
  householdName : String
  commandControl : Option Bool := none
  nodeId : Option String := none
  nodeName : Option String := none
  model : Option String := none
  host : Option String := none
  port : Option Nat := none
  fingerprint : Option String := none
  username : Option String := none
  password : Option String := none
  deriving DecidableEq, Repr

/-- What discovery carries to the credential step of a flow. -/
structure Discovery where
  uniqueId : String
  host : String
  port : Nat
  fingerprint : String
  nodeId : String
  nodeName : String
  model : String
  version : String
  deriving DecidableEq, Repr

/-- The entries of the integration, the discovered nodes whose flow waits for
credentials, and the file of command keys. -/
structure Installation where
  entries : List ConfigEntry
  flows : List Discovery
  keys : Option Dict

/-- What a step shows or does. -/
inductive FlowResult where
  | form (stepId : String) (errors : List (String × String))
  | abort (reason : String)
  | createEntry
  | failed
  deriving DecidableEq, Repr

def integrationDomain : String := "homekey_household"

/-- `f"{DOMAIN}_{value}"`. -/
def uniqueIdOf (value : String) : String := integrationDomain ++ "_" ++ value

namespace Installation

/-- Whether an entry has a unique id. -/
def configured (hass : Installation) (uniqueId : String) : Bool :=
  hass.entries.any fun entry => entry.uniqueId = uniqueId

/-- The household ids of the entries. -/
def households (hass : Installation) : List String := hass.entries.map ConfigEntry.householdId

end Installation

/-! ## The household step -/

def idSafeChars : String := "abcdefghijklmnopqrstuvwxyzABCDEFGHIJKLMNOPQRSTUVWXYZ0123456789_-"

/-- `validate_id`. -/
def validateId (value fieldName : String) (maxLen : Nat := 64) : Validated String :=
  if value = "" then invalid (fieldName ++ ": must not be empty")
  else if maxLen < value.length then
    invalid (fieldName ++ ": too long (max " ++ toString maxLen ++ ")")
  else if value.toList.any fun ch => !idSafeChars.toList.contains ch then
    invalid (fieldName ++ ": contains invalid characters (allowed: [A-Za-z0-9_-])")
  else .ok value

/-- A submitted household form; a flow with the same unique id may already be in
progress. -/
structure HouseholdInput where
  householdId : String
  name : Option String
  recoverySecret : Option String
  salt : Option String
  commandControl : Option Bool
  inProgress : Bool

/-- The entry of a household that receives its nodes over MQTT. -/
def householdEntry (input : HouseholdInput) : ConfigEntry :=
  let householdId := strip input.householdId
  let given := strip (input.name.getD "")
  let name := if given = "" then householdId else given
  { uniqueId := uniqueIdOf householdId
    title := name
    transport := .mqtt
    householdId
    householdName := name
    commandControl := some (input.commandControl.getD true) }

namespace Installation

/-- `async_step_household` with a submitted form. -/
def asyncStepHousehold (blake2b : Blake2b) (hass : Installation) (input : HouseholdInput) :
    Installation × FlowResult :=
  let householdId := strip input.householdId
  match validateId householdId "household_id" with
  | .error _ => (hass, .form "household" [("household_id", "invalid_household_id")])
  | .ok _ =>
      if input.inProgress then (hass, .abort "already_in_progress")
      else if hass.configured (uniqueIdOf householdId) then (hass, .abort "already_configured")
      else
        match submitSecret blake2b hass.keys householdId input.recoverySecret input.salt with
        | .failed => (hass, .failed)
        | .refused => (hass, .form "household" [("recovery_secret", "invalid_recovery_secret")])
        | .kept keys =>
            ({ hass with keys, entries := hass.entries ++ [householdEntry input] }, .createEntry)

end Installation

/-! ## Discovered nodes -/

/-- What mDNS advertises; a flow with the same unique id may be in progress. -/
structure ZeroconfInfo where
  properties : List (String × Option String)
  ipAddresses : List String
  host : Option String
  hostname : Option String
  port : Option Nat
  inProgress : Bool

/-- `properties.get(key) or ""`. -/
def ZeroconfInfo.property (info : ZeroconfInfo) (key : String) : String :=
  ((info.properties.lookup key).getD none).getD ""

/-- `_preferred_host`: an IPv4 address needs no resolver. -/
def preferredHost (info : ZeroconfInfo) : Option String :=
  match info.ipAddresses.find? fun text => text ≠ "" && !text.toList.contains ':' with
  | some text => some text
  | none => (unlessBlank info.host).or (unlessBlank info.hostname)

namespace Installation

/-- `_abort_if_unique_id_configured` with the new address of a known node. -/
def readdress (hass : Installation) (uniqueId host : String) (port : Nat) : Installation :=
  { hass with
    entries := hass.entries.map fun entry =>
      if entry.uniqueId = uniqueId then { entry with host := some host, port := some port }
      else entry }

/-- `async_step_zeroconf`. -/
def asyncStepZeroconf (hass : Installation) (info : ZeroconfInfo) : Installation × FlowResult :=
  if info.property "proto" ≠ toString haApiProtocol then (hass, .abort "unsupported_protocol")
  else if info.property "tls" ≠ "1" then (hass, .abort "tls_required")
  else if info.property "fp" = "" then (hass, .abort "no_fingerprint")
  else
    match preferredHost info, info.port.filter fun port => port ≠ 0 with
    | some host, some port =>
        let uniqueId := uniqueIdOf (normaliseFingerprint (info.property "fp"))
        if info.inProgress then (hass, .abort "already_in_progress")
        else if hass.configured uniqueId then
          (hass.readdress uniqueId host port, .abort "already_configured")
        else
          ({ hass with
              flows := hass.flows ++
                [{ uniqueId
                   host
                   port
                   fingerprint := info.property "fp"
                   nodeId := info.property "id"
                   nodeName := info.property "name"
                   model := info.property "model"
                   version := info.property "ver" }] },
            .form "direct" [])
    | _, _ => (hass, .abort "node_address_unknown")

/-- `_DIRECT_ERROR_KEYS`. -/
def directErrorKey : DirectError → String
  | .fingerprintMismatch => "fingerprint_mismatch"
  | .auth => "node_auth_failed"
  | .tlsUnavailable => "tls_required"
  | .noHousehold => "no_household"
  | .protocol => "unsupported_protocol"
  | .transport => "node_unreachable"

/-- The entry of a discovered node. -/
def directEntry (discovery : Discovery) (probe : DirectProbe) (username password : String) :
    ConfigEntry :=
  { uniqueId := discovery.uniqueId
    title := if probe.nodeName = "" then probe.nodeId else probe.nodeName
    transport := .direct
    householdId := probe.householdId
    householdName := probe.householdName
    nodeId := some probe.nodeId
    nodeName := some probe.nodeName
    model := some probe.model
    host := some discovery.host
    port := some discovery.port
    fingerprint := some probe.fingerprint
    username := some username
    password := some password }

/-- `_async_create_direct_entry`: refused when any entry has the household. -/
def asyncCreateDirectEntry (hass : Installation) (discovery : Discovery) (probe : DirectProbe)
    (username password : String) : Installation × FlowResult :=
  if hass.entries.any fun entry => entry.householdId = probe.householdId then
    (hass, .abort "household_already_configured")
  else
    ({ hass with entries := hass.entries ++ [directEntry discovery probe username password] },
      .createEntry)

/-- `async_step_direct` of a waiting flow with submitted credentials; the flow is
over when it creates an entry or aborts. -/
def asyncStepDirect (sha256 : Sha256) (hass : Installation) (index : Nat)
    (username password : String) (world : ConnectWorld) : Installation × FlowResult :=
  match hass.flows[index]? with
  | none => (hass, .abort "node_address_unknown")
  | some discovery =>
      let username := strip username
      if username = "" ∨ password = "" then (hass, .form "direct" [("base", "node_auth_failed")])
      else
        match asyncConnectNode sha256 discovery.host discovery.port discovery.fingerprint world with
        | .error (.direct error _) => (hass, .form "direct" [("base", directErrorKey error)])
        | .error _ => (hass, .failed)
        | .ok probe =>
            asyncCreateDirectEntry { hass with flows := hass.flows.eraseIdx index } discovery probe
              username password

/-! ## Runs of flows -/

/-- The next step of some flow. -/
inductive FlowEvent where
  | household (input : HouseholdInput)
  | zeroconf (info : ZeroconfInfo)
  | direct (index : Nat) (username password : String) (world : ConnectWorld)

/-- The installation after a step. -/
def flowStep (blake2b : Blake2b) (sha256 : Sha256) (hass : Installation) :
    FlowEvent → Installation
  | .household input => (hass.asyncStepHousehold blake2b input).1
  | .zeroconf info => (hass.asyncStepZeroconf info).1
  | .direct index username password world =>
      (hass.asyncStepDirect sha256 index username password world).1

/-- An integration without entries. -/
def initial (keys : Option Dict) : Installation := ⟨[], [], keys⟩

/-- A household form that nothing but an entry of the household stands against:
the id is valid, no flow and no entry has its unique id, and the secret, if there
is one, can be stored. -/
structure Submittable (blake2b : Blake2b) (hass : Installation) (input : HouseholdInput) :
    Prop where
  valid : (validateId (strip input.householdId) "household_id").isOk = true
  alone : input.inProgress = false
  free : hass.configured (uniqueIdOf (strip input.householdId)) = false
  stored : ∃ keys, submitSecret blake2b hass.keys (strip input.householdId) input.recoverySecret
    input.salt = .kept keys

/-- No household is submitted that a direct entry already has. -/
def HouseholdFree (blake2b : Blake2b) (hass : Installation) : FlowEvent → Prop
  | .household input => Submittable blake2b hass input →
      ∀ entry ∈ hass.entries, entry.transport = .direct →
        entry.householdId ≠ strip input.householdId
  | .zeroconf _ => True
  | .direct .. => True

/-- The unique id of a household is made of its id. -/
def NamedByHousehold (hass : Installation) : Prop :=
  ∀ entry ∈ hass.entries, entry.transport = .mqtt → entry.uniqueId = uniqueIdOf entry.householdId

variable {blake2b : Blake2b} {sha256 : Sha256} {hass : Installation}

/-- Everything a household form can do to the entries. -/
theorem asyncStepHousehold_entries (blake2b : Blake2b) (hass : Installation)
    (input : HouseholdInput) :
    (Submittable blake2b hass input ∧ (hass.asyncStepHousehold blake2b input).1.entries =
        hass.entries ++ [householdEntry input]) ∨
      (¬ Submittable blake2b hass input ∧
        (hass.asyncStepHousehold blake2b input).1.entries = hass.entries) := by
  unfold asyncStepHousehold
  dsimp only
  split
  · next refused =>
      refine Or.inr ⟨fun submittable => ?_, rfl⟩
      have valid := submittable.valid
      rw [refused] at valid
      cases valid
  · next valid =>
      split
      · next busy =>
          exact Or.inr ⟨fun submittable => Bool.false_ne_true (submittable.alone ▸ busy), rfl⟩
      · next alone =>
          split
          · next taken =>
              exact Or.inr ⟨fun submittable => Bool.false_ne_true (submittable.free ▸ taken), rfl⟩
          · next free =>
              split
              · next failed =>
                  refine Or.inr ⟨fun submittable => ?_, rfl⟩
                  obtain ⟨keys, stored⟩ := submittable.stored
                  cases failed.symm.trans stored
              · next refused =>
                  refine Or.inr ⟨fun submittable => ?_, rfl⟩
                  obtain ⟨keys, stored⟩ := submittable.stored
                  cases refused.symm.trans stored
              · next keys stored =>
                  refine Or.inl ⟨⟨?_, ?_, ?_, keys, stored⟩, rfl⟩
                  · rw [valid]
                    rfl
                  · exact Bool.not_eq_true _ ▸ alone
                  · exact Bool.not_eq_true _ ▸ free

theorem readdress_households (hass : Installation) (uniqueId host : String) (port : Nat) :
    (hass.readdress uniqueId host port).households = hass.households := by
  rw [households, households, readdress, List.map_map]
  refine List.map_congr_left fun entry _ => ?_
  rw [Function.comp_apply]
  split <;> rfl

theorem NamedByHousehold.readdress (keyed : hass.NamedByHousehold) (uniqueId host : String)
    (port : Nat) : (hass.readdress uniqueId host port).NamedByHousehold := by
  intro entry member mqtt
  obtain ⟨old, stored, rfl⟩ := List.mem_map.mp member
  split at mqtt
  · next same =>
      rw [if_pos same]
      exact keyed old stored mqtt
  · next other =>
      rw [if_neg other]
      exact keyed old stored mqtt

/-- Discovery moves addresses at most. -/
theorem asyncStepZeroconf_entries (hass : Installation) (info : ZeroconfInfo) :
    (hass.asyncStepZeroconf info).1.entries = hass.entries ∨
      ∃ uniqueId host port, (hass.asyncStepZeroconf info).1 = hass.readdress uniqueId host port := by
  unfold asyncStepZeroconf
  split
  · exact Or.inl rfl
  split
  · exact Or.inl rfl
  split
  · exact Or.inl rfl
  split
  · dsimp only
    split
    · exact Or.inl rfl
    split
    · exact Or.inr ⟨_, _, _, rfl⟩
    · exact Or.inl rfl
  · exact Or.inl rfl

/-- A node is added only for a household that no entry has. -/
theorem asyncStepDirect_entries (sha256 : Sha256) (hass : Installation) (index : Nat)
    (username password : String) (world : ConnectWorld) :
    (hass.asyncStepDirect sha256 index username password world).1.entries = hass.entries ∨
      ∃ entry, entry.transport = .direct ∧ entry.householdId ∉ hass.households ∧
        (hass.asyncStepDirect sha256 index username password world).1.entries =
          hass.entries ++ [entry] := by
  unfold asyncStepDirect
  split
  · exact Or.inl rfl
  · next discovery waiting =>
      dsimp only
      split
      · exact Or.inl rfl
      split
      · exact Or.inl rfl
      · exact Or.inl rfl
      · next probe connected =>
          unfold asyncCreateDirectEntry
          split
          · exact Or.inl rfl
          · next unknown =>
              refine Or.inr ⟨directEntry discovery probe (strip username) password, rfl, ?_, rfl⟩
              intro member
              obtain ⟨entry, stored, same⟩ := List.mem_map.mp member
              exact unknown (List.any_eq_true.mpr ⟨entry, stored, decide_eq_true same⟩)

variable {keys : Option Dict}

theorem namedByHousehold_append {entry : ConfigEntry} {after : Installation}
    (named : hass.NamedByHousehold) (appended : after.entries = hass.entries ++ [entry])
    (unique : entry.transport = .mqtt → entry.uniqueId = uniqueIdOf entry.householdId) :
    after.NamedByHousehold := by
  intro other member mqtt
  rw [appended] at member
  rcases List.mem_append.mp member with old | new
  · exact named other old mqtt
  · rw [List.mem_singleton.mp new] at mqtt ⊢
    exact unique mqtt

theorem namedByHousehold_of_same {after : Installation} (named : hass.NamedByHousehold)
    (same : after.entries = hass.entries) : after.NamedByHousehold := by
  intro entry member
  exact named entry (same ▸ member)

theorem namedByHousehold_flowStep (event : FlowEvent) (named : hass.NamedByHousehold) :
    (flowStep blake2b sha256 hass event).NamedByHousehold := by
  cases event with
  | household input =>
      rw [flowStep]
      rcases asyncStepHousehold_entries blake2b hass input with
        ⟨-, appended⟩ | ⟨-, same⟩
      · exact namedByHousehold_append named appended fun _ => rfl
      · exact namedByHousehold_of_same named same
  | zeroconf info =>
      rw [flowStep]
      rcases hass.asyncStepZeroconf_entries info with same | ⟨uniqueId, host, port, moved⟩
      · exact namedByHousehold_of_same named same
      · rw [moved]
        exact named.readdress uniqueId host port
  | direct index username password world =>
      rw [flowStep]
      rcases asyncStepDirect_entries sha256 hass index username password world with
        same | ⟨entry, direct, -, appended⟩
      · exact namedByHousehold_of_same named same
      · refine namedByHousehold_append named appended fun mqtt => ?_
        rw [direct] at mqtt
        cases mqtt

/-- A household that is submitted is new exactly when no direct entry has it: an
entry of the household over MQTT would have its unique id. -/
theorem household_new_iff (named : hass.NamedByHousehold) {householdId : String}
    (free : hass.configured (uniqueIdOf householdId) = false) :
    householdId ∉ hass.households ↔
      ∀ entry ∈ hass.entries, entry.transport = .direct → entry.householdId ≠ householdId := by
  constructor
  · intro new entry member _ same
    exact new (List.mem_map.mpr ⟨entry, member, same⟩)
  · intro apart known
    obtain ⟨entry, member, same⟩ := List.mem_map.mp known
    cases transport : entry.transport with
    | direct => exact apart entry member transport same
    | mqtt =>
        have taken : hass.configured (uniqueIdOf householdId) = true := by
          refine List.any_eq_true.mpr ⟨entry, member, decide_eq_true ?_⟩
          rw [named entry member transport, same]
        rw [free] at taken
        cases taken

/-- A step adds at most one household, behind the others. -/
theorem households_flowStep (blake2b : Blake2b) (sha256 : Sha256) (hass : Installation)
    (event : FlowEvent) :
    ∃ added, (flowStep blake2b sha256 hass event).households = hass.households ++ added := by
  cases event with
  | household input =>
      rcases asyncStepHousehold_entries blake2b hass input with ⟨-, appended⟩ | ⟨-, same⟩
      · exact ⟨[strip input.householdId], by rw [households, flowStep, appended, List.map_append]; rfl⟩
      · exact ⟨[], by rw [households, flowStep, same, List.append_nil]; rfl⟩
  | zeroconf info =>
      refine ⟨[], ?_⟩
      rcases hass.asyncStepZeroconf_entries info with same | ⟨uniqueId, host, port, moved⟩
      · rw [households, flowStep, same, List.append_nil]
        rfl
      · rw [flowStep, moved, readdress_households, List.append_nil]
  | direct index username password world =>
      rcases asyncStepDirect_entries sha256 hass index username password world with
        same | ⟨entry, -, -, appended⟩
      · exact ⟨[], by rw [households, flowStep, same, List.append_nil]; rfl⟩
      · exact ⟨[entry.householdId], by rw [households, flowStep, appended, List.map_append]; rfl⟩

/-- No two entries have the same household. -/
def Distinct (hass : Installation) : Prop := hass.households.Nodup

theorem distinct_of_flowStep (event : FlowEvent)
    (distinct : (flowStep blake2b sha256 hass event).Distinct) : hass.Distinct := by
  obtain ⟨added, appended⟩ := households_flowStep blake2b sha256 hass event
  rw [Distinct, appended] at distinct
  exact (List.nodup_append.mp distinct).1

theorem distinct_append_iff {after : Installation} {entry : ConfigEntry} (distinct : hass.Distinct)
    (appended : after.entries = hass.entries ++ [entry]) :
    after.Distinct ↔ entry.householdId ∉ hass.households := by
  rw [Distinct, households, appended, List.map_append, List.map_singleton, List.nodup_append]
  constructor
  · rintro ⟨-, -, apart⟩ known
    exact apart _ known _ (List.mem_singleton_self _) rfl
  · intro new
    refine ⟨distinct, List.nodup_singleton _, ?_⟩
    rintro old known added single rfl
    exact new (List.mem_singleton.mp single ▸ known)

/-- A step keeps households distinct exactly when it submits none that a direct
entry has. -/
theorem distinct_flowStep_iff (event : FlowEvent) (named : hass.NamedByHousehold)
    (distinct : hass.Distinct) :
    (flowStep blake2b sha256 hass event).Distinct ↔ HouseholdFree blake2b hass event := by
  cases event with
  | household input =>
      rcases asyncStepHousehold_entries blake2b hass input with
        ⟨submittable, appended⟩ | ⟨refused, same⟩
      · rw [flowStep, distinct_append_iff distinct appended, HouseholdFree]
        refine (household_new_iff named submittable.free).trans ?_
        exact ⟨fun apart _ => apart, fun apart => apart submittable⟩
      · refine iff_of_true ?_ fun submittable => absurd submittable refused
        rw [Distinct, households, flowStep, same]
        exact distinct
  | zeroconf info =>
      refine iff_of_true ?_ trivial
      rcases hass.asyncStepZeroconf_entries info with same | ⟨uniqueId, host, port, moved⟩
      · rw [Distinct, households, flowStep, same]
        exact distinct
      · rw [Distinct, flowStep, moved, readdress_households]
        exact distinct
  | direct index username password world =>
      refine iff_of_true ?_ trivial
      rcases asyncStepDirect_entries sha256 hass index username password world with
        same | ⟨entry, -, new, appended⟩
      · rw [Distinct, households, flowStep, same]
        exact distinct
      · rw [flowStep, distinct_append_iff distinct appended]
        exact new

/-- After any flows no two entries have the same household exactly when no
household was submitted that a direct entry already had. -/
theorem households_distinct_iff (blake2b : Blake2b) (sha256 : Sha256) (keys : Option Dict)
    (events : List FlowEvent) :
    (run (flowStep blake2b sha256) (initial keys) events).Distinct ↔
      Along (flowStep blake2b sha256) (HouseholdFree blake2b) (initial keys) events := by
  refine run_iff_along (fun _ event named => namedByHousehold_flowStep event named)
    (fun _ event distinct => distinct_of_flowStep event distinct)
    (fun _ event named distinct => distinct_flowStep_iff event named distinct) ?_ List.nodup_nil
  intro entry absent
  cases absent

/-! ### A household that is added twice -/

def gateDiscovered : ZeroconfInfo :=
  { properties := [("proto", some "1"), ("tls", some "1"), ("fp", some "AB")]
    ipAddresses := ["192.0.2.1"]
    host := none
    hostname := none
    port := some 443
    inProgress := false }

def homeSubmitted : HouseholdInput :=
  { householdId := "HOME001"
    name := none
    recoverySecret := none
    salt := none
    commandControl := none
    inProgress := false }

/-- A node of the household is added, and then the household. -/
def addedTwice : List FlowEvent :=
  [.zeroconf gateDiscovered, .direct 0 "admin" "secret" (sampleConnect "HOME001" "GATE-001"),
    .household homeSubmitted]

def gateWaiting : Discovery := ⟨uniqueIdOf "AB", "192.0.2.1", 443, "AB", "", "", "", ""⟩

theorem strip_homeSubmitted : strip homeSubmitted.householdId = "HOME001" := by decide +kernel

/-- The household has two entries. -/
theorem household_added_twice :
    ¬ (run (flowStep sampleBlake2b sampleSha256) (initial none) addedTwice).Distinct := by
  obtain ⟨probe, connected, -, home, -⟩ :=
    asyncConnectNode_sample "192.0.2.1" 443 (by decide : "HOME001" ≠ "") (by decide : "GATE-001" ≠ "")
  have discovered : flowStep sampleBlake2b sampleSha256 (initial none) (.zeroconf gateDiscovered) =
      ⟨[], [gateWaiting], none⟩ := by rfl
  have added : ∃ entry, entry.householdId = "HOME001" ∧ entry.uniqueId = uniqueIdOf "AB" ∧
      flowStep sampleBlake2b sampleSha256 ⟨[], [gateWaiting], none⟩
        (.direct 0 "admin" "secret" (sampleConnect "HOME001" "GATE-001")) =
          ⟨[entry], [], none⟩ := by
    refine ⟨directEntry gateWaiting probe "admin" "secret", home, rfl, ?_⟩
    rw [flowStep, asyncStepDirect]
    simp only [List.getElem?_cons_zero]
    rw [if_neg (by decide)]
    have reached : asyncConnectNode sampleSha256 gateWaiting.host gateWaiting.port
        gateWaiting.fingerprint (sampleConnect "HOME001" "GATE-001") = .ok probe := connected
    rw [reached]
    rfl
  obtain ⟨entry, home, unique, added⟩ := added
  have doubled : (flowStep sampleBlake2b sampleSha256 ⟨[entry], [], none⟩
      (.household homeSubmitted)).households = ["HOME001", "HOME001"] := by
    rcases asyncStepHousehold_entries sampleBlake2b ⟨[entry], [], none⟩ homeSubmitted with
      ⟨-, appended⟩ | ⟨refused, -⟩
    · have submitted : (householdEntry homeSubmitted).householdId = "HOME001" :=
        strip_homeSubmitted
      rw [households, flowStep, appended, List.map_append, List.map_singleton, List.map_singleton,
        home, submitted]
      rfl
    · refine absurd ⟨?_, rfl, ?_, none, rfl⟩ refused
      · rw [strip_homeSubmitted]
        rfl
      · rw [strip_homeSubmitted, configured, List.any_cons, unique]
        decide
  intro distinct
  rw [Distinct, addedTwice, run_cons, discovered, run_cons, added, run_cons, run_nil,
    doubled] at distinct
  exact absurd distinct (by decide)

end Installation

end HomeKeyHousehold
