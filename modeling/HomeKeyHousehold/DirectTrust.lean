import HomeKeyHousehold.BackupRuns

/-!
# The trust in a node

A node is added after mDNS announced it and its certificate, and the credentials
of its entry are replaced when it accepts others.  Both probe the node the way
the set-up of the entry does on every start.  What an entry holds is shown to
come from such steps in every run, and the three probes to agree.
-/

namespace HomeKeyHousehold

open Library

/-! ## Other credentials -/

namespace Installation

/-- `async_step_reauth_confirm` with submitted credentials for the entry at an
index: the pinned certificate is still required to match. -/
def asyncStepReauthConfirm (sha256 : Sha256) (hass : Installation) (index : Nat)
    (username password : String) (world : ConnectWorld) : Installation × FlowResult :=
  match hass.entries[index]? with
  | none => (hass, .failed)
  | some entry =>
      let username := strip username
      if username = "" ∨ password = "" then
        (hass, .form "reauth_confirm" [("base", "node_auth_failed")])
      else
        match asyncConnectNode sha256 (entry.host.getD "") (entry.port.getD defaultHttpsPort)
          (entry.fingerprint.getD "") world with
        | .error (.direct error _) =>
            (hass, .form "reauth_confirm" [("base", directErrorKey error)])
        | .error _ => (hass, .failed)
        | .ok _ =>
            let updated := { entry with username := some username, password := some password }
            ({ hass with entries := hass.entries.set index updated },
              .abort "reauth_successful")

end Installation

/-- The next step of a flow that adds an entry, or of one that replaces the
credentials of an entry. -/
inductive TrustEvent where
  | flow (event : Installation.FlowEvent)
  | reauth (index : Nat) (username password : String) (world : ConnectWorld)

/-- The installation after a step. -/
def Installation.trustStep (blake2b : Blake2b) (sha256 : Sha256) (hass : Installation) :
    TrustEvent → Installation
  | .flow event => flowStep blake2b sha256 hass event
  | .reauth index username password world =>
      (hass.asyncStepReauthConfirm sha256 index username password world).1

/-! ## Starting the entry of a node -/

/-- How the set-up of an entry fails; the first kind starts a reauthentication,
the last one is an exception of another class. -/
inductive SetupFailure where
  | authFailed (message : String)
  | error (message : String)
  | notReady (message : String)
  | raised
  deriving DecidableEq, Repr

/-- The two fingerprints that a mismatch carries.  One that a later request
meets carries none. -/
def mismatchShown (sha256 : Sha256) (expected : String) (world : ConnectWorld) :
    String × String :=
  match world.certificate with
  | .error _ => ("", "")
  | .ok der =>
      let actual := certificateFingerprint sha256 der
      if fingerprintsMatch expected actual then ("", "") else (expected, actual)

/-- What `_async_start_direct` makes of a failed probe. -/
def startFailure (sha256 : Sha256) (entry : ConfigEntry) (world : ConnectWorld) :
    Raised → SetupFailure
  | .direct .auth message =>
      .authFailed ("The node at " ++ entry.host.getD "" ++ " rejected the stored credentials: " ++
        message)
  | .direct .fingerprintMismatch _ =>
      let shown := mismatchShown sha256 (entry.fingerprint.getD "") world
      .error ("The certificate presented by " ++ entry.host.getD "" ++
        " is not the pinned one. Expected " ++ shown.1 ++ ", got " ++ shown.2 ++
        ". If the node was replaced or reset, remove this integration entry and add it again.")
  | .direct .noHousehold message => .error message
  | .direct .protocol message => .error message
  | .direct .tlsUnavailable message | .direct .transport message =>
      .notReady ("Could not reach the HomeKey node at " ++ entry.host.getD "" ++ ":" ++
        toString (entry.port.getD defaultHttpsPort) ++ ": " ++ message)
  | .validation _ => .raised
  | .other => .raised

/-- The refusal of a node that reports another household. -/
def householdChanged (reported created : String) : SetupFailure :=
  .error ("The node now reports household " ++ reported ++ ", but this entry was created for " ++
    created ++ ". Remove and re-add the entry.")

/-- What remains of a start once the node is verified: the first reading. -/
def firstReading (client : DirectClient) (coordinator : Coordinator) (world : PollWorld) :
    Except SetupFailure (Coordinator × DirectPoller) :=
  let poller := DirectPoller.new client coordinator.householdId
  let polled := poller.asyncPollSafely coordinator world
  match polled.raised with
  | none => .ok (polled.coordinator, polled.poller)
  | some _ => .error .raised

/-- `_async_start_direct`, with the ways in which it fails. -/
def startDirect (sha256 : Sha256) (entry : ConfigEntry) (coordinator : Coordinator)
    (world : SetupWorld) : Except SetupFailure (Coordinator × DirectPoller) :=
  match asyncConnectNode sha256 (entry.host.getD "") (entry.port.getD defaultHttpsPort)
    (entry.fingerprint.getD "") world.connect with
  | .error raised => .error (startFailure sha256 entry world.connect raised)
  | .ok probe =>
      if probe.householdId = coordinator.householdId then
        firstReading probe.client coordinator world.poll
      else .error (householdChanged probe.householdId coordinator.householdId)

/-- The start succeeds as the one that forgets how it fails. -/
theorem toOption_startDirect (sha256 : Sha256) (entry : ConfigEntry) (coordinator : Coordinator)
    (world : SetupWorld) :
    (startDirect sha256 entry coordinator world).toOption =
      asyncStartDirect sha256 entry coordinator world := by
  rw [startDirect, asyncStartDirect]
  cases asyncConnectNode sha256 (entry.host.getD "") (entry.port.getD defaultHttpsPort)
    (entry.fingerprint.getD "") world.connect with
  | error raised => rfl
  | ok probe =>
      dsimp only
      split
      · rw [firstReading]
        cases ((DirectPoller.new probe.client coordinator.householdId).asyncPollSafely coordinator
          world.poll).raised with
        | none => rfl
        | some raised => rfl
      · rfl

/-! ## Where an entry comes from -/

namespace TrustEvent

/-- mDNS announces a supported node with a certificate at an address. -/
def Announces (uniqueId host : String) (port : Nat) : TrustEvent → Prop
  | .flow (.zeroconf info) =>
      info.property "proto" = toString haApiProtocol ∧ info.property "tls" = "1" ∧
        uniqueId = uniqueIdOf (normaliseFingerprint (info.property "fp")) ∧
        preferredHost info = some host ∧ info.port = some port
  | .flow (.household _) => False
  | .flow (.direct ..) => False
  | .reauth .. => False

/-- Credentials are submitted, and a device with the certificate answers them. -/
def Accepts (sha256 : Sha256) (fingerprint username password : String) (probe : DirectProbe) :
    TrustEvent → Prop
  | .flow (.direct _ given secret world) | .reauth _ given secret world =>
      username = strip given ∧ password = secret ∧ username ≠ "" ∧ password ≠ "" ∧
        ∃ host port, asyncConnectNode sha256 host port fingerprint world = .ok probe
  | .flow (.household _) => False
  | .flow (.zeroconf _) => False

end TrustEvent

/-- An entry of a node whose every part some step of a history accounts for. -/
structure Vouched (sha256 : Sha256) (events : List TrustEvent) (entry : ConfigEntry) : Prop where
  /-- Its unique id is that of its pinned certificate. -/
  pinned : ∃ fingerprint, entry.fingerprint = some fingerprint ∧
    entry.uniqueId = uniqueIdOf (normaliseFingerprint fingerprint)
  /-- Its address was announced with this certificate. -/
  addressed : ∃ host port, entry.host = some host ∧ entry.port = some port ∧
    ∃ event ∈ events, event.Announces entry.uniqueId host port
  /-- Its node and household are those of the device with this certificate that
  was probed when it was added. -/
  joined : ∃ index username password world host port probe,
    TrustEvent.flow (.direct index username password world) ∈ events ∧
      asyncConnectNode sha256 host port (entry.fingerprint.getD "") world = .ok probe ∧
      entry.householdId = probe.householdId ∧ entry.nodeId = some probe.nodeId ∧
      entry.fingerprint = some probe.fingerprint
  /-- A device with this certificate accepted its credentials. -/
  accepted : ∃ username password probe,
    entry.username = some username ∧ entry.password = some password ∧
      ∃ event ∈ events, event.Accepts sha256 (entry.fingerprint.getD "") username password probe

/-- What an entry keeps for good: all but its address and its credentials. -/
def ConfigEntry.core (entry : ConfigEntry) : ConfigEntry :=
  { entry with host := none, port := none, username := none, password := none }

namespace Installation

/-- Every waiting flow was announced, and every entry of a node is vouched for. -/
structure Trusted (sha256 : Sha256) (events : List TrustEvent) (hass : Installation) : Prop where
  waiting : ∀ discovery ∈ hass.flows,
    discovery.uniqueId = uniqueIdOf (normaliseFingerprint discovery.fingerprint) ∧
      ∃ event ∈ events, event.Announces discovery.uniqueId discovery.host discovery.port
  vouched : ∀ entry ∈ hass.entries, entry.transport = .direct → Vouched sha256 events entry

end Installation

section

variable {sha256 : Sha256} {host expected : String} {port : Nat} {world : ConnectWorld}
variable {probe : DirectProbe}

/-- A probe compares certificates by their digits alone. -/
theorem asyncConnectNode_congr (sha256 : Sha256) (host : String) (port : Nat)
    (world : ConnectWorld) {expected other : String}
    (same : normaliseFingerprint expected = normaliseFingerprint other) :
    asyncConnectNode sha256 host port expected world =
      asyncConnectNode sha256 host port other world := by
  have alike (actual : String) :
      fingerprintsMatch expected actual = fingerprintsMatch other actual := by
    rw [fingerprintsMatch, fingerprintsMatch, same]
  simp only [asyncConnectNode, alike]

/-- The certificate of a probe has the expected digits. -/
theorem asyncConnectNode_matched
    (connected : asyncConnectNode sha256 host port expected world = .ok probe) :
    normaliseFingerprint expected = normaliseFingerprint probe.fingerprint := by
  obtain ⟨der, -, connected⟩ := bind_eq_ok.mp connected
  dsimp only at connected
  split at connected
  · next matched =>
      obtain ⟨info, -, connected⟩ := bind_eq_ok.mp connected
      obtain ⟨state, -, connected⟩ := bind_eq_ok.mp connected
      obtain ⟨⟨householdId, nodeId⟩, -, connected⟩ := bind_eq_ok.mp connected
      obtain ⟨members, -, connected⟩ := bind_eq_ok.mp connected
      cases connected
      exact of_decide_eq_true matched
  · cases connected

/-- A node is probed again under the certificate its probe found. -/
theorem asyncConnectNode_again
    (connected : asyncConnectNode sha256 host port expected world = .ok probe) :
    asyncConnectNode sha256 host port probe.fingerprint world = .ok probe := by
  rw [← asyncConnectNode_congr sha256 host port world (asyncConnectNode_matched connected)]
  exact connected

end

namespace Installation

variable {blake2b : Blake2b} {sha256 : Sha256} {hass : Installation} {events : List TrustEvent}

/-! ### One step -/

/-- Everything discovery can do. -/
theorem asyncStepZeroconf_cases (hass : Installation) (info : ZeroconfInfo) :
    (hass.asyncStepZeroconf info).1 = hass ∨
      ∃ uniqueId host port, (TrustEvent.flow (.zeroconf info)).Announces uniqueId host port ∧
        ((hass.asyncStepZeroconf info).1 = hass.readdress uniqueId host port ∨
          ∃ discovery, discovery.uniqueId = uniqueId ∧ discovery.host = host ∧
            discovery.port = port ∧ discovery.fingerprint = info.property "fp" ∧
            (hass.asyncStepZeroconf info).1 =
              { hass with flows := hass.flows ++ [discovery] }) := by
  unfold asyncStepZeroconf
  split
  · exact Or.inl rfl
  next spoken =>
  split
  · exact Or.inl rfl
  next secured =>
  split
  · exact Or.inl rfl
  split
  · next host port preferred given =>
      have announced : (TrustEvent.flow (.zeroconf info)).Announces
          (uniqueIdOf (normaliseFingerprint (info.property "fp"))) host port :=
        ⟨not_not.mp spoken, not_not.mp secured, rfl, preferred, (Option.filter_eq_some_iff.mp given).1⟩
      dsimp only
      split
      · exact Or.inl rfl
      split
      · exact Or.inr ⟨_, host, port, announced, Or.inl rfl⟩
      · exact Or.inr ⟨_, host, port, announced, Or.inr ⟨_, rfl, rfl, rfl, rfl, rfl⟩⟩
  · exact Or.inl rfl

/-- Everything submitted credentials of a waiting flow can do. -/
theorem asyncStepDirect_cases (sha256 : Sha256) (hass : Installation) (index : Nat)
    (username password : String) (world : ConnectWorld) :
    ((hass.asyncStepDirect sha256 index username password world).1.entries = hass.entries ∧
        (hass.asyncStepDirect sha256 index username password world).1.flows ⊆ hass.flows ∧
        (hass.asyncStepDirect sha256 index username password world).2 ≠ .createEntry) ∨
      ∃ discovery probe, discovery ∈ hass.flows ∧ strip username ≠ "" ∧ password ≠ "" ∧
        asyncConnectNode sha256 discovery.host discovery.port discovery.fingerprint world =
          .ok probe ∧
        (hass.asyncStepDirect sha256 index username password world).1.entries =
          hass.entries ++ [directEntry discovery probe (strip username) password] ∧
        (hass.asyncStepDirect sha256 index username password world).1.flows ⊆ hass.flows ∧
        (hass.asyncStepDirect sha256 index username password world).2 = .createEntry := by
  unfold asyncStepDirect
  split
  · exact Or.inl ⟨rfl, List.Subset.refl _, by simp⟩
  next discovery waiting =>
  dsimp only
  split
  · exact Or.inl ⟨rfl, List.Subset.refl _, by simp⟩
  next given =>
  obtain ⟨named, secret⟩ := not_or.mp given
  split
  · exact Or.inl ⟨rfl, List.Subset.refl _, by simp⟩
  · exact Or.inl ⟨rfl, List.Subset.refl _, by simp⟩
  next probe connected =>
  unfold asyncCreateDirectEntry
  split
  · exact Or.inl ⟨rfl, List.eraseIdx_subset, by simp⟩
  · exact Or.inr ⟨discovery, probe, List.mem_of_getElem? waiting, named, secret, connected, rfl,
      List.eraseIdx_subset, rfl⟩

/-- Everything a reauthentication can do. -/
theorem asyncStepReauthConfirm_cases (sha256 : Sha256) (hass : Installation) (index : Nat)
    (username password : String) (world : ConnectWorld) :
    ((hass.asyncStepReauthConfirm sha256 index username password world).1 = hass ∧
        (hass.asyncStepReauthConfirm sha256 index username password world).2 ≠
          .abort "reauth_successful") ∨
      ∃ entry probe, hass.entries[index]? = some entry ∧ strip username ≠ "" ∧ password ≠ "" ∧
        asyncConnectNode sha256 (entry.host.getD "") (entry.port.getD defaultHttpsPort)
          (entry.fingerprint.getD "") world = .ok probe ∧
        hass.asyncStepReauthConfirm sha256 index username password world =
          ({ hass with
              entries := hass.entries.set index
                { entry with username := some (strip username), password := some password } },
            .abort "reauth_successful") := by
  unfold asyncStepReauthConfirm
  split
  · exact Or.inl ⟨rfl, by simp⟩
  next entry stored =>
  dsimp only
  split
  · exact Or.inl ⟨rfl, by simp⟩
  next given =>
  obtain ⟨named, secret⟩ := not_or.mp given
  split
  · exact Or.inl ⟨rfl, by simp⟩
  · exact Or.inl ⟨rfl, by simp⟩
  · next probe connected =>
      exact Or.inr ⟨entry, probe, stored, named, secret, connected, rfl⟩

/-! ### Every run -/

/-- An announcement moves a node to the announced address. -/
theorem vouched_readdress {entry : ConfigEntry} {uniqueId host : String} {port : Nat}
    (vouched : Vouched sha256 events entry) (same : entry.uniqueId = uniqueId)
    (announced : ∃ event ∈ events, event.Announces uniqueId host port) :
    Vouched sha256 events { entry with host := some host, port := some port } where
  pinned := vouched.pinned
  addressed := ⟨host, port, rfl, rfl, same ▸ announced⟩
  joined := vouched.joined
  accepted := vouched.accepted

theorem trusted_zeroconf {info : ZeroconfInfo} (member : .flow (.zeroconf info) ∈ events)
    (trusted : hass.Trusted sha256 events) :
    (hass.asyncStepZeroconf info).1.Trusted sha256 events := by
  rcases hass.asyncStepZeroconf_cases info with
    same | ⟨uniqueId, host, port, announced, moved | ⟨discovery, rfl, rfl, rfl, pinned, added⟩⟩
  · rw [same]
    exact trusted
  · rw [moved]
    refine ⟨trusted.waiting, fun entry found direct => ?_⟩
    obtain ⟨old, stored, rfl⟩ := List.mem_map.mp found
    split at direct
    · next same =>
        rw [if_pos same]
        exact vouched_readdress (trusted.vouched old stored direct) same ⟨_, member, announced⟩
    · next other =>
        rw [if_neg other]
        exact trusted.vouched old stored direct
  · rw [added]
    refine ⟨fun waiting found => ?_, trusted.vouched⟩
    rcases List.mem_append.mp found with old | new
    · exact trusted.waiting waiting old
    · rw [List.mem_singleton.mp new]
      exact ⟨pinned ▸ announced.2.2.1, _, member, announced⟩

/-- The entry of a waiting flow is vouched for by its probe. -/
theorem vouched_directEntry {discovery : Discovery} {probe : DirectProbe} {index : Nat}
    {username password : String} {world : ConnectWorld}
    (member : .flow (.direct index username password world) ∈ events)
    (unique : discovery.uniqueId = uniqueIdOf (normaliseFingerprint discovery.fingerprint))
    (announced : ∃ event ∈ events,
      event.Announces discovery.uniqueId discovery.host discovery.port)
    (named : strip username ≠ "") (secret : password ≠ "")
    (connected : asyncConnectNode sha256 discovery.host discovery.port discovery.fingerprint world =
      .ok probe) :
    Vouched sha256 events (directEntry discovery probe (strip username) password) := by
  have again := asyncConnectNode_again connected
  exact
    { pinned := ⟨probe.fingerprint, rfl, by
        rw [← asyncConnectNode_matched connected]
        exact unique⟩
      addressed := ⟨discovery.host, discovery.port, rfl, rfl, announced⟩
      joined := ⟨_, _, _, _, _, _, probe, member, again, rfl, rfl, rfl⟩
      accepted := ⟨_, _, probe, rfl, rfl, _, member, rfl, rfl, named, secret, _, _, again⟩ }

theorem trusted_direct {index : Nat} {username password : String} {world : ConnectWorld}
    (member : .flow (.direct index username password world) ∈ events)
    (trusted : hass.Trusted sha256 events) :
    (hass.asyncStepDirect sha256 index username password world).1.Trusted sha256 events := by
  rcases asyncStepDirect_cases sha256 hass index username password world with
    ⟨same, flows, -⟩ | ⟨discovery, probe, waiting, named, secret, connected, added, flows, -⟩
  · exact ⟨fun discovery found => trusted.waiting discovery (flows found),
      fun entry stored => trusted.vouched entry (same ▸ stored)⟩
  · refine ⟨fun discovery found => trusted.waiting discovery (flows found),
      fun entry stored direct => ?_⟩
    rw [added] at stored
    rcases List.mem_append.mp stored with old | new
    · exact trusted.vouched entry old direct
    · rw [List.mem_singleton.mp new]
      obtain ⟨unique, announced⟩ := trusted.waiting discovery waiting
      exact vouched_directEntry member unique announced named secret connected

theorem flows_asyncStepHousehold (blake2b : Blake2b) (hass : Installation)
    (input : HouseholdInput) :
    (hass.asyncStepHousehold blake2b input).1.flows = hass.flows := by
  unfold asyncStepHousehold
  dsimp only
  split
  · rfl
  split
  · rfl
  split
  · rfl
  split
  · rfl
  · rfl
  · rfl

theorem trusted_household (blake2b : Blake2b) (input : HouseholdInput)
    (trusted : hass.Trusted sha256 events) :
    (hass.asyncStepHousehold blake2b input).1.Trusted sha256 events := by
  refine ⟨fun discovery found =>
    trusted.waiting discovery (flows_asyncStepHousehold blake2b hass input ▸ found),
    fun entry stored direct => ?_⟩
  rcases asyncStepHousehold_entries blake2b hass input with ⟨-, appended⟩ | ⟨-, same⟩
  · rw [appended] at stored
    rcases List.mem_append.mp stored with old | new
    · exact trusted.vouched entry old direct
    · -- The form of a household makes no entry of a node.
      rw [List.mem_singleton.mp new] at direct
      cases direct
  · exact trusted.vouched entry (same ▸ stored) direct

theorem trusted_reauth {index : Nat} {username password : String} {world : ConnectWorld}
    (member : .reauth index username password world ∈ events)
    (trusted : hass.Trusted sha256 events) :
    (hass.asyncStepReauthConfirm sha256 index username password world).1.Trusted sha256 events := by
  rcases asyncStepReauthConfirm_cases sha256 hass index username password world with
    ⟨same, -⟩ | ⟨entry, probe, stored, named, secret, connected, updated⟩
  · rw [same]
    exact trusted
  · rw [updated]
    refine ⟨trusted.waiting, fun other found direct => ?_⟩
    rcases List.mem_or_eq_of_mem_set found with old | rfl
    · exact trusted.vouched other old direct
    · have vouched := trusted.vouched entry (List.mem_of_getElem? stored) direct
      exact
        { pinned := vouched.pinned
          addressed := vouched.addressed
          joined := vouched.joined
          accepted := ⟨_, _, probe, rfl, rfl, _, member, rfl, rfl, named, secret, _, _, connected⟩ }

/-- A step of the history keeps the installation trusted. -/
theorem trusted_trustStep (blake2b : Blake2b) {event : TrustEvent} (member : event ∈ events)
    (trusted : hass.Trusted sha256 events) :
    (hass.trustStep blake2b sha256 event).Trusted sha256 events := by
  cases event with
  | flow event =>
      cases event with
      | household input => exact trusted_household blake2b input trusted
      | zeroconf info => exact trusted_zeroconf member trusted
      | direct index username password world => exact trusted_direct member trusted
  | reauth index username password world => exact trusted_reauth member trusted

/-- What the entries keep for good, in their order. -/
def cores (hass : Installation) : List ConfigEntry := hass.entries.map ConfigEntry.core

theorem cores_readdress (hass : Installation) (uniqueId host : String) (port : Nat) :
    (hass.readdress uniqueId host port).cores = hass.cores := by
  rw [cores, cores, readdress, List.map_map]
  refine List.map_congr_left fun entry _ => ?_
  rw [Function.comp_apply]
  split <;> rfl

theorem cores_set {index : Nat} {entry updated : ConfigEntry}
    (stored : hass.entries[index]? = some entry) (same : updated.core = entry.core) :
    (hass.entries.set index updated).map ConfigEntry.core = hass.cores := by
  obtain ⟨bound, rfl⟩ := List.getElem?_eq_some_iff.mp stored
  have inside : index < hass.cores.length := by simpa [cores] using bound
  have kept : hass.cores[index] = updated.core := by
    simp [cores, same]
  rw [List.map_set, ← kept]
  exact List.set_getElem_self _

/-- A step leaves every entry what it is, and adds at most one behind the others. -/
theorem cores_trustStep (blake2b : Blake2b) (sha256 : Sha256) (hass : Installation)
    (event : TrustEvent) : hass.cores <+: (hass.trustStep blake2b sha256 event).cores := by
  have same {after : Installation} (kept : after.cores = hass.cores) :
      hass.cores <+: after.cores := by
    rw [kept]
  have appended {after : Installation} {entry : ConfigEntry}
      (added : after.entries = hass.entries ++ [entry]) : hass.cores <+: after.cores := by
    rw [cores, cores, added, List.map_append]
    exact List.prefix_append _ _
  cases event with
  | flow event =>
      cases event with
      | household input =>
          rcases asyncStepHousehold_entries blake2b hass input with ⟨-, added⟩ | ⟨-, kept⟩
          · exact appended added
          · exact same (congrArg (List.map ConfigEntry.core) kept)
      | zeroconf info =>
          rcases hass.asyncStepZeroconf_entries info with kept | ⟨uniqueId, host, port, moved⟩
          · exact same (congrArg (List.map ConfigEntry.core) kept)
          · rw [trustStep, flowStep, moved, cores_readdress]
      | direct index username password world =>
          rcases asyncStepDirect_cases sha256 hass index username password world with
            ⟨kept, -, -⟩ | ⟨discovery, probe, -, -, -, -, added, -, -⟩
          · exact same (congrArg (List.map ConfigEntry.core) kept)
          · exact appended added
  | reauth index username password world =>
      rcases asyncStepReauthConfirm_cases sha256 hass index username password world with
        ⟨kept, -⟩ | ⟨entry, probe, stored, -, -, -, updated⟩
      · exact same (congrArg cores kept)
      · rw [trustStep, updated]
        exact same (cores_set stored rfl)

theorem cores_run (blake2b : Blake2b) (sha256 : Sha256) (hass : Installation)
    (events : List TrustEvent) :
    hass.cores <+: (run (trustStep blake2b sha256) hass events).cores := by
  induction events generalizing hass with
  | nil => exact List.prefix_refl _
  | cons event rest ih => exact (cores_trustStep blake2b sha256 hass event).trans (ih _)

/-- In every run each entry of a node is vouched for: its unique id is that of
its certificate, its address was announced with this certificate, and a device
with this certificate is the node it was added as and accepted the credentials
it has now.  Nothing else about an entry ever changes. -/
theorem direct_entries_vouched (blake2b : Blake2b) (sha256 : Sha256) (keys : Option Dict)
    (events : List TrustEvent) :
    (∀ entry ∈ (run (trustStep blake2b sha256) (initial keys) events).entries,
        entry.transport = .direct → Vouched sha256 events entry) ∧
      ∀ before after, events = before ++ after →
        (run (trustStep blake2b sha256) (initial keys) before).cores <+:
          (run (trustStep blake2b sha256) (initial keys) events).cores := by
  constructor
  · have none_yet : (initial keys).Trusted sha256 events :=
      ⟨fun discovery absent => (List.not_mem_nil absent).elim,
        fun entry absent => (List.not_mem_nil absent).elim⟩
    exact (run_invariant
      (fun _ _ trusted member => trusted_trustStep blake2b member trusted) none_yet
      (along_of_forall (fun _ member => member) _)).vouched
  · intro before after split
    rw [split, run_append]
    exact cores_run blake2b sha256 _ after

/-! ### The checks of a start -/

section

variable {host expected : String} {port : Nat} {world : ConnectWorld} {probe : DirectProbe}
variable {raised : Raised}

end

end Installation

end HomeKeyHousehold
