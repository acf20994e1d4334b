import HomeKeyHousehold.Direct

/-!
# Connecting to a node

One routine pins the certificate of a node, authenticates and reads who the node
is.  Adding a node, setting up its entry, backing it up and restoring it without
a running client all go through it.  SHA-256 is an input, and so is what the
device at the address answers.
-/

namespace HomeKeyHousehold

open Library

/-! ## Fingerprints -/

/-- `hashlib.sha256(data).digest()`. -/
abbrev Sha256 : Type := Bytes → Bytes

/-- The letters outside ASCII that have an ASCII letter in their uppercase. -/
def mixedUpper : List (Char × List Char) :=
  [('\u00df', ['S', 'S']), ('\u0131', ['I']), ('\u0149', ['\u02bc', 'N']), ('\u017f', ['S']),
    ('\u01f0', ['J', '\u030c']), ('\u1e96', ['H', '\u0331']), ('\u1e97', ['T', '\u0308']),
    ('\u1e98', ['W', '\u030a']), ('\u1e99', ['Y', '\u030a']), ('\u1e9a', ['A', '\u02be']),
    ('\ufb00', ['F', 'F']), ('\ufb01', ['F', 'I']), ('\ufb02', ['F', 'L']),
    ('\ufb03', ['F', 'F', 'I']), ('\ufb04', ['F', 'F', 'L']), ('\ufb05', ['S', 'T']),
    ('\ufb06', ['S', 'T'])]

/-- The uppercase of a character, as far as it has ASCII letters in it. -/
def upperChar (ch : Char) : List Char := (mixedUpper.lookup ch).getD [ch.toUpper]

/-- `text.upper()`. -/
def upper (text : String) : String := String.ofList (text.toList.flatMap upperChar)

/-- `normalise_fingerprint`: bare uppercase hex. -/
def normaliseFingerprint (value : String) : String :=
  upper (String.ofList (value.toList.filter fun ch => ch ≠ ':' && ch ≠ ' ' && ch ≠ '-'))

/-- `format_fingerprint`: uppercase hex with colons. -/
def formatFingerprint (digest : Bytes) : String :=
  ":".intercalate (digest.map fun byte => upper (String.ofList (hexByte byte)))

def fingerprintsMatch (expected actual : String) : Bool :=
  normaliseFingerprint expected = normaliseFingerprint actual

def certificateFingerprint (sha256 : Sha256) (der : Bytes) : String :=
  formatFingerprint (sha256 der)

/-! ## The routine -/

/-- What the device at an address contributes to a connection: the certificate
it presents, or the error of the socket, and its answers. -/
structure ConnectWorld where
  certificate : Except String Bytes
  info : Reply
  state : Reply

/-- `DirectProbe`: everything a connection established. -/
structure DirectProbe where
  client : DirectClient
  fingerprint : String
  householdId : String
  householdName : String
  nodeId : String
  nodeName : String
  model : String
  firmware : String
  info : Dict
  state : Dict

/-- `fetch_peer_certificate`, as its caller reports its failures. -/
def fetchPeerCertificate (host : String) (port : Nat) (certificate : Except String Bytes) :
    Except Raised Bytes :=
  match certificate with
  | .error reason =>
      .error (.direct .transport ("Could not reach " ++ host ++ ":" ++ toString port ++ ": " ++
        reason))
  | .ok [] => .error (.direct .transport "The node did not present a certificate")
  | .ok der => .ok der

/-- `async_check_protocol`. -/
def DirectClient.asyncCheckProtocol (client : DirectClient) (reply : Reply) :
    Except Raised Dict := do
  let info ← membersOf (← client.request "/api/ha/info" reply)
  let reported := Json.get info "protocol"
  if reported.equalsInt haApiProtocol then pure info
  else
    .error (.direct .protocol ("The node speaks API protocol " ++ reported.text ++
      ", this integration understands " ++ toString haApiProtocol))

/-- The probe of an identified node. -/
def probeOf (client : DirectClient) (fingerprint householdId nodeId : String) (info state : Dict) :
    DirectProbe :=
  let device := deviceOf info
  { client
    fingerprint
    householdId
    householdName := ((Json.get state "household_name").orElse (.str householdId)).text
    nodeId
    nodeName :=
      (((Json.get state "node_name").orElse (Json.get device "node_name")).orElse
        (.str nodeId)).text
    model := ((Json.get device "model").orElse (.str "")).text
    firmware :=
      (((Json.get state "firmware").orElse (Json.get device "firmware")).orElse (.str "")).text
    info
    state }

/-- `async_connect_node`: nothing is sent to a device with another certificate. -/
def asyncConnectNode (sha256 : Sha256) (host : String) (port : Nat) (expected : String)
    (world : ConnectWorld) : Except Raised DirectProbe := do
  let der ← fetchPeerCertificate host port world.certificate
  let actual := certificateFingerprint sha256 der
  if fingerprintsMatch expected actual then
    let client : DirectClient := { host, port }
    let info ← client.asyncCheckProtocol world.info
    let state ← client.request "/api/ha/state" world.state
    let (householdId, nodeId) ← resolveIdentity state (.obj info)
    pure (probeOf client actual householdId nodeId info (← membersOf state))
  else .error (.direct .fingerprintMismatch fingerprintMismatchMessage)

/-! ## What a probe says -/

variable {sha256 : Sha256} {host expected : String} {port : Nat} {world : ConnectWorld}
variable {probe : DirectProbe}

/-- A probe is what the node reported about itself over this connection. -/
theorem asyncConnectNode_ok
    (connected : asyncConnectNode sha256 host port expected world = .ok probe) :
    probe.client = { host, port } ∧
      resolveIdentity (.obj probe.state) (.obj probe.info) = .ok (probe.householdId, probe.nodeId) ∧
      probe.client.request "/api/ha/state" world.state = .ok (.obj probe.state) := by
  obtain ⟨der, -, connected⟩ := bind_eq_ok.mp connected
  dsimp only at connected
  split at connected
  · obtain ⟨info, -, connected⟩ := bind_eq_ok.mp connected
    obtain ⟨state, answered, connected⟩ := bind_eq_ok.mp connected
    obtain ⟨⟨householdId, nodeId⟩, resolved, connected⟩ := bind_eq_ok.mp connected
    obtain ⟨members, object, connected⟩ := bind_eq_ok.mp connected
    cases state with
    | obj state =>
        cases object
        cases connected
        exact ⟨rfl, resolved, answered⟩
    | null | bool _ | int _ | float _ | str _ | arr _ => cases object
  · cases connected

/-- A node that was reached has a node id. -/
theorem asyncConnectNode_named
    (connected : asyncConnectNode sha256 host port expected world = .ok probe) :
    probe.nodeId ≠ "" :=
  resolveIdentity_named (asyncConnectNode_ok connected).2.1

/-! ## Nodes that answer -/

/-- The device at an address presents the pinned certificate, speaks the
supported protocol and accepts the credentials. -/
structure ConnectWorld.Serves (world : ConnectWorld) (sha256 : Sha256) (host : String)
    (port : Nat) (expected : String) (info state : Dict) : Prop where
  pinned : ∃ der, world.certificate = .ok der ∧ der ≠ [] ∧
    fingerprintsMatch expected (certificateFingerprint sha256 der) = true
  told : DirectClient.request { host, port } "/api/ha/info" world.info = .ok (.obj info)
  supported : (Json.get info "protocol").equalsInt haApiProtocol = true
  shown : DirectClient.request { host, port } "/api/ha/state" world.state = .ok (.obj state)

variable {info state : Dict} {householdId nodeId : String}

/-- A node that serves is only refused for the identity it reports. -/
theorem asyncConnectNode_of_serves (serves : world.Serves sha256 host port expected info state) :
    ∃ fingerprint, asyncConnectNode sha256 host port expected world =
      (resolveIdentity (.obj state) (.obj info)).map fun identity =>
        probeOf { host, port } fingerprint identity.1 identity.2 info state := by
  obtain ⟨der, presented, offered, pinned⟩ := serves.pinned
  refine ⟨certificateFingerprint sha256 der, ?_⟩
  have fetched : fetchPeerCertificate host port world.certificate = .ok der := by
    rw [presented]
    cases der with
    | nil => exact absurd rfl offered
    | cons byte rest => rfl
  have spoken : DirectClient.asyncCheckProtocol { host, port } world.info = .ok info := by
    rw [DirectClient.asyncCheckProtocol, serves.told]
    simp only [bind, Except.bind, membersOf]
    rw [if_pos serves.supported]
    rfl
  rw [asyncConnectNode, fetched]
  simp only [bind, Except.bind, pinned, if_true, spoken, serves.shown, membersOf]
  cases resolveIdentity (.obj state) (.obj info) with
  | error raised => rfl
  | ok identity => rfl

/-! ### A sample device -/

/-- A digest of one byte. -/
def sampleSha256 : Sha256 := fun _ => [0xab]

def sampleInfo : Dict := [("protocol", .int 1)]

def sampleState (householdId nodeId : String) : Dict :=
  [("household_id", .str householdId), ("node_id", .str nodeId)]

/-- A device that presents the sample certificate and reports an identity. -/
def sampleConnect (householdId nodeId : String) : ConnectWorld :=
  { certificate := .ok [1]
    info := .answer (.obj sampleInfo)
    state := .answer (.obj (sampleState householdId nodeId)) }

theorem sampleConnect_serves (host : String) (port : Nat) (householdId nodeId : String) :
    (sampleConnect householdId nodeId).Serves sampleSha256 host port "AB" sampleInfo
      (sampleState householdId nodeId) where
  pinned := ⟨[1], rfl, by decide, by decide⟩
  told := request_answer _ _ _
  supported := rfl
  shown := request_answer _ _ _

theorem resolveIdentity_sample (joined : householdId ≠ "")
    (named : nodeId ≠ "") :
    resolveIdentity (.obj (sampleState householdId nodeId)) (.obj sampleInfo) =
      .ok (householdId, nodeId) := by
  have household : (Json.str householdId).truthy = true := by simp [Json.truthy, joined]
  have node : (Json.str nodeId).truthy = true := by simp [Json.truthy, named]
  have reported : Json.get (sampleState householdId nodeId) "household_id" = .str householdId := rfl
  have told : Json.get (sampleState householdId nodeId) "node_id" = .str nodeId := rfl
  rw [resolveIdentity]
  simp only [membersOf, bind, Except.bind, reported, told, Json.orElse, household, node, if_true]
  rfl

/-- A sample device that has joined a household is connected to. -/
theorem asyncConnectNode_sample (host : String) (port : Nat) (joined : householdId ≠ "")
    (named : nodeId ≠ "") :
    ∃ probe, asyncConnectNode sampleSha256 host port "AB" (sampleConnect householdId nodeId) =
        .ok probe ∧
      probe.client = ⟨host, port⟩ ∧ probe.householdId = householdId ∧ probe.nodeId = nodeId := by
  obtain ⟨fingerprint, connected⟩ :=
    asyncConnectNode_of_serves (sampleConnect_serves host port householdId nodeId)
  rw [resolveIdentity_sample joined named] at connected
  exact ⟨_, connected, rfl, rfl, rfl⟩

end HomeKeyHousehold
