import HomeKeyHousehold.Library.Logged
import HomeKeyHousehold.Replies

/-!
# Requests and the pinned certificate

Connecting to a node, with every request it sends and the TLS context each goes
over.  Whether the TLS library loads a certificate is an input.  A fingerprint is
compared as the user spells it, in either case and with separators anywhere.
-/

namespace HomeKeyHousehold

open Library

/-! ## Requests over a context -/

/-- What of an SSL context decides who may answer. -/
structure SslContext where
  trusted : Bytes
  certRequired : Bool
  checkHostname : Bool
  deriving DecidableEq

/-- `pinned_ssl_context`, which raises for a certificate that cannot be loaded. -/
def pinnedSslContext (loads : Bytes → Bool) (der : Bytes) : Except Raised SslContext :=
  if loads der then .ok { trusted := der, certRequired := true, checkHostname := false }
  else .error .other

/-- `aiohttp.BasicAuth`: the Web UI credential. -/
structure BasicAuth where
  username : String
  password : String
  deriving DecidableEq

/-- One call of `session.request`. -/
structure HttpRequest where
  method : String
  url : String
  context : SslContext
  auth : BasicAuth
  deriving DecidableEq

/-- A computation that sends requests. -/
abbrev Sending (α : Type) : Type := Logged Raised HttpRequest α

/-- `DirectClient` with what its requests carry. -/
structure PinnedClient where
  client : DirectClient
  context : SslContext
  auth : BasicAuth

namespace PinnedClient

def baseUrl (client : PinnedClient) : String :=
  "https://" ++ client.client.host ++ ":" ++ toString client.client.port

/-- `_request`. -/
def request (client : PinnedClient) (method path : String) (reply : Reply) : Sending Json :=
  .emit
    { method
      url := client.baseUrl ++ path
      context := client.context
      auth := client.auth }
    (client.client.request path reply)

/-- `async_check_protocol`. -/
def asyncCheckProtocol (client : PinnedClient) (reply : Reply) : Sending Dict := do
  let answer ← client.request "GET" "/api/ha/info" reply
  let info ← .lift (membersOf answer)
  let reported := Json.get info "protocol"
  if reported.equalsInt haApiProtocol then pure info
  else
    .lift (.error (.direct .protocol ("The node speaks API protocol " ++ reported.text ++
      ", this integration understands " ++ toString haApiProtocol)))

/-- `async_connect_node`, with the requests it sends. -/
def asyncConnectNode (sha256 : Sha256) (loads : Bytes → Bool) (host : String) (port : Nat)
    (expected : String) (auth : BasicAuth) (world : ConnectWorld) : Sending DirectProbe := do
  let der ← .lift (fetchPeerCertificate host port world.certificate)
  let actual := certificateFingerprint sha256 der
  if fingerprintsMatch expected actual then
    let context ← .lift (pinnedSslContext loads der)
    let client : PinnedClient := { client := { host, port }, context, auth }
    let info ← client.asyncCheckProtocol world.info
    let state ← client.request "GET" "/api/ha/state" world.state
    let identity ← .lift (resolveIdentity state (.obj info))
    let members ← .lift (membersOf state)
    pure (probeOf client.client actual identity.1 identity.2 info members)
  else .lift (.error (.direct .fingerprintMismatch fingerprintMismatchMessage))

/-- Only what follows a success is compared. -/
theorem bind_congr_of_ok {ε α β : Type} {first : Except ε α} {next other : α → Except ε β}
    (same : ∀ value, first = .ok value → next value = other value) :
    (first >>= next) = (first >>= other) := by
  cases first with
  | error reason => rfl
  | ok value => exact same value rfl

/-- The protocol check returns what it returns without its request. -/
theorem outcome_asyncCheckProtocol (client : PinnedClient) (reply : Reply) :
    (client.asyncCheckProtocol reply).outcome = client.client.asyncCheckProtocol reply := by
  rw [asyncCheckProtocol, DirectClient.asyncCheckProtocol]
  simp only [Logged.outcome_bind, request, Logged.outcome_emit, Logged.outcome_lift]
  congr 1
  funext answer
  congr 1
  funext info
  split
  · rfl
  · rfl

/-- When the certificate loads, sending requests returns what connecting does. -/
theorem outcome_asyncConnectNode {sha256 : Sha256} {loads : Bytes → Bool} {host : String}
    {port : Nat} {expected : String} {auth : BasicAuth} {world : ConnectWorld}
    (loaded : ∀ der, world.certificate = .ok der → loads der = true) :
    (asyncConnectNode sha256 loads host port expected auth world).outcome =
      HomeKeyHousehold.asyncConnectNode sha256 host port expected world := by
  rw [asyncConnectNode, HomeKeyHousehold.asyncConnectNode, Logged.outcome_bind,
    Logged.outcome_lift]
  refine bind_congr_of_ok fun der fetched => ?_
  dsimp only
  split
  · have context : pinnedSslContext loads der = .ok ⟨der, true, false⟩ :=
      if_pos (loaded der (fetchPeerCertificate_eq_ok_iff.mp fetched).1)
    rw [context]
    simp only [Logged.outcome_bind, Logged.outcome_lift, Logged.outcome_pure,
      outcome_asyncCheckProtocol, request, Logged.outcome_emit]
    rfl
  · rfl

end PinnedClient

/-! ## Spellings of a digest -/

/-- A separator people write into a fingerprint. -/
def isSeparator (ch : Char) : Bool := ch = ':' || ch = ' ' || ch = '-'

/-- A text that spells hexadecimal digits, each in either case, with separators
anywhere. -/
inductive Spells : List Char → List Char → Prop where
  | done : Spells [] []
  | separator {ch : Char} {text digits : List Char} (separates : isSeparator ch = true)
      (rest : Spells text digits) : Spells (ch :: text) digits
  | digit {ch digit : Char} {text digits : List Char} (same : ch = digit ∨ ch = digit.toUpper)
      (rest : Spells text digits) : Spells (ch :: text) (digit :: digits)

/-- A text that renders a digest. -/
def Renders (text : String) (digest : Bytes) : Prop := Spells text.toList (digest.flatMap hexByte)

/-- The digits of a digest in uppercase. -/
def upperHex (digest : Bytes) : String :=
  String.ofList ((digest.flatMap hexByte).map Char.toUpper)

/-- What uppercase does to a hexadecimal digit. -/
structure PlainDigit (ch : Char) : Prop where
  lower : upperChar ch = [ch.toUpper]
  upper : upperChar ch.toUpper = [ch.toUpper]
  notSeparator : isSeparator ch = false ∧ isSeparator ch.toUpper = false
  back : ch.toUpper.toLower = ch

theorem plainDigit_hexDigit {value : Nat} (small : value < 16) :
    PlainDigit (Json.hexDigit value) := by
  have all : ∀ value : Fin 16, upperChar (Json.hexDigit value) = [(Json.hexDigit value).toUpper] ∧
      upperChar (Json.hexDigit value).toUpper = [(Json.hexDigit value).toUpper] ∧
      (isSeparator (Json.hexDigit value) = false ∧
        isSeparator (Json.hexDigit value).toUpper = false) ∧
      (Json.hexDigit value).toUpper.toLower = Json.hexDigit value := by decide
  obtain ⟨lower, upper, notSeparator, back⟩ := all ⟨value, small⟩
  exact ⟨lower, upper, notSeparator, back⟩

theorem plainDigit_of_mem {digest : Bytes} {ch : Char} (digit : ch ∈ digest.flatMap hexByte) :
    PlainDigit ch := by
  obtain ⟨byte, -, either⟩ := List.mem_flatMap.mp digit
  have bound := byte.toNat_lt
  rcases List.mem_pair.mp either with rfl | rfl
  · exact plainDigit_hexDigit (by omega)
  · exact plainDigit_hexDigit (by omega)

theorem upperHex_injective : Function.Injective upperHex := by
  intro first second same
  have digits := congrArg (List.map Char.toLower) (String.ofList_injective same)
  have back (digest : Bytes) :
      ((digest.flatMap hexByte).map Char.toUpper).map Char.toLower = digest.flatMap hexByte := by
    rw [List.map_map]
    exact (List.map_congr_left fun ch digit => (plainDigit_of_mem digit).back).trans (List.map_id _)
  rw [back, back] at digits
  exact hexText_injective (congrArg String.ofList digits)

/-- Normalising a spelling leaves the digits in uppercase. -/
theorem normalise_of_spells {text digits : List Char} (spells : Spells text digits)
    (plain : ∀ digit ∈ digits, PlainDigit digit) :
    (text.filter fun ch => ch ≠ ':' && ch ≠ ' ' && ch ≠ '-').flatMap upperChar =
      digits.map Char.toUpper := by
  have kept (ch : Char) : (ch ≠ ':' && ch ≠ ' ' && ch ≠ '-') = !isSeparator ch := by
    simp [isSeparator, Bool.and_assoc]
  simp only [kept]
  induction spells with
  | done => rfl
  | separator separates rest ih =>
      rw [List.filter_cons_of_neg (by rw [separates]; decide)]
      exact ih plain
  | @digit ch digit text digits same rest ih =>
      obtain ⟨first, later⟩ := List.forall_mem_cons.mp plain
      have stays : isSeparator ch = false ∧ upperChar ch = [digit.toUpper] := by
        rcases same with rfl | rfl
        · exact ⟨first.notSeparator.1, first.lower⟩
        · exact ⟨first.notSeparator.2, first.upper⟩
      rw [List.filter_cons_of_pos (by rw [stays.1]; decide), List.flatMap_cons, stays.2, ih later,
        List.map_cons, List.singleton_append]

theorem normaliseFingerprint_of_renders {text : String} {digest : Bytes}
    (renders : Renders text digest) : normaliseFingerprint text = upperHex digest := by
  rw [normaliseFingerprint, upper, String.toList_ofList, upperHex,
    normalise_of_spells renders fun _ digit => plainDigit_of_mem digit]

theorem spells_hexByte (byte : UInt8) {text digits : List Char} (rest : Spells text digits) :
    Spells ((upper (String.ofList (hexByte byte))).toList ++ text) (hexByte byte ++ digits) := by
  have bound := byte.toNat_lt
  have high := plainDigit_hexDigit (show byte.toNat / 16 < 16 by omega)
  have low := plainDigit_hexDigit (Nat.mod_lt byte.toNat (by decide : 0 < 16))
  rw [upper, String.toList_ofList, String.toList_ofList, hexByte, List.flatMap_cons,
    List.flatMap_singleton, high.lower, low.lower]
  exact .digit (.inr rfl) (.digit (.inr rfl) rest)

/-- The node's own format is a rendering of a digest. -/
theorem renders_formatFingerprint (digest : Bytes) :
    Renders (formatFingerprint digest) digest := by
  rw [Renders, formatFingerprint]
  induction digest with
  | nil => exact .done
  | cons byte rest ih =>
      rw [List.map_cons, List.flatMap_cons]
      cases rest with
      | nil =>
          have last := spells_hexByte byte .done
          rwa [List.append_nil] at last
      | cons other others =>
          rw [List.map_cons] at ih ⊢
          rw [String.intercalate_cons_cons, String.toList_append, String.toList_append,
            List.append_assoc]
          exact spells_hexByte byte (.separator rfl ih)

/-- Renderings match exactly when they are of one digest. -/
theorem fingerprintsMatch_iff_of_renders {first second : String} {digest other : Bytes}
    (renders : Renders first digest) (otherRenders : Renders second other) :
    fingerprintsMatch first second = true ↔ digest = other := by
  rw [fingerprintsMatch, normaliseFingerprint_of_renders renders,
    normaliseFingerprint_of_renders otherRenders, decide_eq_true_iff, upperHex_injective.eq_iff]

/-! ## Requests go to the pinned certificate only -/

/-- A request over a context that trusts only the certificate whose digest was
expected. -/
structure HttpRequest.PinnedBy (request : HttpRequest) (sha256 : Sha256) (expected : String)
    (der : Bytes) : Prop where
  matched : normaliseFingerprint expected = upperHex (sha256 der)
  trusted : request.context.trusted = der
  required : request.context.certRequired = true

theorem normaliseFingerprint_of_matched {sha256 : Sha256} {expected : String} {der : Bytes}
    (matched : fingerprintsMatch expected (certificateFingerprint sha256 der) = true) :
    normaliseFingerprint expected = upperHex (sha256 der) := by
  rw [fingerprintsMatch, decide_eq_true_iff, certificateFingerprint,
    normaliseFingerprint_of_renders (renders_formatFingerprint _)] at matched
  exact matched

namespace PinnedClient

variable {allowed : HttpRequest → Prop}

/-- Every request of a client goes over its context. -/
theorem every_request {client : PinnedClient} {method path : String} {reply : Reply}
    (each : ∀ request : HttpRequest, request.context = client.context → allowed request) :
    Logged.Every allowed (client.request method path reply) :=
  Logged.every_emit.mpr (each _ rfl)

theorem every_asyncCheckProtocol {client : PinnedClient} {reply : Reply}
    (each : ∀ request : HttpRequest, request.context = client.context → allowed request) :
    Logged.Every allowed (client.asyncCheckProtocol reply) := by
  refine Logged.every_bind.mpr ⟨every_request each, fun answer _ => ?_⟩
  refine Logged.every_bind.mpr ⟨Logged.every_lift _, fun info _ => ?_⟩
  dsimp only
  split
  · exact Logged.every_pure _
  · exact Logged.every_lift _

variable {sha256 : Sha256} {loads : Bytes → Bool} {host expected : String} {port : Nat}
variable {auth : BasicAuth} {world : ConnectWorld}

/-- Nothing is sent before the certificate has matched, and everything is sent
to its holder. -/
theorem every_asyncConnectNode :
    Logged.Every (fun request => ∃ der, world.certificate = .ok der ∧
        request.PinnedBy sha256 expected der)
      (asyncConnectNode sha256 loads host port expected auth world) := by
  refine Logged.every_bind.mpr ⟨Logged.every_lift _, fun der fetched => ?_⟩
  have presented := (fetchPeerCertificate_eq_ok_iff.mp fetched).1
  dsimp only
  split
  · next matched =>
      refine Logged.every_bind.mpr ⟨Logged.every_lift _, fun context loaded => ?_⟩
      rw [Logged.outcome_lift, pinnedSslContext] at loaded
      split at loaded
      · cases loaded
        have each (request : HttpRequest)
            (same : request.context =
              { trusted := der, certRequired := true, checkHostname := false }) :
            ∃ der, world.certificate = .ok der ∧ request.PinnedBy sha256 expected der :=
          ⟨der, presented, normaliseFingerprint_of_matched matched, by rw [same], by rw [same]⟩
        refine Logged.every_bind.mpr ⟨every_asyncCheckProtocol each, fun info _ => ?_⟩
        refine Logged.every_bind.mpr ⟨every_request each, fun state _ => ?_⟩
        refine Logged.every_bind.mpr ⟨Logged.every_lift _, fun identity _ => ?_⟩
        refine Logged.every_bind.mpr ⟨Logged.every_lift _, fun members _ => ?_⟩
        exact Logged.every_pure _
      · cases loaded
  · exact Logged.every_lift _

/-- A device with the expected certificate is asked for its info. -/
theorem infoRequest_mem {der : Bytes} (presented : world.certificate = .ok der)
    (offered : der ≠ [])
    (matched : fingerprintsMatch expected (certificateFingerprint sha256 der) = true)
    (loaded : loads der = true) :
    { method := "GET"
      url := "https://" ++ host ++ ":" ++ toString port ++ "/api/ha/info"
      context := { trusted := der, certRequired := true, checkHostname := false }
      auth } ∈ (asyncConnectNode sha256 loads host port expected auth world).events := by
  refine Logged.mem_bind_of_ok (fetchPeerCertificate_eq_ok_iff.mpr ⟨presented, offered⟩) ?_
  dsimp only
  rw [if_pos matched]
  refine Logged.mem_bind_of_ok (if_pos loaded) (Logged.mem_bind_of_mem ?_)
  exact Logged.mem_bind_of_mem (List.mem_singleton_self _)

end PinnedClient

theorem length_upperHex (digest : Bytes) : (upperHex digest).length = 2 * digest.length := by
  rw [upperHex, String.length_ofList, List.length_map, ← length_hexText, hexText,
    String.toList_ofList]

/-- With any function that makes digests of 32 bytes, a request is only sent when
the expected text is the 64 digits of the certificate's digest, it is sent over a
context that trusts that certificate only, and renderings of digests match
exactly when the digests are equal. -/
theorem asyncConnectNode_pinned (sha256 : Bytes → Vector UInt8 32) :
    (∀ (loads : Bytes → Bool) (host : String) (port : Nat) (expected : String) (auth : BasicAuth)
        (world : ConnectWorld),
      ∀ request ∈ (PinnedClient.asyncConnectNode (fun data => (sha256 data).toList) loads host port
          expected auth world).events,
        ∃ der, world.certificate = .ok der ∧
          request.PinnedBy (fun data => (sha256 data).toList) expected der ∧
          (upperHex (sha256 der).toList).length = 64) ∧
      ∀ (first second : String) (digest other : Bytes),
        Renders first digest → Renders second other →
          (fingerprintsMatch first second = true ↔ digest = other) := by
  refine ⟨fun loads host port expected auth world request sent => ?_,
    fun first second digest other => fingerprintsMatch_iff_of_renders⟩
  obtain ⟨der, presented, pinned⟩ := PinnedClient.every_asyncConnectNode request sent
  refine ⟨der, presented, pinned, ?_⟩
  rw [length_upperHex, Vector.length_toList]

end HomeKeyHousehold
