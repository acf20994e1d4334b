import HomeKeyHousehold.Connect

/-!
# What can be read of a reply

The direct transport has an exception of its own for every failure it expects.
A body that cannot be decoded, or a document that is no object where one is looked
up, raises something else.
-/

namespace HomeKeyHousehold

open Library

/-! ## Readings -/

/-- What a client makes of a reply. -/
inductive ReplyReading where
  | refused
  | undecodable
  | document (value : Json)

/-- An error status is refused with the text of its body; with any other status a
body is a document, and an empty one reads as `null`. -/
def textReading (status : Nat) (text : String) : ReplyReading :=
  if 400 ≤ status then .refused
  else if stripBytes text = "" then .document .null
  else
    match Json.loads (stripBytes text) with
    | some value => .document value
    | none => .undecodable

/-- What is read of a reply. -/
def Reply.reading : Reply → ReplyReading
  | .response status body =>
      if status = 401 ∨ status = 404 then .refused
      else (body.map (textReading status)).getD .undecodable
  | .certificateMismatch => .refused
  | .tlsFailed _ => .refused
  | .unreachable .. => .refused
  | .timedOut _ => .refused

/-- A reply that is refused or answers with an object. -/
def Reply.Legible (reply : Reply) : Prop :=
  match reply.reading with
  | .refused => True
  | .undecodable => False
  | .document value => ∃ members, value = .obj members

/-- What a request returns or raises for a reading. -/
inductive Answers : ReplyReading → Except Raised Json → Prop where
  | refused (error : DirectError) (message : String) :
      Answers .refused (.error (.direct error message))
  | undecodable : Answers .undecodable (.error .other)
  | document (value : Json) : Answers (.document value) (.ok value)

theorem request_answers (client : DirectClient) (path : String) (reply : Reply) :
    Answers reply.reading (client.request path reply) := by
  cases reply with
  | response status body =>
      rw [DirectClient.request, Reply.reading]
      by_cases unauthorised : status = 401
      · rw [if_pos unauthorised, if_pos (Or.inl unauthorised)]
        exact .refused _ _
      by_cases missing : status = 404
      · subst missing
        exact .refused _ _
      rw [if_neg unauthorised, if_neg missing, if_neg (not_or.mpr ⟨unauthorised, missing⟩)]
      by_cases inactive : status = 503
      · subst inactive
        cases body with
        | none => exact .undecodable
        | some text => exact .refused _ _
      rw [if_neg inactive]
      by_cases failed : 400 ≤ status
      · rw [if_pos failed]
        cases body with
        | none => exact .undecodable
        | some text =>
            rw [Option.map_some, Option.getD_some, textReading, if_pos failed]
            exact .refused _ _
      rw [if_neg failed]
      cases body with
      | none => exact .undecodable
      | some text =>
          rw [Option.map_some, Option.getD_some, textReading, if_neg failed, readJson]
          split
          · exact .document .null
          · cases Json.loads (stripBytes text) with
            | none => exact .undecodable
            | some value => exact .document value
  | certificateMismatch => exact .refused _ _
  | tlsFailed reason => exact .refused _ _
  | unreachable reason left => exact .refused _ _
  | timedOut left => exact .refused _ _

theorem request_eq_ok_iff {client : DirectClient} {path : String} {reply : Reply} {value : Json} :
    client.request path reply = .ok value ↔ reply.reading = .document value := by
  have answers := request_answers client path reply
  generalize client.request path reply = result at answers ⊢
  generalize reply.reading = reading at answers ⊢
  cases answers with
  | refused error message => simp
  | undecodable => simp
  | document other => simp

/-! ## Which exceptions come out -/

/-- A result raises nothing but what is allowed. -/
def RaisesOnly {α : Type} (allowed : Raised → Bool) (result : Except Raised α) : Prop :=
  ∀ raised, result = .error raised → allowed raised = true

/-- A `DirectTransportError`. -/
def Raised.isDirect : Raised → Bool
  | .validation _ => false
  | .direct .. => true
  | .other => false

/-- Allowed are the exceptions of the direct transport, and none that it does
not know. -/
structure AllowsDirect (allowed : Raised → Bool) : Prop where
  direct : ∀ error message, allowed (.direct error message) = true
  other : allowed .other = false

theorem allowsDirect_isDirect : AllowsDirect Raised.isDirect := ⟨fun _ _ => rfl, rfl⟩

variable {α β : Type} {allowed : Raised → Bool}

theorem raisesOnly_ok (value : α) : RaisesOnly allowed (.ok value) := by
  intro raised failed
  cases failed

theorem raisesOnly_error (raised : Raised) :
    RaisesOnly allowed (.error raised : Except Raised α) ↔ allowed raised = true := by
  constructor
  · intro only
    exact only raised rfl
  · intro allows _ same
    cases same
    exact allows

/-- A computation raises what its parts raise, as far as it gets. -/
theorem raisesOnly_bind (first : Except Raised α) (next : α → Except Raised β) :
    RaisesOnly allowed (first >>= next) ↔
      RaisesOnly allowed first ∧ ∀ value, first = .ok value → RaisesOnly allowed (next value) := by
  cases first with
  | error raised =>
      have stopped : ((.error raised : Except Raised α) >>= next) = .error raised := rfl
      rw [stopped, raisesOnly_error, raisesOnly_error]
      exact ⟨fun allows => ⟨allows, fun value got => by cases got⟩, And.left⟩
  | ok value =>
      constructor
      · intro only
        refine ⟨raisesOnly_ok value, ?_⟩
        rintro other got
        cases got
        exact only
      · intro only
        exact only.2 value rfl

variable (allows : AllowsDirect allowed)

include allows

theorem raisesOnly_request (client : DirectClient) (path : String) (reply : Reply) :
    RaisesOnly allowed (client.request path reply) ↔ reply.reading ≠ .undecodable := by
  have answers := request_answers client path reply
  generalize client.request path reply = result at answers ⊢
  generalize reply.reading = reading at answers ⊢
  cases answers with
  | refused error message => simp [raisesOnly_error, allows.direct]
  | undecodable => simp [raisesOnly_error, allows.other]
  | document value => exact iff_of_true (raisesOnly_ok value) (by simp)

omit allows in
theorem raisesOnly_membersOf (refuses : allowed .other = false) (value : Json) :
    RaisesOnly allowed (membersOf value) ↔ ∃ members, value = .obj members := by
  cases value with
  | obj members => exact iff_of_true (raisesOnly_ok members) ⟨members, rfl⟩
  | null | bool _ | int _ | float _ | str _ | arr _ =>
      refine iff_of_false ?_ (by simp)
      intro only
      have allowed := only .other rfl
      rw [refuses] at allowed
      cases allowed

/-- Looking something up in an answer goes as expected exactly when it is
legible. -/
theorem raisesOnly_object (client : DirectClient) (path : String) (reply : Reply) :
    RaisesOnly allowed (client.request path reply >>= membersOf) ↔ reply.Legible := by
  rw [raisesOnly_bind, raisesOnly_request allows, Reply.Legible]
  simp only [raisesOnly_membersOf allows.other, request_eq_ok_iff]
  cases reply.reading with
  | refused => simp
  | undecodable => simp
  | document value => simp

/-- Objects resolve to an identity, or fail as expected. -/
theorem raisesOnly_resolveIdentity (state info : Json) :
    RaisesOnly allowed (resolveIdentity state info) ↔
      (∃ members, info = .obj members) ∧ ∃ members, state = .obj members := by
  rw [resolveIdentity, raisesOnly_bind, raisesOnly_membersOf allows.other]
  refine and_congr_right ?_
  rintro ⟨members, rfl⟩
  constructor
  · intro only
    exact (raisesOnly_membersOf allows.other state).mp ((raisesOnly_bind _ _).mp (only members rfl)).1
  · rintro ⟨members, rfl⟩ value got
    refine (raisesOnly_bind _ _).mpr ⟨raisesOnly_ok members, ?_⟩
    rintro other same
    cases same
    dsimp only
    split
    · split
      · exact raisesOnly_ok _
      · exact (raisesOnly_error _).mpr (allows.direct _ _)
    · exact (raisesOnly_error _).mpr (allows.direct _ _)

/-! ## Connecting -/

/-- The device at an address presents the certificate that is expected. -/
def ConnectWorld.Pinned (world : ConnectWorld) (sha256 : Sha256) (expected : String) : Prop :=
  ∃ der, world.certificate = .ok der ∧ der ≠ [] ∧
    fingerprintsMatch expected (certificateFingerprint sha256 der) = true

/-- What the device answers is legible, as far as it is asked. -/
def ConnectWorld.Legible (world : ConnectWorld) (sha256 : Sha256) (expected : String) : Prop :=
  world.Pinned sha256 expected →
    world.info.Legible ∧
      ∀ info, world.info.reading = .document (.obj info) →
        (Json.get info "protocol").equalsInt haApiProtocol = true → world.state.Legible

omit allows in
theorem fetchPeerCertificate_eq_ok_iff {host : String} {port : Nat}
    {certificate : Except String Bytes} {der : Bytes} :
    fetchPeerCertificate host port certificate = .ok der ↔ certificate = .ok der ∧ der ≠ [] := by
  cases certificate with
  | error reason => simp [fetchPeerCertificate]
  | ok presented =>
      cases presented with
      | nil => simp [fetchPeerCertificate]
      | cons byte rest =>
          have offered : fetchPeerCertificate host port (.ok (byte :: rest)) = .ok (byte :: rest) := rfl
          rw [offered]
          simp only [Except.ok.injEq, iff_self_and]
          rintro rfl
          exact List.cons_ne_nil byte rest

theorem raisesOnly_fetchPeerCertificate (host : String) (port : Nat)
    (certificate : Except String Bytes) :
    RaisesOnly allowed (fetchPeerCertificate host port certificate) := by
  cases certificate with
  | error reason => exact (raisesOnly_error _).mpr (allows.direct _ _)
  | ok presented =>
      cases presented with
      | nil => exact (raisesOnly_error _).mpr (allows.direct _ _)
      | cons byte rest => exact raisesOnly_ok _

omit allows in
theorem asyncCheckProtocol_eq_ok_iff {client : DirectClient} {reply : Reply} {info : Dict} :
    client.asyncCheckProtocol reply = .ok info ↔
      reply.reading = .document (.obj info) ∧
        (Json.get info "protocol").equalsInt haApiProtocol = true := by
  rw [DirectClient.asyncCheckProtocol]
  simp only [bind_eq_ok, request_eq_ok_iff]
  constructor
  · rintro ⟨answer, read, members, object, spoken⟩
    cases answer with
    | obj told =>
        cases object
        split at spoken
        · next supported =>
            cases spoken
            exact ⟨read, supported⟩
        · cases spoken
    | null | bool _ | int _ | float _ | str _ | arr _ => cases object
  · rintro ⟨read, supported⟩
    exact ⟨.obj info, read, info, rfl, if_pos supported⟩

theorem raisesOnly_asyncCheckProtocol (client : DirectClient) (reply : Reply) :
    RaisesOnly allowed (client.asyncCheckProtocol reply) ↔ reply.Legible := by
  rw [← raisesOnly_object allows client "/api/ha/info", DirectClient.asyncCheckProtocol,
    raisesOnly_bind, raisesOnly_bind]
  refine and_congr_right fun _ => forall₂_congr fun answer _ => ?_
  rw [raisesOnly_bind]
  refine and_iff_left fun info _ => ?_
  dsimp only
  split
  · exact raisesOnly_ok info
  · exact (raisesOnly_error _).mpr (allows.direct _ _)

/-- Connecting fails as expected exactly when the answers of the pinned device are
legible. -/
theorem raisesOnly_asyncConnectNode (sha256 : Sha256) (host : String) (port : Nat)
    (expected : String) (world : ConnectWorld) :
    RaisesOnly allowed (asyncConnectNode sha256 host port expected world) ↔
      world.Legible sha256 expected := by
  rw [asyncConnectNode, raisesOnly_bind]
  simp only [fetchPeerCertificate_eq_ok_iff, raisesOnly_fetchPeerCertificate allows, true_and]
  have identified (client : DirectClient) (fingerprint : String) (info : Dict) (state : Json) :
      RaisesOnly allowed (do
        let identity ← resolveIdentity state (.obj info)
        let members ← membersOf state
        pure (probeOf client fingerprint identity.1 identity.2 info members)) ↔
        ∃ members, state = .obj members := by
    rw [raisesOnly_bind, raisesOnly_resolveIdentity allows]
    constructor
    · intro only
      exact only.1.2
    · rintro ⟨members, rfl⟩
      refine ⟨⟨⟨info, rfl⟩, members, rfl⟩, fun identity _ => ?_⟩
      exact raisesOnly_ok _
  have asked (client : DirectClient) (fingerprint : String) :
      RaisesOnly allowed (do
        let info ← client.asyncCheckProtocol world.info
        let state ← client.request "/api/ha/state" world.state
        let identity ← resolveIdentity state (.obj info)
        let members ← membersOf state
        pure (probeOf client fingerprint identity.1 identity.2 info members)) ↔
        world.info.Legible ∧
          ∀ info, world.info.reading = .document (.obj info) →
            (Json.get info "protocol").equalsInt haApiProtocol = true → world.state.Legible := by
    rw [raisesOnly_bind, raisesOnly_asyncCheckProtocol allows]
    simp only [asyncCheckProtocol_eq_ok_iff, and_imp]
    refine and_congr_right fun _ => forall₃_congr fun info _ _ => ?_
    rw [raisesOnly_bind, ← raisesOnly_object allows client "/api/ha/state", raisesOnly_bind]
    refine and_congr_right fun _ => forall₂_congr fun state _ => ?_
    rw [identified, raisesOnly_membersOf allows.other]
  constructor
  · rintro only ⟨der, presented, offered, pinned⟩
    have connected := only der ⟨presented, offered⟩
    rw [if_pos pinned] at connected
    exact (asked _ _).mp connected
  · rintro legible der ⟨presented, offered⟩
    split
    · next pinned => exact (asked _ _).mpr (legible ⟨der, presented, offered, pinned⟩)
    · exact (raisesOnly_error _).mpr (allows.direct _ _)

end HomeKeyHousehold
