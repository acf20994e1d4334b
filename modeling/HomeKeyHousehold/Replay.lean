import HomeKeyHousehold.Household
import HomeKeyHousehold.IdealMac

/-!
# Replay

What the 32-entry window gives against an adversary who resubmits, re-cuts and
redirects the payloads of a household.
-/

namespace HomeKeyHousehold

open Library

namespace Household

/-- A household whose windows are the tails of what its nodes accepted, and
which accepted nothing that was not signed. -/
structure Sound (hmac : HmacSha256) (state : Household) : Prop where
  windows : ∀ nodeId, state.windows nodeId = (state.acceptedNonces nodeId).rtake replayWindow
  spaced : ∀ nodeId, Spaced replayWindow (state.acceptedNonces nodeId)
  signed : ∀ acceptance ∈ state.accepted, ∃ issued ∈ state.issued,
    issued.canonical = acceptance.canonical
  acceptedMac : ∀ acceptance ∈ state.accepted,
    acceptance.fields.mac = hmac state.key acceptance.canonical
  issuedMac : ∀ issued ∈ state.issued, issued.command.mac = hmac state.key issued.canonical

theorem sound_start (hmac : HmacSha256) (householdId : String) (key : Bytes) :
    Sound hmac (start householdId key) where
  windows := fun _ => rfl
  spaced := fun _ => spaced_nil
  signed := by intro acceptance absent; cases absent
  acceptedMac := by intro acceptance absent; cases absent
  issuedMac := by intro issued absent; cases absent

/-- An acceptance joins the history of its own node only. -/
theorem acceptedNonces_append (state : Household) (windows : String → List String)
    (acceptance : Acceptance) (nodeId : String) :
    acceptedNonces
        { state with windows, accepted := state.accepted ++ [acceptance] } nodeId =
      state.acceptedNonces nodeId ++
        if acceptance.nodeId = nodeId then [acceptance.fields.nonce] else [] := by
  unfold acceptedNonces acceptedAt
  rw [List.filter_append, List.map_append]
  by_cases here : acceptance.nodeId = nodeId
  · simp [here]
  · simp [here]

theorem Sound.publish {hmac : HmacSha256} {state : Household} (sound : Sound hmac state)
    (nodeId action : String) (ts : Option Int) (world : HomeKeyMqttClient.Circumstances) :
    Sound hmac (state.publish hmac nodeId action ts world) := by
  rcases publish_cases hmac state nodeId action ts world with
    same | ⟨act, bytes, command, sent, spelled, -, -, made, -, next⟩
  · rw [same]
    exact sound
  · rw [next]
    refine ⟨sound.windows, sound.spaced, ?_, sound.acceptedMac, ?_⟩
    · intro acceptance accepted
      obtain ⟨issued, old, equal⟩ := sound.signed acceptance accepted
      exact ⟨issued, List.mem_append_left _ old, equal⟩
    · intro issued member
      rcases List.mem_append.mp member with old | new
      · exact sound.issuedMac issued old
      · rw [List.mem_singleton.mp new, made, spelled]
        rfl

theorem Sound.submit {hmac : HmacSha256} {state : Household} (sound : Sound hmac state)
    {nodeId topic payload : String} {now : Option Int}
    (unforged : Unforged hmac state (.submit nodeId topic payload now)) :
    Sound hmac (state.submit hmac nodeId topic payload now) := by
  rcases submit_cases hmac state nodeId topic payload now with
    same | ⟨action, fields, topical, read, passed, next⟩
  · rw [same]
    exact sound
  · obtain ⟨-, mac, -, unseen⟩ :=
      (FirmwareVerifier.check_ok_iff hmac (state.verifier nodeId now) action fields).mp passed
    have unseen : fields.nonce ∉ (state.acceptedNonces nodeId).rtake replayWindow := by
      rw [← sound.windows nodeId]
      exact unseen
    rw [next]
    refine ⟨?_, ?_, ?_, ?_, sound.issuedMac⟩
    · intro other
      rw [acceptedNonces_append]
      change Function.update state.windows nodeId _ other = _
      by_cases here : nodeId = other
      · subst here
        rw [if_pos rfl, Function.update_self, ← rtake_slide, ← sound.windows nodeId]
        rfl
      · rw [if_neg here, List.append_nil, Function.update_of_ne (Ne.symm here)]
        exact sound.windows other
    · intro other
      rw [acceptedNonces_append]
      by_cases here : nodeId = other
      · subst here
        rw [if_pos rfl, spaced_append_singleton]
        exact ⟨sound.spaced nodeId, unseen⟩
      · rw [if_neg here, List.append_nil]
        exact sound.spaced other
    · intro acceptance member
      rcases List.mem_append.mp member with old | new
      · exact sound.signed acceptance old
      · rw [List.mem_singleton.mp new]
        exact unforged action fields topical read mac
    · intro acceptance member
      rcases List.mem_append.mp member with old | new
      · exact sound.acceptedMac acceptance old
      · rw [List.mem_singleton.mp new]
        exact mac

theorem Sound.step {hmac : HmacSha256} {state : Household} (sound : Sound hmac state)
    (event : HouseholdEvent) (unforged : Unforged hmac state event) :
    Sound hmac (state.step hmac event) := by
  cases event with
  | publish nodeId action ts world => exact sound.publish nodeId action ts world
  | submit nodeId topic payload now => exact sound.submit unforged

/-- Every run against an adversary who cannot forge stays sound. -/
theorem sound_run {hmac : HmacSha256} {householdId : String} {key : Bytes}
    {events : List HouseholdEvent}
    (unforged : Along (step hmac) (Unforged hmac) (start householdId key) events) :
    Sound hmac (run (step hmac) (start householdId key) events) :=
  run_invariant (fun _ event sound admitted => sound.step event admitted)
    (sound_start hmac householdId key) unforged

end Household

/-- A payload that carries a command's MAC. -/
def Acceptance.CarriesMac (acceptance : Acceptance) (command : AuthenticatedCommand) : Prop :=
  acceptance.fields.mac = command.mac

/-- A payload that carries a command's MAC under the command's own nonce. -/
def Acceptance.Carries (acceptance : Acceptance) (command : AuthenticatedCommand) : Prop :=
  acceptance.CarriesMac command ∧ acceptance.fields.nonce = command.nonce

namespace Household

/-- Under its own nonce a command is accepted by one node at most once while the
nonce is in that node's window, and whatever is accepted anywhere has the
canonical string of a signed command. -/
theorem accepted_once_within_window {hmac : HmacSha256} (ideal : Ideal hmac)
    {householdId : String} {key : Bytes} {events : List HouseholdEvent}
    (unforged : Along (step hmac) (Unforged hmac) (start householdId key) events) :
    let final := run (step hmac) (start householdId key) events
    (∀ issued ∈ final.issued, ∀ (nodeId : String) (first second : Nat)
        (earlier later : Acceptance), first < second →
        (final.acceptedAt nodeId)[first]? = some earlier →
        (final.acceptedAt nodeId)[second]? = some later →
        earlier.Carries issued.command → later.Carries issued.command →
        replayWindow < second - first) ∧
      ∀ acceptance ∈ final.accepted,
        (∃ issued ∈ final.issued, acceptance.CarriesMac issued.command) ∧
          ∀ issued ∈ final.issued, acceptance.CarriesMac issued.command →
            acceptance.canonical = issued.canonical := by
  intro final
  have sound : Sound hmac final := sound_run unforged
  constructor
  · intro issued _ nodeId first second earlier later ordered atFirst atSecond carried again
    have nonceAt : ∀ {index : Nat} {acceptance : Acceptance},
        (final.acceptedAt nodeId)[index]? = some acceptance →
        (final.acceptedNonces nodeId)[index]? = some acceptance.fields.nonce := by
      intro index acceptance found
      rw [acceptedNonces, List.getElem?_map, found]
      rfl
    obtain ⟨firstInside, firstNonce⟩ := List.getElem?_eq_some_iff.mp (nonceAt atFirst)
    obtain ⟨secondInside, secondNonce⟩ := List.getElem?_eq_some_iff.mp (nonceAt atSecond)
    apply (sound.spaced nodeId).window_lt ordered secondInside
    rw [firstNonce, secondNonce, carried.2, again.2]
  · intro acceptance accepted
    have mac := sound.acceptedMac acceptance accepted
    constructor
    · obtain ⟨issued, member, same⟩ := sound.signed acceptance accepted
      refine ⟨issued, member, ?_⟩
      rw [Acceptance.CarriesMac, mac, sound.issuedMac issued member, same]
    · intro issued member carried
      apply ideal.injective final.key
      rw [← mac, ← sound.issuedMac issued member]
      exact carried

/-- A submission of a payload whose canonical string is that of an issued
command is no forgery. -/
theorem unforged_of_canonical {hmac : HmacSha256} {state : Household}
    {nodeId topic payload : String} {now : Option Int} {action : Action}
    {fields : AuthenticatedCommand}
    (topical : actionForTopic (nodeBase state.householdId nodeId) topic = .ok action)
    (read : commandFields payload = .ok fields)
    (signed : ∃ issued ∈ state.issued, issued.canonical =
      canonicalInput fields.ts fields.nonce fields.reqId action.spelling) :
    Unforged hmac state (.submit nodeId topic payload now) := by
  intro otherAction otherFields otherTopical otherRead _
  cases topical.symm.trans otherTopical
  cases read.symm.trans otherRead
  exact signed

/-! A sample run: one lock command, resubmitted, re-cut and redirected. -/

def sampleKey : Bytes := List.replicate 32 7

def sampleWorld : HomeKeyMqttClient.Circumstances :=
  { clock := 1700000000
    entropy :=
      { draws := Vector.replicate _ (Vector.replicate _ 0x11)
        uuid := Vector.replicate _ 0 }
    transmission := .accepted }

def sampleLockHmac : HmacSha256 :=
  pinnedHmac
    "17000000001111111111111111111111111111111100000000000040008000000000000000lock"
    "e0c00d9d19cf9ca47c5e7d6f26ea13d031331a7e5cd8c82fd08222871d0a99fe"

theorem ideal_sampleLockHmac : Ideal sampleLockHmac :=
  ideal_pinnedHmac _ rfl (by decide)

def sampleLock : AuthenticatedCommand :=
  { ts := 1700000000
    nonce := "11111111111111111111111111111111"
    reqId := "00000000000040008000000000000000"
    mac := "e0c00d9d19cf9ca47c5e7d6f26ea13d031331a7e5cd8c82fd08222871d0a99fe" }

/-- The same canonical string, with one character more in the nonce. -/
def sampleRecut : AuthenticatedCommand :=
  { sampleLock with
    nonce := "111111111111111111111111111111110"
    reqId := "0000000000040008000000000000000" }

def sampleTopic (nodeId : String) : String := nodeTopic "HOME001" nodeId Action.lock.subtopic

def sampleEvents : List HouseholdEvent :=
  [.publish "GATE-001" "lock" none sampleWorld,
    .submit "GATE-001" (sampleTopic "GATE-001") (dumpsCommand sampleLock) (some 1700000001),
    .submit "GATE-001" (sampleTopic "GATE-001") (dumpsCommand sampleRecut) (some 1700000002),
    .submit "GATE-002" (sampleTopic "GATE-002") (dumpsCommand sampleLock) (some 1700000003)]

/-- The sample household once its command is published. -/
def samplePublished : Household :=
  { start "HOME001" sampleKey with
    client :=
      { HomeKeyMqttClient.new "HOME001" with
        nonces := NonceTracker.new.remember sampleLock.nonce }
    issued :=
      [⟨"GATE-001", "lock", sampleLock,
        [HomeKeyMqttClient.commandPublication "HOME001" "GATE-001" "lock" sampleLock]⟩] }

theorem sample_published :
    (start "HOME001" sampleKey).publish sampleLockHmac "GATE-001" "lock" none sampleWorld =
      samplePublished := by
  rfl

def sampleOnce : Household :=
  { samplePublished with
    windows := Function.update (fun _ => []) "GATE-001" [sampleLock.nonce]
    accepted := [⟨"GATE-001", .lock, sampleLock⟩] }

def sampleTwice : Household :=
  { samplePublished with
    windows :=
      Function.update sampleOnce.windows "GATE-001" [sampleLock.nonce, sampleRecut.nonce]
    accepted := [⟨"GATE-001", .lock, sampleLock⟩, ⟨"GATE-001", .lock, sampleRecut⟩] }

def sampleElsewhere : Household :=
  { samplePublished with
    windows := Function.update sampleTwice.windows "GATE-002" [sampleLock.nonce]
    accepted :=
      [⟨"GATE-001", .lock, sampleLock⟩, ⟨"GATE-001", .lock, sampleRecut⟩,
        ⟨"GATE-002", .lock, sampleLock⟩] }

theorem sample_once :
    samplePublished.submit sampleLockHmac "GATE-001" (sampleTopic "GATE-001")
      (dumpsCommand sampleLock) (some 1700000001) = sampleOnce :=
  submit_of_check .lock rfl (by rfl)

theorem sample_twice :
    sampleOnce.submit sampleLockHmac "GATE-001" (sampleTopic "GATE-001")
      (dumpsCommand sampleRecut) (some 1700000002) = sampleTwice :=
  submit_of_check .lock rfl (by rfl)

theorem sample_elsewhere :
    sampleTwice.submit sampleLockHmac "GATE-002" (sampleTopic "GATE-002")
      (dumpsCommand sampleLock) (some 1700000003) = sampleElsewhere :=
  submit_of_check .lock rfl (by rfl)

theorem sample_run :
    run (step sampleLockHmac) (start "HOME001" sampleKey) sampleEvents = sampleElsewhere := by
  rw [sampleEvents, run_cons, step, sample_published, run_cons, step, sample_once, run_cons,
    step, sample_twice, run_cons, step, sample_elsewhere, run_nil]

theorem sample_topical (nodeId : String) :
    actionForTopic (nodeBase "HOME001" nodeId) (sampleTopic nodeId) = .ok .lock :=
  actionForTopic_subtopic _ .lock

theorem sample_signed :
    ∃ issued ∈ samplePublished.issued, issued.canonical =
      canonicalInput sampleLock.ts sampleLock.nonce sampleLock.reqId Action.lock.spelling :=
  ⟨_, List.mem_singleton_self _, by rfl⟩

theorem sampleRecut_signed :
    ∃ issued ∈ samplePublished.issued, issued.canonical =
      canonicalInput sampleRecut.ts sampleRecut.nonce sampleRecut.reqId Action.lock.spelling :=
  ⟨_, List.mem_singleton_self _, by rfl⟩

theorem sample_unforged :
    Along (step sampleLockHmac) (Unforged sampleLockHmac) (start "HOME001" sampleKey)
      sampleEvents := by
  simp only [sampleEvents, Along, step, sample_published, sample_once, sample_twice, and_true]
  refine ⟨trivial, ?_, ?_, ?_⟩
  · exact unforged_of_canonical (sample_topical "GATE-001")
      (commandFields_dumpsCommand sampleLock) sample_signed
  · exact unforged_of_canonical (sample_topical "GATE-001")
      (commandFields_dumpsCommand sampleRecut) sampleRecut_signed
  · exact unforged_of_canonical (sample_topical "GATE-002")
      (commandFields_dumpsCommand sampleLock) sample_signed

/-- What the sample run shows of the theorem: three acceptances, all of the one
signed command. -/
theorem sample_accepted_once_within_window :
    (run (step sampleLockHmac) (start "HOME001" sampleKey) sampleEvents).accepted.length = 3 ∧
      ∀ acceptance ∈
          (run (step sampleLockHmac) (start "HOME001" sampleKey) sampleEvents).accepted,
        ∃ issued ∈ (run (step sampleLockHmac) (start "HOME001" sampleKey) sampleEvents).issued,
          acceptance.CarriesMac issued.command := by
  constructor
  · rw [sample_run]
    rfl
  · intro acceptance accepted
    exact ((accepted_once_within_window ideal_sampleLockHmac sample_unforged).2 acceptance
      accepted).1

/-- A published command is accepted at no node but its own. -/
def OnlyAtItsNode (state : Household) : Prop :=
  ∀ issued ∈ state.issued, issued.sent ≠ [] → ∀ acceptance ∈ state.accepted,
    acceptance.CarriesMac issued.command → acceptance.nodeId = issued.nodeId

/-- No node accepts a published command twice while its nonce is in the window,
however the payload is cut. -/
def OncePerWindow (state : Household) : Prop :=
  ∀ issued ∈ state.issued, issued.sent ≠ [] →
    ∀ (nodeId : String) (first second : Nat) (earlier later : Acceptance), first < second →
      (state.acceptedAt nodeId)[first]? = some earlier →
      (state.acceptedAt nodeId)[second]? = some later →
      earlier.CarriesMac issued.command → later.CarriesMac issued.command →
      replayWindow < second - first

/-- The canonical string names no node and marks no field boundary: neither half
of exclusive acceptance holds of every run. -/
theorem command_accepted_elsewhere_and_again :
    (¬ ∀ (hmac : HmacSha256), Ideal hmac →
        ∀ (householdId : String) (key : Bytes) (events : List HouseholdEvent),
          Along (step hmac) (Unforged hmac) (start householdId key) events →
            OnlyAtItsNode (run (step hmac) (start householdId key) events)) ∧
      ¬ ∀ (hmac : HmacSha256), Ideal hmac →
        ∀ (householdId : String) (key : Bytes) (events : List HouseholdEvent),
          Along (step hmac) (Unforged hmac) (start householdId key) events →
            OncePerWindow (run (step hmac) (start householdId key) events) := by
  have issued : ⟨"GATE-001", "lock", sampleLock,
      [HomeKeyMqttClient.commandPublication "HOME001" "GATE-001" "lock" sampleLock]⟩ ∈
      sampleElsewhere.issued := List.mem_singleton_self _
  constructor
  · intro exclusive
    have only := exclusive sampleLockHmac ideal_sampleLockHmac "HOME001" sampleKey sampleEvents
      sample_unforged
    rw [sample_run] at only
    have named := only _ issued (List.cons_ne_nil _ _) ⟨"GATE-002", .lock, sampleLock⟩
      (by decide) rfl
    exact absurd named (by decide)
  · intro exclusive
    have once := exclusive sampleLockHmac ideal_sampleLockHmac "HOME001" sampleKey sampleEvents
      sample_unforged
    rw [sample_run] at once
    have apart := once _ issued (List.cons_ne_nil _ _) "GATE-001" 0 1
      ⟨"GATE-001", .lock, sampleLock⟩ ⟨"GATE-001", .lock, sampleRecut⟩ Nat.one_pos
      rfl rfl rfl rfl
    exact absurd apart (by decide)

end Household

end HomeKeyHousehold
