import HomeKeyHousehold.Inbound
import HomeKeyHousehold.Record
import HomeKeyHousehold.Rejection

/-!
# Households side by side

A topic of the household namespace names its household, so at most one coordinator
takes its message.  The last will of a device names no household: every entry whose
prefix fits takes it as a message of its own.
-/

namespace HomeKeyHousehold

open Library

namespace Coordinator

variable {env : Env} {coordinator : Coordinator} {nodeId : String}

/-- Messages of another household are ignored. -/
theorem asyncHandleMessage_of_foreign (env : Env) {message : HomeKeyMessage}
    (foreign : message.householdId ≠ coordinator.householdId) :
    coordinator.asyncHandleMessage env message = ⟨coordinator, none⟩ :=
  if_neg foreign

/-- Storing a node changes the registry exactly when it changes the record. -/
theorem nodes_putNode_eq_iff {node changed : Node}
    (known : coordinator.getNode nodeId = some node) (named : changed.nodeId = nodeId) :
    (coordinator.putNode changed).nodes = coordinator.nodes ↔ changed = node := by
  constructor
  · intro same
    have stored := coordinator.getNode_putNode_self named
    rw [getNode, same] at stored
    exact Option.some.inj (stored.symm.trans known)
  · rintro rfl
    exact Keyed.put_of_get? (named ▸ known)

/-- What a last will says that the record does not show yet. -/
def WillIsNews (env : Env) (coordinator : Coordinator) (clientId payload : String) : Prop :=
  ∃ node online, coordinator.getNode clientId = some node ∧
    parseOnline payload "legacy status" = .ok online ∧
    (node.lwtOnline ≠ some online ∨ online = true ∧ node.lastSeen ≠ some (nowIso env))

/-- A last will leaves a record as it was exactly when the record shows it. -/
theorem willed_eq_iff (env : Env) (node : Node) (online : Bool) :
    { node with
        lwtOnline := some online
        lastSeen := if online then some (nowIso env) else node.lastSeen } = node ↔
      ¬ (node.lwtOnline ≠ some online ∨ online = true ∧ node.lastSeen ≠ some (nowIso env)) := by
  constructor
  · rintro same (changed | ⟨up, later⟩)
    · exact changed (congrArg Node.lwtOnline same).symm
    · have seen := congrArg Node.lastSeen same
      dsimp only at seen
      rw [if_pos up] at seen
      exact later seen.symm
  · intro old
    obtain ⟨said, seen⟩ := not_or.mp old
    rw [not_and_not_right] at seen
    cases online with
    | false => rw [if_neg Bool.false_ne_true, ← not_not.mp said]
    | true => rw [if_pos rfl, ← not_not.mp said, ← seen rfl]

/-- A last will changes the registry exactly when it is news. -/
theorem nodes_will_eq_iff (env : Env) (coordinator : Coordinator) {clientId : String}
    (filled : clientId ≠ "") (publication : Publication) :
    (coordinator.asyncHandleMessage env
        (.will coordinator.householdId clientId publication)).coordinator.nodes =
      coordinator.nodes ↔ ¬ coordinator.WillIsNews env clientId publication.payload := by
  have handled := @asyncHandleMessage_plain coordinator clientId
    (.will coordinator.householdId clientId publication) .legacyStatus env rfl rfl filled rfl rfl
  rw [handled, nodes_finish, HomeKeyMessage.will, handlePlain, handleLegacyStatus]
  dsimp only
  cases parsed : parseOnline publication.payload "legacy status" with
  | error reason =>
      refine iff_of_true rfl ?_
      rintro ⟨node, online, -, accepted, -⟩
      rw [parsed] at accepted
      cases accepted
  | ok online =>
      rw [orReject]
      dsimp only
      cases known : coordinator.getNode clientId with
      | none =>
          refine iff_of_true rfl ?_
          rintro ⟨node, told, registered, -⟩
          rw [known] at registered
          cases registered
      | some node =>
          dsimp only
          have named : node.nodeId = clientId := Keyed.key_of_get? known
          have news : coordinator.WillIsNews env clientId publication.payload ↔
              node.lwtOnline ≠ some online ∨
                online = true ∧ node.lastSeen ≠ some (nowIso env) := by
            simp [WillIsNews, known, parsed]
          rw [news]
          exact (@nodes_putNode_eq_iff _ _ _ { node with
            lwtOnline := some online
            lastSeen := if online then some (nowIso env) else node.lastSeen } known named).trans
              (willed_eq_iff env node online)

end Coordinator

namespace MqttEntry

variable {env firstEnv secondEnv : Env} {entry first second : MqttEntry}
variable {publication : Publication}

/-- A publication leaves the registry of an entry as it was. -/
def Undisturbed (env : Env) (entry : MqttEntry) (publication : Publication) : Prop :=
  (entry.deliver env publication).nodes = entry.coordinator.nodes

/-- The entry takes a publication as the last will of one of its nodes, and the will is
news. -/
def TakesWill (env : Env) (entry : MqttEntry) (publication : Publication) : Prop :=
  ∃ clientId, WillTopic entry.client.legacyPrefix publication.topic clientId ∧
    entry.coordinator.WillIsNews env clientId publication.payload

/-- Outside the household namespace an entry is only disturbed by last wills. -/
theorem undisturbed_iff_of_outside
    (outside : (topicLevels publication.topic).head? ≠ some topicRoot) :
    entry.Undisturbed env publication ↔ ¬ entry.TakesWill env publication := by
  rw [Undisturbed, deliver]
  cases handed : entry.client.onMessage publication with
  | none =>
      refine iff_of_true rfl ?_
      rintro ⟨clientId, will, -⟩
      have taken := will.onMessage
      rw [handed] at taken
      cases taken
  | some message =>
      rcases HomeKeyMqttClient.onMessage_eq_some_iff.mp handed with
        ⟨householdId, nodeId, subtopic, topical, -⟩ | ⟨clientId, will, rfl⟩
      · obtain ⟨first, rest, -, split⟩ := topical.levels
        rw [split] at outside
        exact absurd rfl outside
      · dsimp only
        rw [entry.joined, Coordinator.nodes_will_eq_iff env entry.coordinator will.filled]
        constructor
        · rintro old ⟨other, taken, news⟩
          exact old (will.unique taken ▸ news)
        · exact fun never news => never ⟨clientId, will, news⟩

/-- A topic of the household namespace disturbs an entry only if it names its household. -/
theorem undisturbed_of_foreign {householdId nodeId : String} {subtopic : Subtopic}
    (topical : HouseholdTopic publication.topic householdId nodeId subtopic)
    (foreign : householdId ≠ entry.coordinator.householdId) :
    entry.Undisturbed env publication := by
  rw [Undisturbed, deliver, topical.onMessage entry.client]
  dsimp only
  rw [Coordinator.asyncHandleMessage_of_foreign env foreign]

/-- A topic of the household namespace that is no topic of the contract disturbs no entry. -/
theorem undisturbed_of_unknown (inside : (topicLevels publication.topic).head? = some topicRoot)
    (unknown : ¬ ∃ householdId nodeId subtopic,
      HouseholdTopic publication.topic householdId nodeId subtopic) :
    entry.Undisturbed env publication := by
  rw [Undisturbed, deliver]
  cases handed : entry.client.onMessage publication with
  | none => rfl
  | some message =>
      rcases HomeKeyMqttClient.onMessage_eq_some_iff.mp handed with
        ⟨householdId, nodeId, subtopic, topical, -⟩ | ⟨clientId, will, -⟩
      · exact absurd ⟨householdId, nodeId, subtopic, topical⟩ unknown
      · exact absurd inside will.outside

theorem TakesWill.outside (taken : entry.TakesWill env publication) :
    (topicLevels publication.topic).head? ≠ some topicRoot := by
  obtain ⟨clientId, will, -⟩ := taken
  exact will.outside

/-- A publication changes the registry of one household at most, except for the last will
of a device that both have registered. -/
theorem isolated_iff (apart : first.coordinator.householdId ≠ second.coordinator.householdId)
    (firstEnv secondEnv : Env) (publication : Publication) :
    first.Undisturbed firstEnv publication ∨ second.Undisturbed secondEnv publication ↔
      ¬ (first.TakesWill firstEnv publication ∧ second.TakesWill secondEnv publication) := by
  by_cases inside : (topicLevels publication.topic).head? = some topicRoot
  · refine iff_of_true ?_ fun both => both.1.outside inside
    by_cases known : ∃ householdId nodeId subtopic,
        HouseholdTopic publication.topic householdId nodeId subtopic
    · obtain ⟨householdId, nodeId, subtopic, topical⟩ := known
      by_cases foreign : householdId = first.coordinator.householdId
      · exact Or.inr (undisturbed_of_foreign topical fun same => apart (foreign.symm.trans same))
      · exact Or.inl (undisturbed_of_foreign topical foreign)
    · exact Or.inl (undisturbed_of_unknown inside known)
  · rw [undisturbed_iff_of_outside inside, undisturbed_iff_of_outside inside, not_and_or]

/-! ### A device that two households have registered -/

/-- An entry that has heard from the node `A1B2C3`. -/
def sharedDevice (householdId : String) : MqttEntry :=
  { client := .new householdId (some "ESP_")
    coordinator := ((Coordinator.new householdId).asyncHandleMessage Coordinator.sampleEnv
      (.online householdId "A1B2C3")).coordinator
    joined := by rw [Coordinator.householdId_asyncHandleMessage]; rfl }

def offlineWill : Publication :=
  { topic := "ESP_A1B2C3/status", payload := "offline", qos := 1, retain := true }

theorem offlineWill_topic : WillTopic (some "ESP_") offlineWill.topic "A1B2C3" where
  outside := by decide
  spelled := ⟨"ESP_", rfl, by decide, by decide⟩
  filled := by decide
  level := by decide

theorem sharedDevice_takesWill (householdId : String) :
    (sharedDevice householdId).TakesWill Coordinator.sampleEnv offlineWill := by
  obtain ⟨after, moved, -, known⟩ := @Coordinator.handled_online
    (Coordinator.new householdId) householdId "A1B2C3" Coordinator.sampleEnv rfl (by decide)
  have registered :
      (sharedDevice householdId).coordinator.getNode "A1B2C3" = after.getNode "A1B2C3" :=
    congrArg (fun coordinator : Coordinator => coordinator.getNode "A1B2C3") moved
  refine ⟨"A1B2C3", offlineWill_topic, _, false, registered.trans known,
    Coordinator.parseOnline_offline _, Or.inl ?_⟩
  exact fun said => by cases said

theorem sharedDevices_apart :
    (sharedDevice "HOME001").coordinator.householdId ≠
      (sharedDevice "HOME002").coordinator.householdId := by
  rw [← (sharedDevice "HOME001").joined, ← (sharedDevice "HOME002").joined]
  decide

/-- A status in the household namespace disturbs one of the two households at most. -/
theorem sharedDevices_isolated :
    (sharedDevice "HOME001").Undisturbed Coordinator.sampleEnv
        { offlineWill with topic := "homekey/household/HOME001/nodes/A1B2C3/status" } ∨
      (sharedDevice "HOME002").Undisturbed Coordinator.sampleEnv
        { offlineWill with topic := "homekey/household/HOME001/nodes/A1B2C3/status" } :=
  (isolated_iff sharedDevices_apart Coordinator.sampleEnv Coordinator.sampleEnv _).mpr
    fun both => both.1.outside (by decide)

/-- The last will of one device changes the registries of two households. -/
theorem offlineWill_disturbs_both :
    ¬ ∀ (first second : MqttEntry) (firstEnv secondEnv : Env) (publication : Publication),
      first.coordinator.householdId ≠ second.coordinator.householdId →
      first.Undisturbed firstEnv publication ∨ second.Undisturbed secondEnv publication := by
  intro isolated
  have one (householdId : String) :
      ¬ (sharedDevice householdId).Undisturbed Coordinator.sampleEnv offlineWill := by
    rw [undisturbed_iff_of_outside offlineWill_topic.outside, not_not]
    exact sharedDevice_takesWill householdId
  rcases isolated (sharedDevice "HOME001") (sharedDevice "HOME002") Coordinator.sampleEnv
      Coordinator.sampleEnv offlineWill
      sharedDevices_apart with
    first | second
  · exact one "HOME001" first
  · exact one "HOME002" second

end MqttEntry

end HomeKeyHousehold
