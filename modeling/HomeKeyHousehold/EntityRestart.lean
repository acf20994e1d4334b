import HomeKeyHousehold.Discovery
import HomeKeyHousehold.Recovery

/-!
# Entities after a restart

A node that is known again gets its entities again, under the ids they had.  What the
broker has retained decides which nodes are known, and when the platforms look decides
nothing but when they are made.
-/

namespace HomeKeyHousehold

open Library

/-- The message of an event. -/
def EntityEvent.delivery : EntityEvent → Option Delivery
  | .setUp _ => none
  | .message update => some update.delivery

variable {householdId nodeId : String} {legacyPrefix : Option String}
variable {history arrivals : List (Env × Publication)}

/-- A node is heard of on a topic that names its household and itself. -/
theorem valid_of_known
    (known : (knownFrom householdId legacyPrefix arrivals nodeId).isSome = true) :
    isValidId householdId = true ∧ isValidId nodeId = true := by
  rw [knownFrom_eq, Node.isSome_hearAll, List.any_eq_true] at known
  obtain ⟨heard, told, registers⟩ := known
  obtain ⟨arrival, -, message, handed, reached, rfl⟩ := mem_heardFrom_iff.mp told
  obtain ⟨home, named⟩ := of_decide_eq_true (Coordinator.ownMessage_of_reaches reached)
  rcases HomeKeyMqttClient.onMessage_eq_some_iff.mp handed with
    ⟨topicHousehold, topicNode, subtopic, topical, rfl⟩ | ⟨clientId, -, rfl⟩
  · cases (home : topicHousehold = householdId)
    cases (named : some topicNode = some nodeId)
    exact ⟨topical.household, topical.node⟩
  · dsimp only at registers
    rw [Node.Report.registers_will] at registers
    cases registers

namespace EntityHass

/-- The platforms have no part in what is known. -/
theorem coordinator_run (hass : EntityHass) (events : List EntityEvent) :
    (run step hass events).coordinator =
      run Coordinator.receive hass.coordinator (events.filterMap EntityEvent.delivery) := by
  induction events generalizing hass with
  | nil => rfl
  | cons event rest ih =>
      rw [run_cons, ih]
      cases event with
      | setUp platform =>
          rw [step]
          split <;> rfl
      | message update => rfl

/-- A run of an entry that starts afresh: it hears what the broker delivers, and a platform
looks at the end. -/
structure Heard (householdId : String) (legacyPrefix : Option String)
    (arrivals : List (Env × Publication)) (platform : EntityPlatform)
    (events : List EntityEvent) : Prop where
  told : events.filterMap EntityEvent.delivery =
    (HomeKeyMqttClient.new householdId legacyPrefix).deliveries arrivals
  looked : ∃ earlier last, events = earlier ++ [last] ∧
    (run step (start (.new householdId)) earlier).Looks platform last

variable {platform : EntityPlatform} {events : List EntityEvent}

theorem mem_registry_iff {coordinator : Coordinator} :
    nodeId ∈ coordinator.registry ↔ (coordinator.getNode nodeId).isSome = true := by
  rw [← not_iff_not, Coordinator.registry, ← Keyed.get?_eq_none_iff, Option.not_isSome_iff_eq_none]
  rfl

/-- The entities of a platform that has just looked are those of the known nodes. -/
theorem Heard.mem_entities_iff
    (heard : Heard householdId legacyPrefix arrivals platform events) {entity : NodeEntity} :
    entity ∈ (run step (start (.new householdId)) events).entities platform ↔
      (knownFrom householdId legacyPrefix arrivals entity.nodeId).isSome = true ∧
        entity ∈ platform.factory householdId entity.nodeId := by
  obtain ⟨earlier, last, rfl, looks⟩ := heard.looked
  have follows : Follows (run step (start (.new householdId)) earlier) :=
    run_keeps (fun _ event follows => (follows.step event).1) (.start _) earlier
  have home : (run step (start (.new householdId)) earlier).coordinator.householdId =
      householdId := by
    have keeps : ∀ (coordinator : Coordinator) (delivery : Delivery),
        coordinator.householdId = householdId →
          (coordinator.receive delivery).householdId = householdId :=
      fun coordinator delivery same => (coordinator.householdId_receive delivery).trans same
    rw [coordinator_run]
    exact run_keeps keeps rfl _
  have registry : ∀ nodeId, nodeId ∈
        ((run step (start (.new householdId)) earlier).step last).coordinator.registry ↔
      (knownFrom householdId legacyPrefix arrivals nodeId).isSome = true := by
    intro nodeId
    rw [mem_registry_iff, ← @run_concat _ _ step, coordinator_run, heard.told]
    rfl
  rw [run_concat, (exact_of_follows follows last platform).complete looks, home,
    List.mem_flatMap]
  constructor
  · rintro ⟨nodeId, known, made⟩
    obtain rfl := (mem_factory.mp made).2.1
    exact ⟨(registry _).mp known, made⟩
  · rintro ⟨known, made⟩
    exact ⟨_, (registry _).mpr known, made⟩

/-- After a restart a platform has, once it has looked, only entities it had, unique ids
included, and it has all those of a node of which the last publication on some topic is
retained and accepted. -/
theorem entities_after_restart {before after : List EntityEvent}
    (delivered : (arrivals.map Prod.snd).Perm (retainedOf (history.map Prod.snd)).entries)
    (live : Heard householdId legacyPrefix (history.map forwarded) platform before)
    (fresh : Heard householdId legacyPrefix arrivals platform after) :
    (∀ entity ∈ (run step (start (.new householdId)) after).entities platform,
        entity ∈ (run step (start (.new householdId)) before).entities platform) ∧
      ∀ entity ∈ (run step (start (.new householdId)) before).entities platform,
        (∃ subtopic, subtopic ≠ .legacyStatus ∧
          IsKept householdId entity.nodeId history subtopic) →
        entity ∈ (run step (start (.new householdId)) after).entities platform := by
  constructor
  · intro entity member
    obtain ⟨known, made⟩ := fresh.mem_entities_iff.mp member
    exact live.mem_entities_iff.mpr ⟨isSome_of_delivered delivered known, made⟩
  · rintro entity member ⟨subtopic, own, kept⟩
    obtain ⟨known, made⟩ := live.mem_entities_iff.mp member
    obtain ⟨household, node⟩ := valid_of_known known
    obtain ⟨-, found, -, -, -, -, -, -, refound, -⟩ :=
      @IsKept.written _ _ _ legacyPrefix _ _ household node own kept delivered
    exact fresh.mem_entities_iff.mpr ⟨refound ▸ rfl, made⟩

/-! ### A lock that is there again -/

/-- A message adds nothing to a platform that is not set up. -/
theorem added_message_of_none {hass : EntityHass} (idle : hass.added platform = none)
    {update : Update} : (hass.step (.message update)).added platform = none := by
  rw [step, deliver]
  cases hass.coordinator.shown update.delivery.env update.delivery.message with
  | none => exact idle
  | some seen =>
      dsimp only
      rw [idle]
      split <;> rfl

/-- The deliveries come one by one, and the platform is set up after them. -/
def heardThenSetUp (platform : EntityPlatform) (deliveries : List Delivery) : List EntityEvent :=
  deliveries.map (fun delivery => .message ⟨delivery, fun _ => true⟩) ++ [.setUp platform]

theorem added_run_of_none {hass : EntityHass} (idle : hass.added platform = none)
    (deliveries : List Delivery) :
    (run step hass (deliveries.map fun delivery =>
      .message ⟨delivery, fun _ => true⟩)).added platform = none := by
  induction deliveries generalizing hass with
  | nil => exact idle
  | cons delivery rest ih =>
      rw [List.map_cons, run_cons]
      exact ih (added_message_of_none idle)

theorem heard_heardThenSetUp : Heard householdId legacyPrefix arrivals platform
    (heardThenSetUp platform
      ((HomeKeyMqttClient.new householdId legacyPrefix).deliveries arrivals)) where
  told := by
    have messages : (EntityEvent.delivery ∘ fun delivery => .message ⟨delivery, fun _ => true⟩) =
        some := rfl
    rw [heardThenSetUp, List.filterMap_append, List.filterMap_map, messages, List.filterMap_some]
    exact List.append_nil _
  looked := ⟨_, .setUp platform, rfl, rfl, added_run_of_none rfl _⟩

def gateLock : NodeEntity :=
  ⟨"GATE-001", .lock, uniqueId "HOME001" "GATE-001" .lock⟩

theorem gateLock_after_restart :
    gateLock ∈ (run step (start (.new "HOME001")) (heardThenSetUp .lock
      ((HomeKeyMqttClient.new "HOME001" none).deliveries (doorDelivered false)))).entities .lock := by
  have live := @heard_heardThenSetUp "HOME001" none ((doorHistory false).map forwarded) .lock
  have fresh := @heard_heardThenSetUp "HOME001" none (doorDelivered false) .lock
  obtain ⟨before, -, -, -, -, -, -, known, -⟩ := @IsKept.written _ _ _ none _ _ (by decide)
    (by decide) (by decide) (isKept_retainedUnlock false) (doorHistory_delivered false)
  exact (entities_after_restart (doorHistory_delivered false) live fresh).2 gateLock
    (live.mem_entities_iff.mpr ⟨known ▸ rfl, mem_factory.mpr ⟨by decide, rfl, rfl⟩⟩)
    ⟨.lockLast, by decide, isKept_retainedUnlock false⟩

end EntityHass

end HomeKeyHousehold
