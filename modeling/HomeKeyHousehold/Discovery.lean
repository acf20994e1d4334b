import HomeKeyHousehold.Library.Enrolment
import HomeKeyHousehold.PendingCauses
import HomeKeyHousehold.Registry
import HomeKeyHousehold.UniqueId

/-!
# Entities for nodes as they are discovered

Every platform adds the entities of the nodes it finds when it is set up, and listens
for the others.  A node enters the registry once and stays there, so a platform that
looks at the registry from time to time has made each entity once, in the order the
nodes were discovered.
-/

namespace HomeKeyHousehold

open Library

/-! ## Platforms and their entities -/

/-- `PLATFORMS`. -/
inductive EntityPlatform where
  | lock
  | binarySensor
  | sensor
  | button
  | switch
  | number
  deriving DecidableEq, Repr

/-- An entity as its constructor leaves it. -/
structure NodeEntity where
  nodeId : String
  entityType : EntityType
  uniqueId : String
  deriving DecidableEq, Repr

namespace EntityPlatform

/-- The platforms, in the order they are forwarded. -/
def all : List EntityPlatform := [lock, binarySensor, sensor, button, switch, number]

/-- The entities a platform's factory makes for one node, in its order. -/
def entityTypes : EntityPlatform → List EntityType
  | lock => [.lock]
  | binarySensor => [.online]
  | sensor => [.health, .backup, .security, .firmware, .lastAuth, .guestTags]
  | button => [.backupNow, .guestTeach, .guestCancel]
  | switch => [.guestAccess]
  | number => [.guestValidity]

/-- The factory a platform passes to `async_add_entities_for_nodes`. -/
def factory (householdId : String) (platform : EntityPlatform) (nodeId : String) :
    List NodeEntity :=
  platform.entityTypes.map fun entityType =>
    { nodeId, entityType, uniqueId := HomeKeyHousehold.uniqueId householdId nodeId entityType }

theorem mem_all (platform : EntityPlatform) : platform ∈ all := by
  cases platform <;> decide

end EntityPlatform

/-! ## The registry only grows -/

namespace Coordinator

variable {env : Env} {coordinator : Coordinator}

/-- The node ids, in the order they were discovered. -/
def registry (coordinator : Coordinator) : List String := coordinator.nodes.keys

theorem registry_nodup (coordinator : Coordinator) : coordinator.registry.Nodup :=
  coordinator.nodes.nodup

/-- A stored node keeps its place, or comes last if it is new. -/
theorem registry_putNode (coordinator : Coordinator) (node : Node) :
    coordinator.registry <+: (coordinator.putNode node).registry := by
  rw [registry, registry, putNode]
  by_cases known : node.nodeId ∈ coordinator.nodes.keys
  · have kept : (coordinator.nodes.put node).keys = coordinator.nodes.keys := by
      rw [Keyed.put, dif_pos known]
      exact Keyed.overwrite_keys _ _
    rw [kept]
  · have added : (coordinator.nodes.put node).keys =
        coordinator.nodes.keys ++ [node.nodeId] := by
      rw [Keyed.keys, Keyed.entries_put_of_new known, List.map_append]
      rfl
    rw [added]
    exact List.prefix_append _ _

theorem registry_ensureNode (coordinator : Coordinator) (nodeId : String) :
    coordinator.registry <+: (coordinator.ensureNode nodeId).1.registry := by
  unfold ensureNode
  split
  · exact List.prefix_refl _
  · exact registry_putNode coordinator _

theorem registry_mergeNode (coordinator : Coordinator) (incoming : Node) :
    coordinator.registry <+: (coordinator.mergeNode incoming).registry := by
  unfold mergeNode
  split
  · exact registry_putNode coordinator _
  · exact registry_putNode coordinator _

/-- A node that is registered and then written. -/
theorem registry_update (coordinator : Coordinator) (nodeId : String) (node : Node) :
    coordinator.registry <+: ((coordinator.ensureNode nodeId).1.putNode node).registry :=
  (registry_ensureNode coordinator nodeId).trans (registry_putNode _ node)

theorem registry_orReject {α : Type} {base : Coordinator} {result : Validated α}
    {accept : α → Coordinator} (kept : coordinator.registry <+: base.registry)
    (accepted : ∀ value, coordinator.registry <+: (accept value).registry) :
    coordinator.registry <+: (base.orReject result accept).coordinator.registry := by
  cases result with
  | ok value => exact accepted value
  | error reason => exact kept

theorem registry_attributeLockChange (coordinator : Coordinator) (node : Node)
    (previousCurrent : Option Int) (health : NodeHealth) :
    (coordinator.attributeLockChange env node previousCurrent health).registry =
      coordinator.registry := by
  unfold attributeLockChange announce
  split
  · split_ifs <;> rfl
  · rfl

theorem registry_attributeLockEvent (coordinator : Coordinator) (node : Node)
    (change : LockChange) :
    coordinator.registry <+: (coordinator.attributeLockEvent env node change).registry := by
  unfold attributeLockEvent
  split
  · split
    · exact List.prefix_refl _
    · split
      · exact registry_putNode coordinator _
      · exact List.prefix_refl _
  · exact List.prefix_refl _

theorem registry_handlePlain (coordinator : Coordinator) (nodeId payload : String)
    (subtopic : Subtopic) :
    coordinator.registry <+:
      (coordinator.handlePlain env nodeId payload subtopic).coordinator.registry := by
  cases subtopic with
  | legacyStatus =>
      rw [handlePlain, handleLegacyStatus]
      refine registry_orReject (List.prefix_refl _) fun online => ?_
      split
      · exact List.prefix_refl _
      · exact registry_putNode coordinator _
  | status =>
      rw [handlePlain, handleNodeStatus]
      exact registry_orReject (List.prefix_refl _) fun online => registry_update coordinator nodeId _
  | security =>
      rw [handlePlain, handleSecurity]
      exact registry_orReject (List.prefix_refl _) fun value => registry_update coordinator nodeId _
  | backupStatus =>
      rw [handlePlain, handleBackupStatus]
      exact registry_orReject (List.prefix_refl _) fun value => registry_update coordinator nodeId _
  | state | health | lockLast | backupLast | lastAuth | guestStatus => exact List.prefix_refl _

theorem registry_handleJson (coordinator : Coordinator) (nodeId : String) (payload : Json)
    (subtopic : Subtopic) :
    coordinator.registry <+:
      (coordinator.handleJson env nodeId payload subtopic).coordinator.registry := by
  cases subtopic with
  | state =>
      rw [handleJson, handleState]
      exact registry_orReject (List.prefix_refl _) fun incoming =>
        registry_mergeNode coordinator incoming
  | health =>
      rw [handleJson, handleHealth]
      refine registry_orReject (registry_ensureNode coordinator nodeId) fun health => ?_
      rw [registry_attributeLockChange]
      exact registry_update coordinator nodeId _
  | lockLast =>
      rw [handleJson, handleLockLast]
      exact registry_orReject (registry_ensureNode coordinator nodeId) fun change =>
        (registry_update coordinator nodeId _).trans (registry_attributeLockEvent _ _ change)
  | backupLast =>
      rw [handleJson, handleBackupLast]
      exact registry_orReject (List.prefix_refl _) fun record => registry_update coordinator nodeId _
  | lastAuth =>
      rw [handleJson, handleLastAuth]
      exact registry_orReject (List.prefix_refl _) fun auth => registry_update coordinator nodeId _
  | guestStatus =>
      rw [handleJson, handleGuestStatus]
      exact registry_orReject (List.prefix_refl _) fun guest => registry_update coordinator nodeId _
  | legacyStatus | status | security | backupStatus => exact List.prefix_refl _

theorem registry_branch {message : HomeKeyMessage} {handled : Handled}
    (reached : branch env coordinator message = some handled) :
    coordinator.registry <+: handled.coordinator.registry := by
  unfold branch at reached
  split at reached
  · split at reached
    · split at reached
      · split at reached
        · cases reached
          exact registry_handleJson coordinator _ _ _
        · cases reached
      · cases reached
        exact registry_handlePlain coordinator _ _ _
    · cases reached
  · cases reached

/-- No message removes a node or moves one, whatever becomes of the message. -/
theorem registry_receive (coordinator : Coordinator) (delivery : Delivery) :
    coordinator.registry <+: (coordinator.receive delivery).registry := by
  rw [receive, coordinator_asyncHandleMessage]
  cases reached : branch delivery.env coordinator delivery.message with
  | none => exact List.prefix_refl _
  | some handled =>
      have kept : (handled.finish delivery.env).coordinator.registry =
          handled.coordinator.registry := congrArg Keyed.keys (nodes_finish delivery.env handled)
      dsimp only
      rw [kept]
      exact registry_branch reached

/-- The listeners see the registry that the message leaves. -/
theorem registry_shown {delivery : Delivery} {seen : Coordinator}
    (updates : shown delivery.env coordinator delivery.message = some seen) :
    seen.registry = (coordinator.receive delivery).registry := by
  obtain ⟨handled, reached, raised⟩ := Option.bind_eq_some_iff.mp updates
  rw [receive, coordinator_asyncHandleMessage, reached]
  dsimp only at raised ⊢
  rw [registry, registry, nodes_finish]
  split at raised
  · cases raised
    rfl
  · cases raised

end Coordinator

/-! ## Adding entities -/

/-- A coordinator, and what each platform that is set up has added. -/
structure EntityHass where
  coordinator : Coordinator
  added : EntityPlatform → Option (Enrolment String NodeEntity)

/-- A message, with the platforms whose listener an entity that raises would not keep
from running. -/
structure Update where
  delivery : Delivery
  reached : EntityPlatform → Bool

/-- Whether the listener of a platform runs when the update is delivered. -/
def Update.reaches (update : Update) (platform : EntityPlatform) : Bool :=
  !update.delivery.env.listenersRaise || update.reached platform

/-- What happens next: a platform is set up, or a message arrives. -/
inductive EntityEvent where
  | setUp (platform : EntityPlatform)
  | message (update : Update)

namespace EntityHass

/-- No platform is set up. -/
def start (coordinator : Coordinator) : EntityHass := ⟨coordinator, fun _ => none⟩

/-- `_add_new_nodes`, when the listeners see a registry. -/
def addNewNodes (householdId : String) (platform : EntityPlatform) (registry : List String)
    (added : Enrolment String NodeEntity) : Enrolment String NodeEntity :=
  added.look (platform.factory householdId) registry

/-- The initial pass of `async_add_entities_for_nodes`. -/
def asyncAddEntitiesForNodes (coordinator : Coordinator) (platform : EntityPlatform) :
    Enrolment String NodeEntity :=
  addNewNodes coordinator.householdId platform coordinator.registry .empty

/-- The listeners run when a message leads to an update. -/
def deliver (hass : EntityHass) (update : Update) : EntityHass where
  coordinator := hass.coordinator.receive update.delivery
  added :=
    match hass.coordinator.shown update.delivery.env update.delivery.message with
    | none => hass.added
    | some seen => fun platform =>
        if update.reaches platform then
          (hass.added platform).map (addNewNodes hass.coordinator.householdId platform seen.registry)
        else hass.added platform

/-- A platform is set up once. -/
def step (hass : EntityHass) : EntityEvent → EntityHass
  | .setUp platform =>
      if (hass.added platform).isSome then hass
      else
        { hass with
          added := fun other =>
            if other = platform then some (asyncAddEntitiesForNodes hass.coordinator platform)
            else hass.added other }
  | .message update => hass.deliver update

/-- The entities a platform has added, oldest first. -/
def entities (hass : EntityHass) (platform : EntityPlatform) : List NodeEntity :=
  ((hass.added platform).map Enrolment.made).getD []

/-- A platform looks at the registry. -/
def Looks (hass : EntityHass) (platform : EntityPlatform) : EntityEvent → Prop
  | .setUp other => other = platform ∧ hass.added platform = none
  | .message update =>
      (hass.coordinator.shown update.delivery.env update.delivery.message).isSome = true ∧
        update.reaches platform = true ∧ (hass.added platform).isSome = true

/-- The entities of a platform are those of some nodes that were discovered first, and
of all of them whenever the platform has just looked. -/
structure Exact (hass : EntityHass) (event : EntityEvent) (platform : EntityPlatform) : Prop where
  once : ∃ nodeIds, nodeIds <+: (hass.step event).coordinator.registry ∧
    (hass.step event).entities platform =
      nodeIds.flatMap (platform.factory hass.coordinator.householdId)
  complete : hass.Looks platform event →
    (hass.step event).entities platform =
      (hass.step event).coordinator.registry.flatMap
        (platform.factory hass.coordinator.householdId)

variable {hass : EntityHass} {platform : EntityPlatform}

/-- What was added covers nodes that were discovered first. -/
def Follows (hass : EntityHass) : Prop :=
  ∀ platform, ∀ added ∈ hass.added platform, ∃ nodeIds,
    nodeIds <+: hass.coordinator.registry ∧
      added.Covers (platform.factory hass.coordinator.householdId) nodeIds

theorem Follows.start (coordinator : Coordinator) : Follows (start coordinator) := by
  intro platform added none
  cases none

/-- A step keeps what was added to the nodes discovered first, and a look takes it to
all of them. -/
theorem Follows.step (follows : Follows hass) (event : EntityEvent) :
    Follows (hass.step event) ∧
      ∀ platform, hass.Looks platform event → ∀ added ∈ (hass.step event).added platform,
        added.Covers (platform.factory hass.coordinator.householdId)
          (hass.step event).coordinator.registry := by
  cases event with
  | setUp chosen =>
      cases listening : (hass.added chosen).isSome with
      | true =>
          rw [EntityHass.step, if_pos listening]
          refine ⟨follows, fun platform looks => ?_⟩
          obtain ⟨rfl, idle⟩ := looks
          rw [idle] at listening
          cases listening
      | false =>
          have first : (asyncAddEntitiesForNodes hass.coordinator chosen).Covers
              (chosen.factory hass.coordinator.householdId) hass.coordinator.registry :=
            (Enrolment.Covers.empty _).look (List.nil_prefix) hass.coordinator.registry_nodup
          rw [EntityHass.step, if_neg (Bool.eq_false_iff.mp listening)]
          constructor
          · intro platform added present
            dsimp only at present
            split at present
            · next same =>
                subst same
                cases present
                exact ⟨_, List.prefix_refl _, first⟩
            · exact follows platform added present
          · rintro platform ⟨rfl, -⟩ added present
            dsimp only at present
            rw [if_pos rfl] at present
            cases present
            exact first
  | message update =>
      have grown := hass.coordinator.registry_receive update.delivery
      have home : (hass.step (.message update)).coordinator.householdId =
          hass.coordinator.householdId := hass.coordinator.householdId_receive update.delivery
      have kept : ∀ platform, ∀ added ∈ hass.added platform, ∃ nodeIds,
          nodeIds <+: (hass.step (.message update)).coordinator.registry ∧
            added.Covers (platform.factory hass.coordinator.householdId) nodeIds := by
        intro platform added present
        obtain ⟨nodeIds, discovered, covers⟩ := follows platform added present
        exact ⟨nodeIds, discovered.trans grown, covers⟩
      cases updates : hass.coordinator.shown update.delivery.env update.delivery.message with
      | none =>
          have same : (hass.step (.message update)).added = hass.added := by
            rw [EntityHass.step, deliver, updates]
          constructor
          · intro platform added present
            rw [same] at present
            rw [home]
            exact kept platform added present
          · rintro platform ⟨delivered, -, -⟩
            rw [updates] at delivered
            cases delivered
      | some seen =>
          have looked : (hass.step (.message update)).added = fun platform =>
              if update.reaches platform then
                (hass.added platform).map
                  (addNewNodes hass.coordinator.householdId platform seen.registry)
              else hass.added platform := by
            rw [EntityHass.step, deliver, updates]
          have current := Coordinator.registry_shown updates
          -- A listener that runs covers the registry the message leaves.
          have covered : ∀ platform, update.reaches platform = true →
              ∀ added ∈ (hass.step (.message update)).added platform,
                added.Covers (platform.factory hass.coordinator.householdId)
                  (hass.step (.message update)).coordinator.registry := by
            intro platform runs added present
            rw [looked] at present
            dsimp only at present
            rw [if_pos runs] at present
            obtain ⟨earlier, before, rfl⟩ := Option.mem_map.mp present
            obtain ⟨nodeIds, discovered, covers⟩ := follows platform earlier before
            change (addNewNodes _ _ _ _).Covers _ (hass.coordinator.receive update.delivery).registry
            rw [← current] at grown ⊢
            exact covers.look (discovered.trans grown) seen.registry_nodup
          refine ⟨fun platform added present => ?_, fun platform looks => covered platform looks.2.1⟩
          rw [home]
          by_cases runs : update.reaches platform = true
          · exact ⟨_, List.prefix_refl _, covered platform runs added present⟩
          · rw [looked] at present
            dsimp only at present
            rw [if_neg runs] at present
            exact kept platform added present

/-- What a platform has added, when what it added covers some nodes. -/
theorem entities_of_covers {householdId : String} {nodeIds : List String}
    (covers : ∀ added ∈ hass.added platform,
      added.Covers (platform.factory householdId) nodeIds)
    (listening : (hass.added platform).isSome = true) :
    hass.entities platform = nodeIds.flatMap (platform.factory householdId) := by
  obtain ⟨added, present⟩ := Option.isSome_iff_exists.mp listening
  rw [entities, present]
  exact (covers added present).made

/-- A platform that looks is set up afterwards. -/
theorem isSome_of_looks {event : EntityEvent} (looks : hass.Looks platform event) :
    ((hass.step event).added platform).isSome = true := by
  cases event with
  | setUp chosen =>
      obtain ⟨rfl, idle⟩ := looks
      rw [step, if_neg (by rw [idle]; exact Bool.false_ne_true)]
      dsimp only
      rw [if_pos rfl]
      rfl
  | message update =>
      obtain ⟨delivered, runs, listening⟩ := looks
      obtain ⟨seen, updates⟩ := Option.isSome_iff_exists.mp delivered
      rw [step, deliver, updates]
      dsimp only
      rw [if_pos runs, Option.isSome_map]
      exact listening

theorem exact_of_follows (follows : Follows hass) (event : EntityEvent)
    (platform : EntityPlatform) : Exact hass event platform := by
  have home : (hass.step event).coordinator.householdId = hass.coordinator.householdId := by
    cases event with
    | setUp chosen =>
        rw [step]
        split <;> rfl
    | message update => exact hass.coordinator.householdId_receive update.delivery
  obtain ⟨after, looked⟩ := follows.step event
  constructor
  · cases present : (hass.step event).added platform with
    | none =>
        refine ⟨[], List.nil_prefix, ?_⟩
        rw [entities, present]
        rfl
    | some added =>
        obtain ⟨nodeIds, discovered, covers⟩ := after platform added present
        refine ⟨nodeIds, discovered, ?_⟩
        rw [entities, present, ← home]
        exact covers.made
  · intro looks
    exact entities_of_covers (looked platform looks) (isSome_of_looks looks)

/-- At every step of every run, each platform has added the entities of the nodes that
were discovered first, once each and in that order, and of all nodes when it has just
looked. -/
theorem entities_follow_registry (coordinator : Coordinator) (events : List EntityEvent) :
    Along step (fun hass event => ∀ platform, Exact hass event platform) (start coordinator)
      events :=
  @Along.of_invariant _ _ step (fun _ _ => True) _ Follows
    (fun _ event follows _ => (follows.step event).1)
    (fun _ event follows _ platform => exact_of_follows follows event platform)
    (start coordinator) events (.start coordinator) (along_of_forall (fun _ _ => trivial) _)

/-! ### Ids -/

theorem mem_factory {householdId nodeId : String} {entity : NodeEntity} :
    entity ∈ platform.factory householdId nodeId ↔
      entity.entityType ∈ platform.entityTypes ∧ entity.nodeId = nodeId ∧
        entity.uniqueId = uniqueId householdId nodeId entity.entityType := by
  rw [EntityPlatform.factory, List.mem_map]
  constructor
  · rintro ⟨entityType, member, rfl⟩
    exact ⟨member, rfl, rfl⟩
  · rintro ⟨member, rfl, named⟩
    exact ⟨entity.entityType, member, by rw [← named]⟩

/-- Two platforms have no type of entity in common. -/
theorem entityTypes_disjoint {first second : EntityPlatform} (apart : first ≠ second) :
    first.entityTypes.Disjoint second.entityTypes := by
  have disjoint : ∀ one ∈ EntityPlatform.all, ∀ other ∈ EntityPlatform.all, one ≠ other →
      one.entityTypes.all fun entityType => !other.entityTypes.contains entityType := by decide
  have checked := disjoint first first.mem_all second second.mem_all apart
  intro entityType here there
  have absent := List.all_eq_true.mp checked entityType here
  rw [List.contains_iff_mem.mpr there] at absent
  cases absent

theorem entityTypes_nodup (platform : EntityPlatform) : platform.entityTypes.Nodup := by
  cases platform <;> decide

/-- The entities of distinct nodes on one platform are distinct. -/
theorem nodup_flatMap_factory (householdId : String) (platform : EntityPlatform)
    {nodeIds : List String} (distinct : nodeIds.Nodup) :
    (nodeIds.flatMap (platform.factory householdId)).Nodup := by
  rw [List.nodup_flatMap]
  constructor
  · intro nodeId _
    rw [EntityPlatform.factory]
    exact (entityTypes_nodup platform).map fun _ _ same => congrArg NodeEntity.entityType same
  · refine distinct.imp fun {one other} apart entity here there => apart ?_
    exact (mem_factory.mp here).2.1.symm.trans (mem_factory.mp there).2.1

/-- In no run do two entities of an entry get the same unique id, on one platform or on
two. -/
theorem uniqueIds_nodup (coordinator : Coordinator) (events : List EntityEvent) :
    ((EntityPlatform.all.flatMap (run step (start coordinator) events).entities).map
      NodeEntity.uniqueId).Nodup := by
  have follows : Follows (run step (start coordinator) events) :=
    run_keeps (fun _ event follows => (follows.step event).1) (.start coordinator) events
  generalize run step (start coordinator) events = hass at follows
  have made : ∀ platform, ∃ nodeIds : List String, nodeIds.Nodup ∧
      hass.entities platform = nodeIds.flatMap (platform.factory hass.coordinator.householdId) := by
    intro platform
    rw [entities]
    cases present : hass.added platform with
    | none => exact ⟨[], List.nodup_nil, rfl⟩
    | some added =>
        obtain ⟨nodeIds, discovered, covers⟩ := follows platform added present
        exact ⟨nodeIds, hass.coordinator.registry_nodup.sublist discovered.sublist, covers.made⟩
  have known : ∀ platform, ∀ entity ∈ hass.entities platform,
      entity.entityType ∈ platform.entityTypes ∧
        entity.uniqueId = uniqueId hass.coordinator.householdId entity.nodeId entity.entityType := by
    intro platform entity member
    obtain ⟨nodeIds, -, whole⟩ := made platform
    rw [whole, List.mem_flatMap] at member
    obtain ⟨nodeId, -, member⟩ := member
    obtain ⟨type, rfl, named⟩ := mem_factory.mp member
    exact ⟨type, named⟩
  refine List.Nodup.map_on ?_ ?_
  · -- An id names its node and its type, and they are all there is to an entity.
    intro first one second other same
    obtain ⟨onePlatform, -, one⟩ := List.mem_flatMap.mp one
    obtain ⟨otherPlatform, -, other⟩ := List.mem_flatMap.mp other
    have here := (known onePlatform first one).2
    have there := (known otherPlatform second other).2
    obtain ⟨node, type⟩ := uniqueId_injective_in_household _ (here.symm.trans (same.trans there))
    obtain ⟨firstNode, firstType, firstId⟩ := first
    obtain ⟨secondNode, secondType, secondId⟩ := second
    dsimp only at node type same
    rw [node, type, same]
  · rw [List.nodup_flatMap]
    constructor
    · intro platform _
      obtain ⟨nodeIds, distinct, whole⟩ := made platform
      rw [whole]
      exact nodup_flatMap_factory _ platform distinct
    · have distinct : EntityPlatform.all.Nodup := by decide
      refine distinct.imp fun {one other} apart entity here there => ?_
      exact entityTypes_disjoint apart (known one entity here).1 (known other entity there).1

end EntityHass

end HomeKeyHousehold
