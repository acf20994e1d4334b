import HomeKeyHousehold.DeliveryOrder
import HomeKeyHousehold.Unloading

/-!
# Enumerated sensors and their options

Four sensors of a node declare the values they may have.  Three of them read
values that the parsers check; the health sensor reads the `mqtt` field of the
health document, which is any text that is not empty.
-/

namespace HomeKeyHousehold

open Library

/-! ## The sensors -/

def healthOptions : List String := ["OK", "ERROR"]
def securityOptions : List String := ["OK", "WARNING", "ERROR"]
def backupOptions : List String := ["completed", "failed"]
def lastAuthOptions : List String := ["SUCCESS", "FAILURE"]

/-- What a sensor shows of a node, and what it declares. -/
structure EnumSensor where
  valueFn : Node → Option String
  options : List String

def HomeKeyHealthSensor : EnumSensor where
  valueFn node := node.health.map NodeHealth.mqtt
  options := healthOptions

/-- The last backup's status, and before any the status the node published. -/
def HomeKeyBackupSensor : EnumSensor where
  valueFn node :=
    match node.backup with
    | some backup => some backup.status.spelling
    | none => node.backupStatus.map BackupOutcome.spelling
  options := backupOptions

def HomeKeySecuritySensor : EnumSensor where
  valueFn node := node.security.map SecurityState.spelling
  options := securityOptions

def HomeKeyLastAuthSensor : EnumSensor where
  valueFn node := node.lastAuth.map fun auth => auth.result.spelling
  options := lastAuthOptions

/-- The enumerated sensors of a node. -/
def enumSensors : List EnumSensor :=
  [HomeKeyHealthSensor, HomeKeyBackupSensor, HomeKeySecuritySensor, HomeKeyLastAuthSensor]

namespace EnumSensor

/-- `native_value`, `None` for an unknown node. -/
def nativeValue (sensor : EnumSensor) (coordinator : Coordinator) (nodeId : String) :
    Option String :=
  (coordinator.getNode nodeId).bind sensor.valueFn

/-- No value, or one of the options: anything else raises when it is written. -/
def Allows (sensor : EnumSensor) (value : Option String) : Prop :=
  ∀ text ∈ value, text ∈ sensor.options

end EnumSensor

/-- A record whose health snapshot shows an option. -/
def Node.ShowsOption (node : Node) : Prop := ∀ health ∈ node.health, health.mqtt ∈ healthOptions

/-- The parsers leave only the health sensor a choice. -/
theorem allows_valueFn_iff {node : Node} :
    (∀ sensor ∈ enumSensors, sensor.Allows (sensor.valueFn node)) ↔ node.ShowsOption := by
  constructor
  · intro allowed health known
    exact allowed HomeKeyHealthSensor List.mem_cons_self _ (Option.mem_map_of_mem _ known)
  · intro shows sensor listed text shown
    simp only [enumSensors, List.mem_cons, List.not_mem_nil, or_false] at listed
    rcases listed with rfl | rfl | rfl | rfl
    · obtain ⟨health, known, rfl⟩ := Option.mem_map.mp shown
      exact shows health known
    · rw [HomeKeyBackupSensor] at shown
      dsimp only at shown
      split at shown
      · next backup _ =>
          cases shown
          cases backup.status <;> decide
      · obtain ⟨status, -, rfl⟩ := Option.mem_map.mp shown
        cases status <;> decide
    · obtain ⟨security, -, rfl⟩ := Option.mem_map.mp shown
      cases security <;> decide
    · obtain ⟨auth, -, rfl⟩ := Option.mem_map.mp shown
      cases auth.result <;> decide

/-! ## What a message does -/

/-- A message of a household reports a health snapshot of a node. -/
structure ReportsHealth (householdId nodeId : String) (message : HomeKeyMessage)
    (health : NodeHealth) : Prop where
  home : message.householdId = householdId
  named : Coordinator.namedNode message = some nodeId
  subtopic : message.subtopic = Subtopic.health.spelling
  parsed : ∃ payload, Json.loads message.payload = some payload ∧
    NodeHealth.fromDict payload householdId nodeId = .ok health

namespace Node

variable {householdId nodeId : String} {message : HomeKeyMessage} {health : NodeHealth}

/-- A message on the health topic says what its document does. -/
theorem ofMessage_health (spelled : message.subtopic = Subtopic.health.spelling) :
    Report.ofMessage householdId nodeId message =
      match Json.loads message.payload with
      | some payload =>
          .ofResult .mention (NodeHealth.fromDict payload householdId nodeId) .health
      | none => .silence := by
  rw [Report.ofMessage, spelled, Subtopic.ofString?_spelling]
  dsimp only
  rw [if_pos (by decide : Subtopic.health.isJson = true), Coordinator.decodeJson]
  cases Json.loads message.payload with
  | none => rfl
  | some payload => rfl

/-- Only an accepted health document is a health report. -/
theorem ofMessage_eq_health_iff :
    Report.ofMessage householdId nodeId message = .health health ↔
      message.subtopic = Subtopic.health.spelling ∧
        ∃ payload, Json.loads message.payload = some payload ∧
          NodeHealth.fromDict payload householdId nodeId = .ok health := by
  constructor
  · intro said
    have spelled : message.subtopic = Subtopic.health.spelling :=
      Report.kind_ofMessage (congrArg Report.kind said)
    refine ⟨spelled, ?_⟩
    rw [ofMessage_health spelled] at said
    cases loaded : Json.loads message.payload with
    | none =>
        rw [loaded] at said
        cases said
    | some payload =>
        rw [loaded] at said
        refine ⟨payload, rfl, ?_⟩
        cases parsed : NodeHealth.fromDict payload householdId nodeId with
        | error reason => simp [parsed, Report.ofResult] at said
        | ok value =>
            simp only [parsed, Report.ofResult] at said
            rw [Report.health.inj said]
  · rintro ⟨spelled, payload, loaded, parsed⟩
    rw [ofMessage_health spelled, loaded]
    dsimp only
    rw [parsed, Report.ofResult]

/-- A report that is no health snapshot leaves the snapshot there is. -/
theorem health_note (env : Env) (node : Node) (report : Report) :
    (node.note env report).health = match report with
      | .health health => some health
      | _ => node.health := by
  cases report with
  | lockLast change => rw [note, withEvent_eq]
  | silence | mention | lastWill | identity | status | health | security | backupStatus
  | backupLast | lastAuth | guestStatus => rfl

/-- A node that becomes known has the snapshot of the report that registers it. -/
theorem health_hear (record : Option Node) (heard : Env × Report) :
    (hear householdId nodeId record heard).bind Node.health = match heard.2 with
      | .health health => some health
      | _ => record.bind Node.health := by
  obtain ⟨env, report⟩ := heard
  cases record with
  | some node => exact health_note env node report
  | none =>
      have blank := health_note env (ofId householdId nodeId) report
      cases report with
      | silence | lastWill => rfl
      | mention | identity | status | health | lockLast | security | backupStatus | backupLast
      | lastAuth | guestStatus => exact blank

end Node

namespace Coordinator

variable {householdId nodeId : String} {coordinator : Coordinator} {delivery : Delivery}
variable {health : NodeHealth}

theorem reportsHealth_iff :
    ReportsHealth householdId nodeId delivery.message health ↔
      reaches householdId nodeId delivery = true ∧
        Node.Report.ofMessage householdId nodeId delivery.message = .health health := by
  rw [Node.ofMessage_eq_health_iff, reaches, decide_eq_true_iff]
  constructor
  · rintro ⟨home, named, subtopic, parsed⟩
    exact ⟨⟨home, named⟩, subtopic, parsed⟩
  · rintro ⟨⟨home, named⟩, subtopic, parsed⟩
    exact ⟨home, named, subtopic, parsed⟩

/-- The health snapshot of a node, if there is one. -/
def healthOf (coordinator : Coordinator) (nodeId : String) : Option NodeHealth :=
  (coordinator.getNode nodeId).bind Node.health

/-- After a message about a node its snapshot is what the message reports, or what
it was before. -/
theorem healthOf_receive_of_reaches
    (reached : reaches coordinator.householdId nodeId delivery = true) :
    (coordinator.receive delivery).healthOf nodeId =
      match Node.Report.ofMessage coordinator.householdId nodeId delivery.message with
      | .health health => some health
      | _ => coordinator.healthOf nodeId := by
  have learnt : Node.learn delivery.env coordinator.householdId nodeId
      (coordinator.getNode nodeId) delivery.message =
      Node.hear coordinator.householdId nodeId (coordinator.getNode nodeId)
        (delivery.env, .ofMessage coordinator.householdId nodeId delivery.message) := by
    cases known : coordinator.getNode nodeId with
    | some node =>
        have named : node.nodeId = nodeId := Keyed.key_of_get? known
        rw [Node.learn, Node.receive_eq_note, named]
        rfl
    | none =>
        rw [Node.learn, Node.registers_eq, Node.receive_eq_note]
        rfl
  rw [healthOf, getNode_receive, if_pos reached, learnt, Node.health_hear]
  rfl

/-- A message brings a snapshot to a node exactly by reporting it. -/
theorem healthOf_receive_of_reports
    (reports : ReportsHealth coordinator.householdId nodeId delivery.message health) :
    (coordinator.receive delivery).healthOf nodeId = some health := by
  obtain ⟨reached, said⟩ := reportsHealth_iff.mp reports
  rw [healthOf_receive_of_reaches reached, said]

theorem mem_healthOf_receive (has : health ∈ (coordinator.receive delivery).healthOf nodeId) :
    ReportsHealth coordinator.householdId nodeId delivery.message health ∨
      health ∈ coordinator.healthOf nodeId := by
  cases reached : reaches coordinator.householdId nodeId delivery with
  | false =>
      rw [healthOf, getNode_receive, reached] at has
      exact Or.inr has
  | true =>
      rw [healthOf_receive_of_reaches reached] at has
      split at has
      · next said =>
          cases has
          exact Or.inl (reportsHealth_iff.mpr ⟨reached, said⟩)
      · exact Or.inr has

/-! ## Runs -/

/-- Every node that has a snapshot shows an option. -/
def ShowsOptions (coordinator : Coordinator) : Prop :=
  ∀ nodeId, ∀ health ∈ coordinator.healthOf nodeId, health.mqtt ∈ healthOptions

/-- Every enumerated sensor of every node has no value or one of its options. -/
def SensorsAllowed (coordinator : Coordinator) : Prop :=
  ∀ nodeId, ∀ sensor ∈ enumSensors, sensor.Allows (sensor.nativeValue coordinator nodeId)

theorem sensorsAllowed_iff (coordinator : Coordinator) :
    coordinator.SensorsAllowed ↔ coordinator.ShowsOptions := by
  refine forall_congr' fun nodeId => ?_
  rw [healthOf]
  unfold EnumSensor.nativeValue
  cases coordinator.getNode nodeId with
  | none =>
      exact iff_of_true (fun sensor _ text shown => by cases shown) fun _ none => by cases none
  | some node => exact allows_valueFn_iff

/-- What befalls the coordinator of an entry: the messages of its transport, a
reload of the entry, which reattaches the pool, and a start without one. -/
inductive Event where
  | deliver (delivery : Delivery)
  | reload
  | restart

def happen (coordinator : Coordinator) : Event → Coordinator
  | .deliver delivery => coordinator.receive delivery
  | .reload => .new coordinator.householdId coordinator.pool
  | .restart => .new coordinator.householdId

/-- A health document that is accepted reports one of the documented states. -/
def Event.Documented (householdId : String) : Event → Prop
  | .deliver delivery => ∀ nodeId health,
      ReportsHealth householdId nodeId delivery.message health → health.mqtt ∈ healthOptions
  | .reload | .restart => True

theorem householdId_happen (coordinator : Coordinator) (event : Event) :
    (coordinator.happen event).householdId = coordinator.householdId := by
  cases event with
  | deliver delivery => exact householdId_receive coordinator delivery
  | reload | restart => rfl

/-- What is shown, and what a reload would show. -/
structure OptionsKept (coordinator : Coordinator) : Prop where
  shown : coordinator.ShowsOptions
  pooled : ∀ pool ∈ coordinator.pool, ∀ nodeId, ∀ node ∈ pool.get? nodeId, node.ShowsOption

theorem optionsKept_new (householdId : String) {pool : Option (Keyed Node.nodeId)}
    (pooled : ∀ nodes ∈ pool, ∀ nodeId, ∀ node ∈ nodes.get? nodeId, node.ShowsOption) :
    (new householdId pool).OptionsKept := by
  refine ⟨?_, pooled⟩
  cases pool with
  | none =>
      intro nodeId node unknown
      cases unknown
  | some nodes =>
      intro nodeId health has
      obtain ⟨node, known, same⟩ := Option.mem_bind_iff.mp has
      exact pooled nodes rfl nodeId node known health same

theorem showsOptions_receive (shown : coordinator.ShowsOptions)
    (documented : (Event.deliver delivery).Documented coordinator.householdId) :
    (coordinator.receive delivery).ShowsOptions := by
  intro nodeId health has
  rcases mem_healthOf_receive has with reports | before
  · exact documented nodeId health reports
  · exact shown nodeId health before

/-- One event keeps the options when it brings no other value. -/
theorem OptionsKept.happen (kept : coordinator.OptionsKept) {event : Event}
    (documented : event.Documented coordinator.householdId) :
    (coordinator.happen event).OptionsKept := by
  cases event with
  | deliver delivery =>
      have shown := showsOptions_receive kept.shown documented
      refine ⟨shown, ?_⟩
      rcases pool_asyncHandleMessage delivery.env coordinator delivery.message with same | nodes
      · rw [Coordinator.happen, receive, same]
        exact kept.pooled
      · rw [Coordinator.happen, receive, nodes]
        rintro _ ⟨⟩ nodeId node known health has
        exact shown nodeId health (Option.mem_bind_iff.mpr ⟨node, known, has⟩)
  | reload => exact optionsKept_new coordinator.householdId kept.pooled
  | restart => exact optionsKept_new coordinator.householdId fun _ none => by cases none

theorem householdId_run (householdId : String) (events : List Event) :
    (run happen (new householdId) events).householdId = householdId :=
  @run_keeps _ _ happen (fun coordinator => coordinator.householdId = householdId)
    (fun coordinator event home => (householdId_happen coordinator event).trans home) _ rfl events

/-- Events that bring no other value keep the options. -/
theorem optionsKept_run {householdId : String} {events : List Event}
    (documented : ∀ event ∈ events, event.Documented householdId) :
    (run happen (new householdId) events).OptionsKept := by
  induction events using List.reverseRecOn with
  | nil => exact optionsKept_new householdId fun _ none => by cases none
  | append_singleton events event ih =>
      obtain ⟨earlier, last⟩ := List.forall_mem_append.mp documented
      rw [run_concat]
      apply (ih earlier).happen
      rw [householdId_run]
      exact last event List.mem_cons_self

/-- In every state that events lead to, the enumerated sensors of every node have no
value or one of their options, exactly when every health document that is accepted
reports a documented state. -/
theorem sensorsAllowed_reached_iff (householdId : String) (events : List Event) :
    (∀ before after, events = before ++ after →
        (run happen (new householdId) before).SensorsAllowed) ↔
      ∀ event ∈ events, event.Documented householdId := by
  constructor
  · intro allowed event arrived
    obtain ⟨before, after, split⟩ := List.append_of_mem arrived
    cases event with
    | reload | restart => trivial
    | deliver delivery =>
        intro nodeId health reports
        rw [← householdId_run householdId before] at reports
        have reached := allowed (before ++ [.deliver delivery]) after (by rw [split]; simp)
        rw [run_concat, sensorsAllowed_iff] at reached
        exact reached nodeId health (healthOf_receive_of_reports reports)
  · rintro documented before after rfl
    rw [sensorsAllowed_iff]
    exact (optionsKept_run (List.forall_mem_append.mp documented).1).shown

/-! ### A health document with another state -/

/-- A node reports its MQTT connection in a word of its own. -/
def degradedHealth : Delivery :=
  ⟨sampleEnv, .document "HOME001" "GATE-001" .health (.obj [("mqtt", .str "DEGRADED")]) false⟩

/-- What is read from the document. -/
def degradedSnapshot : NodeHealth where
  network := "UNKNOWN"
  mqtt := "DEGRADED"
  nfc := "unknown"
  certificate := "unknown"
  mqttError := none
  lockCurrent := none
  lockTarget := none
  backup := none
  firmwareVersion := none
  uptime := none
  freeHeap := none
  resetReason := none
  securityAllOk := none
  securityWarnings := none

theorem degradedHealth_reports :
    ReportsHealth "HOME001" "GATE-001" degradedHealth.message degradedSnapshot where
  home := rfl
  named := rfl
  subtopic := rfl
  parsed := ⟨_, Json.loads_dumps _, rfl⟩

/-- The document is accepted, and the health sensor has no such option. -/
theorem degradedHealth_not_allowed :
    ¬ ∀ (householdId : String) (events : List Event),
      (run happen (new householdId) events).SensorsAllowed := by
  intro allowed
  have reached := (sensorsAllowed_iff _).mp (allowed "HOME001" [.deliver degradedHealth])
  have shown := reached "GATE-001" degradedSnapshot
    (@healthOf_receive_of_reports "GATE-001" (new "HOME001") degradedHealth _
      degradedHealth_reports)
  exact absurd shown (by decide)

end Coordinator

end HomeKeyHousehold
