import HomeKeyHousehold.Record
import HomeKeyHousehold.Rejection

/-!
# State documents over a known record

Name, role and state of a node get their defaults when the document is parsed, so
that the merge cannot tell an omitted field from one that carries its default.
Generation and firmware stay empty when they are omitted, and only they are kept.
-/

namespace HomeKeyHousehold

open Library

/-- The text a field carries; null carries none, like a field that is omitted. -/
def givenText (members : Dict) (key : String) : Option String :=
  match Json.get members key with
  | .str text => some text
  | _ => none

def givenNumber (members : Dict) (key : String) : Option Int :=
  match Json.get members key with
  | .int number => some number
  | _ => none

/-- What the documents promise of a state document: a record takes the fields it
carries, and keeps those it omits and all others. -/
structure MergedState (members : Dict) (before after : Node) : Prop where
  nodeName : after.nodeName = (givenText members "node_name").getD before.nodeName
  nodeRole : after.nodeRole = (givenText members "node_role").getD before.nodeRole
  nodeState : after.nodeState = (givenText members "node_state").getD before.nodeState
  generation : after.generation = (givenNumber members "generation").or before.generation
  firmware : after.firmware = (givenText members "firmware_version").or before.firmware
  others : after =
    { before with
      nodeName := after.nodeName
      nodeRole := after.nodeRole
      nodeState := after.nodeState
      generation := after.generation
      firmware := after.firmware }

/-- A field is carried with some text, or omitted while its default is on record. -/
def GivenOrDefault (carried : Option String) (known default : String) : Prop :=
  match carried with
  | some text => text ≠ ""
  | none => known = default

instance (carried : Option String) (known default : String) :
    Decidable (GivenOrDefault carried known default) := by
  unfold GivenOrDefault
  cases carried <;> infer_instance

theorem givenText_of_optionalStr {members : Dict} {key : String} {value : Option String}
    (read : optionalStr members key = .ok value) : givenText members key = value := by
  rw [optionalStr] at read
  rw [givenText]
  cases field : Json.get members key <;> rw [field] at read <;> cases read <;> rfl

theorem givenNumber_of_optionalInt {members : Dict} {key : String} {value : Option Int}
    (read : optionalInt members key = .ok value) : givenNumber members key = value := by
  rw [optionalInt] at read
  rw [givenNumber]
  cases field : Json.get members key <;> rw [field] at read <;> cases read <;> rfl

/-- What an accepted document is parsed to. -/
theorem NodeState.fromDict_ok {members : Dict} {householdId nodeId : String} {state : NodeState}
    (parsed : NodeState.fromDict (.obj members) householdId nodeId = .ok state) :
    state =
      { householdId
        nodeId
        nodeName := orDefault (givenText members "node_name") nodeId
        nodeRole := orDefault (givenText members "node_role") nodeRoleOther
        nodeState := orDefault (givenText members "node_state") "UNKNOWN"
        generation := givenNumber members "generation"
        firmwareVersion := givenText members "firmware_version" } := by
  unfold NodeState.fromDict at parsed
  obtain ⟨data, object, parsed⟩ := bind_eq_ok.mp parsed
  cases object
  obtain ⟨-, -, parsed⟩ := bind_eq_ok.mp parsed
  obtain ⟨nodeName, readName, parsed⟩ := bind_eq_ok.mp parsed
  obtain ⟨nodeRole, readRole, parsed⟩ := bind_eq_ok.mp parsed
  obtain ⟨nodeState, readState, parsed⟩ := bind_eq_ok.mp parsed
  obtain ⟨generation, readGeneration, parsed⟩ := bind_eq_ok.mp parsed
  obtain ⟨firmwareVersion, readFirmware, parsed⟩ := bind_eq_ok.mp parsed
  cases parsed
  rw [givenText_of_optionalStr readName, givenText_of_optionalStr readRole,
    givenText_of_optionalStr readState, givenNumber_of_optionalInt readGeneration,
    givenText_of_optionalStr readFirmware]

/-- The record an accepted document describes by itself. -/
theorem Node.fromState_of_accepted {members : Dict} {householdId nodeId : String}
    (accepted : (NodeState.fromDict (.obj members) householdId nodeId).isOk = true) :
    Node.fromState householdId nodeId (.obj members) =
      .ok
        { nodeId
          householdId
          nodeName := orDefault (givenText members "node_name") nodeId
          nodeRole := orDefault (givenText members "node_role") nodeRoleOther
          nodeState := orDefault (givenText members "node_state") "UNKNOWN"
          generation := givenNumber members "generation"
          firmware := givenText members "firmware_version" } := by
  cases parsed : NodeState.fromDict (.obj members) householdId nodeId with
  | error reason =>
      rw [parsed] at accepted
      cases accepted
  | ok state =>
      have fields := NodeState.fromDict_ok parsed
      rw [Node.fromState, parsed, fields]
      rfl

/-- A default that is not empty replaces what an omitted field should keep. -/
theorem orDefault_eq_getD_iff {carried : Option String} {known default : String}
    (filled : default ≠ "") :
    orDefault carried default = carried.getD known ↔ GivenOrDefault carried known default := by
  cases carried with
  | none => exact eq_comm
  | some text =>
      rw [orDefault, GivenOrDefault, Option.getD_some]
      split
      · next empty =>
          rw [empty]
          exact iff_of_false filled (fun given => given rfl)
      · next given => exact iff_of_true rfl given

/-- A document is merged as promised exactly when each of the three fields with a
default is given, or omitted while its default is on record. -/
theorem mergedState_afterJson_iff (env : Env) {members : Dict} {householdId : String}
    {node : Node} (named : node.nodeId ≠ "")
    (accepted : (NodeState.fromDict (.obj members) householdId node.nodeId).isOk = true) :
    MergedState members node (node.afterJson env householdId (.obj members) .state) ↔
      GivenOrDefault (givenText members "node_name") node.nodeName node.nodeId ∧
      GivenOrDefault (givenText members "node_role") node.nodeRole nodeRoleOther ∧
      GivenOrDefault (givenText members "node_state") node.nodeState "UNKNOWN" := by
  rw [Node.afterJson, Node.fromState_of_accepted accepted, ← orDefault_eq_getD_iff named,
    ← orDefault_eq_getD_iff (by decide : nodeRoleOther ≠ ""),
    ← orDefault_eq_getD_iff (by decide : "UNKNOWN" ≠ "")]
  constructor
  · intro merged
    exact ⟨merged.nodeName, merged.nodeRole, merged.nodeState⟩
  · rintro ⟨nodeName, nodeRole, nodeState⟩
    exact
      { nodeName
        nodeRole
        nodeState
        generation := by cases givenNumber members "generation" <;> rfl
        firmware := by cases givenText members "firmware_version" <;> rfl
        others := rfl }

/-! ## Messages -/

namespace Coordinator

/-- An accepted state document of a known node is merged as promised exactly when it
gives its name, role and state, or omits them while their defaults are on record. -/
theorem state_merged_iff (env : Env) {coordinator : Coordinator} {message : HomeKeyMessage}
    {nodeId : String} {members : Dict} {before : Node}
    (home : message.householdId = coordinator.householdId)
    (named : namedNode message = some nodeId)
    (state : message.subtopic = Subtopic.state.spelling)
    (document : decodeJson message.payload = .ok (.obj members))
    (accepted : (NodeState.fromDict (.obj members) coordinator.householdId nodeId).isOk = true)
    (known : coordinator.getNode nodeId = some before) :
    (∃ after, (coordinator.asyncHandleMessage env message).coordinator.getNode nodeId =
        some after ∧ MergedState members before after) ↔
      GivenOrDefault (givenText members "node_name") before.nodeName nodeId ∧
      GivenOrDefault (givenText members "node_role") before.nodeRole nodeRoleOther ∧
      GivenOrDefault (givenText members "node_state") before.nodeState "UNKNOWN" := by
  have same : before.nodeId = nodeId := Keyed.key_of_get? known
  have received : before.receive env coordinator.householdId message =
      before.afterJson env coordinator.householdId (.obj members) .state := by
    have json : Subtopic.state.isJson = true := rfl
    unfold Node.receive
    rw [state, Subtopic.ofString?_spelling]
    dsimp only
    rw [if_pos json, document]
  have filled : nodeId ≠ "" := by
    obtain ⟨-, given⟩ := Option.filter_eq_some_iff.mp named
    simpa using given
  subst same
  rw [getNode_asyncHandleMessage env home known named, received,
    ← mergedState_afterJson_iff env filled accepted]
  exact ⟨fun ⟨after, made, merged⟩ => Option.some.inj made ▸ merged,
    fun merged => ⟨_, rfl, merged⟩⟩

/-- A node that was given a name. -/
def frontGate : Node := { Node.ofId "HOME001" "GATE-001" with nodeName := "Front gate" }

def frontGateKnown : Coordinator := (Coordinator.new "HOME001").putNode frontGate

theorem getNode_frontGateKnown : frontGateKnown.getNode "GATE-001" = some frontGate :=
  getNode_putNode_self _ rfl

/-- A document that says no more than the state. -/
def bareState : Dict :=
  [("household_id", .str "HOME001"), ("node_id", .str "GATE-001"), ("node_state", .str "READY")]

def bareStateMessage : HomeKeyMessage :=
  .document "HOME001" "GATE-001" .state (.obj bareState) true

theorem decodeJson_bareStateMessage :
    decodeJson bareStateMessage.payload = .ok (.obj bareState) := by
  rw [decodeJson, bareStateMessage, HomeKeyMessage.document, Json.loads_dumps]

theorem frontGate_merged_iff :
    (∃ after, (frontGateKnown.asyncHandleMessage sampleEnv bareStateMessage).coordinator.getNode
        "GATE-001" = some after ∧ MergedState bareState frontGate after) ↔
      GivenOrDefault none "Front gate" "GATE-001" ∧
        GivenOrDefault none nodeRoleOther nodeRoleOther ∧
        GivenOrDefault (some "READY") "UNKNOWN" "UNKNOWN" :=
  state_merged_iff sampleEnv rfl rfl rfl decodeJson_bareStateMessage rfl getNode_frontGateKnown

/-- The omitted name is not kept: the node goes by its id again. -/
theorem frontGate_loses_name :
    ¬ ∃ after, (frontGateKnown.asyncHandleMessage sampleEnv bareStateMessage).coordinator.getNode
        "GATE-001" = some after ∧ MergedState bareState frontGate after := by
  rintro ⟨after, made, merged⟩
  have received : frontGate.receive sampleEnv "HOME001" bareStateMessage =
      frontGate.afterJson sampleEnv "HOME001" (.obj bareState) .state :=
    Node.receive_document sampleEnv frontGate rfl _ _ _ _ true
  rw [getNode_asyncHandleMessage sampleEnv rfl getNode_frontGateKnown rfl] at made
  change some (frontGate.receive sampleEnv "HOME001" bareStateMessage) = some after at made
  rw [received, Option.some.injEq] at made
  rw [← made] at merged
  obtain ⟨named, -, -⟩ := (mergedState_afterJson_iff sampleEnv (by decide) rfl).mp merged
  exact absurd named (by decide)

end Coordinator

end HomeKeyHousehold
