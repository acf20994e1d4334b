import HomeKeyHousehold.Record
import HomeKeyHousehold.Rejection

/-!
# Documents that name another node

Every document but the one about guests is checked against the topic it came on.
-/

namespace HomeKeyHousehold

open Library

/-! ## Guest documents -/

/-- A field is absent, null or of a kind. -/
def Optionally (kind : Json → Prop) (members : Dict) (key : String) : Prop :=
  Json.get members key = .null ∨ kind (Json.get members key)

def IsText (value : Json) : Prop := ∃ text, value = .str text

def IsFlag (value : Json) : Prop := ∃ flag, value = .bool flag

def IsNumber (value : Json) : Prop := ∃ number, value = .int number

/-- What `GuestTag.fromDict` accepts. -/
structure GuestTagDocument (members : Dict) : Prop where
  tagId : ∃ text, Json.get members "tag_id" = .str text ∧ text ≠ ""
  texts : ∀ key ∈ ["uid", "label"], Optionally IsText members key
  enabled : Optionally IsFlag members "enabled"
  numbers : ∀ key ∈ ["valid_from", "valid_until", "last_used_at", "use_count"],
    Optionally IsNumber members key

/-- What `GuestState.fromDict` accepts. -/
structure GuestDocument (members : Dict) : Prop where
  tags : Json.get members "tags" = .null ∨ ∃ items, Json.get members "tags" = .arr items ∧
    ∀ item ∈ items, ∃ tag, item = .obj tag ∧ GuestTagDocument tag
  enabled : Optionally IsFlag members "enabled"
  numbers : ∀ key ∈ ["default_validity_seconds", "capacity", "count", "wall_clock"],
    Optionally IsNumber members key
  write : ∀ write, Json.get members "write" = .obj write →
    (∀ key ∈ ["can_write", "armed"], Optionally IsFlag write key) ∧
      ∀ key ∈ ["last_result", "last_message"], Optionally IsText write key

section

variable {members : Dict} {key : String}

theorem optionalStr_ok_iff :
    (∃ value, optionalStr members key = .ok value) ↔ Optionally IsText members key := by
  rw [optionalStr, Optionally]
  cases Json.get members key with
  | null => exact iff_of_true ⟨none, rfl⟩ (Or.inl rfl)
  | str text => exact iff_of_true ⟨some text, rfl⟩ (Or.inr ⟨text, rfl⟩)
  | bool _ | int _ | float _ | arr _ | obj _ => simp [asOptionalStr, invalid, IsText]

theorem optionalBool_ok_iff :
    (∃ value, optionalBool members key = .ok value) ↔ Optionally IsFlag members key := by
  rw [optionalBool, Optionally]
  cases Json.get members key with
  | null => exact iff_of_true ⟨none, rfl⟩ (Or.inl rfl)
  | bool flag => exact iff_of_true ⟨some flag, rfl⟩ (Or.inr ⟨flag, rfl⟩)
  | str _ | int _ | float _ | arr _ | obj _ => simp [invalid, IsFlag]

theorem optionalInt_ok_iff :
    (∃ value, optionalInt members key = .ok value) ↔ Optionally IsNumber members key := by
  rw [optionalInt, Optionally]
  cases Json.get members key with
  | null => exact iff_of_true ⟨none, rfl⟩ (Or.inl rfl)
  | int number => exact iff_of_true ⟨some number, rfl⟩ (Or.inr ⟨number, rfl⟩)
  | str _ | bool _ | float _ | arr _ | obj _ => simp [invalid, IsNumber]

theorem requireStr_ok_iff :
    (∃ value, requireStr members key = .ok value) ↔
      ∃ text, Json.get members key = .str text ∧ text ≠ "" := by
  rw [requireStr]
  cases Json.get members key with
  | str text =>
      by_cases blank : text = ""
      · simp [blank, invalid]
      · simp [blank]
  | null | bool _ | int _ | float _ | arr _ | obj _ => simp [invalid]

/-- Reading goes on after each part that is read. -/
theorem exists_bind_ok {ε α β : Type} {first : Except ε α} {next : α → Except ε β} :
    (∃ result, (first >>= next) = .ok result) ↔
      ∃ value, first = .ok value ∧ ∃ result, next value = .ok result := by
  simp only [bind_eq_ok]
  constructor
  · rintro ⟨result, value, read, rest⟩
    exact ⟨value, read, result, rest⟩
  · rintro ⟨value, read, result, rest⟩
    exact ⟨result, value, read, rest⟩

theorem exists_pure_ok {ε α : Type} (value : α) :
    (∃ result, (pure value : Except ε α) = .ok result) ↔ True :=
  iff_of_true ⟨value, rfl⟩ trivial

/-- A list is read when each of its items is. -/
theorem mapM_ok_iff {ε α β : Type} {read : α → Except ε β} {items : List α} :
    (∃ values, items.mapM read = .ok values) ↔ ∀ item ∈ items, ∃ value, read item = .ok value := by
  induction items with
  | nil => exact iff_of_true ⟨[], rfl⟩ (by simp)
  | cons item rest ih =>
      rw [List.forall_mem_cons, ← ih]
      simp only [List.mapM_cons, bind_eq_ok]
      constructor
      · rintro ⟨values, value, first, others, later, -⟩
        exact ⟨⟨value, first⟩, others, later⟩
      · rintro ⟨⟨value, first⟩, others, later⟩
        exact ⟨value :: others, value, first, others, later, rfl⟩

theorem guestTag_ok_iff {item : Json} :
    (∃ tag, GuestTag.fromDict item = .ok tag) ↔
      ∃ members, item = .obj members ∧ GuestTagDocument members := by
  cases item with
  | obj members =>
      rw [GuestTag.fromDict]
      simp only [exists_bind_ok, exists_pure_ok, exists_and_right, optionalStr_ok_iff,
        optionalBool_ok_iff, optionalInt_ok_iff, requireStr_ok_iff, requireDict, Except.ok.injEq,
        exists_eq_left', and_true, Json.obj.injEq]
      constructor
      · rintro ⟨tagId, uid, label, enabled, validFrom, validUntil, lastUsedAt, useCount⟩
        refine ⟨tagId, ?_, enabled, ?_⟩
        · simp only [List.forall_mem_cons, List.not_mem_nil, false_implies, implies_true, and_true]
          exact ⟨uid, label⟩
        · simp only [List.forall_mem_cons, List.not_mem_nil, false_implies, implies_true, and_true]
          exact ⟨validFrom, validUntil, lastUsedAt, useCount⟩
      · intro document
        exact ⟨document.tagId, document.texts _ (by simp), document.texts _ (by simp),
          document.enabled, document.numbers _ (by simp), document.numbers _ (by simp),
          document.numbers _ (by simp), document.numbers _ (by simp)⟩
  | null | bool _ | int _ | float _ | str _ | arr _ =>
      refine iff_of_false ?_ (by simp)
      rintro ⟨tag, read⟩
      cases read

theorem guestTags_ok_iff :
    (∃ tags, guestTags members = .ok tags) ↔
      Json.get members "tags" = .null ∨ ∃ items, Json.get members "tags" = .arr items ∧
        ∀ item ∈ items, ∃ tag, item = .obj tag ∧ GuestTagDocument tag := by
  rw [guestTags]
  cases Json.get members "tags" with
  | null => exact iff_of_true ⟨[], rfl⟩ (Or.inl rfl)
  | arr items => simp [mapM_ok_iff, guestTag_ok_iff]
  | str _ | bool _ | int _ | float _ | obj _ => simp [invalid]

/-- The card writer's part is read when it is an object. -/
theorem guestWrite_forall_iff {kind : Json → Prop} :
    Optionally kind (guestWrite members) key ↔
      ∀ write, Json.get members "write" = .obj write → Optionally kind write key := by
  rw [guestWrite]
  cases Json.get members "write" with
  | obj write => simp
  | null | str _ | bool _ | int _ | float _ | arr _ => exact iff_of_true (Or.inl rfl) (by simp)

theorem guestState_ok_iff :
    (∃ guest, GuestState.fromDict (.obj members) = .ok guest) ↔ GuestDocument members := by
  rw [GuestState.fromDict]
  simp only [exists_bind_ok, exists_pure_ok, exists_and_right, optionalStr_ok_iff,
    optionalBool_ok_iff, optionalInt_ok_iff, guestTags_ok_iff, requireDict, Except.ok.injEq,
    exists_eq_left', and_true, guestWrite_forall_iff]
  constructor
  · rintro ⟨tags, canWrite, enabled, validity, capacity, count, clock, armed, result, message⟩
    refine ⟨tags, enabled, ?_, fun write found => ⟨?_, ?_⟩⟩
    · simp only [List.forall_mem_cons, List.not_mem_nil, false_implies, implies_true, and_true]
      exact ⟨validity, capacity, count, clock⟩
    · simp only [List.forall_mem_cons, List.not_mem_nil, false_implies, implies_true, and_true]
      exact ⟨canWrite write found, armed write found⟩
    · simp only [List.forall_mem_cons, List.not_mem_nil, false_implies, implies_true, and_true]
      exact ⟨result write found, message write found⟩
  · intro document
    refine ⟨document.tags, ?_, document.enabled, document.numbers _ (by simp),
      document.numbers _ (by simp), document.numbers _ (by simp), document.numbers _ (by simp),
      ?_, ?_, ?_⟩
    · exact fun write found => (document.write write found).1 _ (by simp)
    · exact fun write found => (document.write write found).1 _ (by simp)
    · exact fun write found => (document.write write found).2 _ (by simp)
    · exact fun write found => (document.write write found).2 _ (by simp)

end

/-! ## Identities -/

/-- A document contains an identity field that is not the topic's. -/
def Differs (members : Dict) (householdId nodeId : String) : Prop :=
  (∃ value, Json.lookup members "household_id" = some value ∧ value ≠ .str householdId) ∨
    ∃ value, Json.lookup members "node_id" = some value ∧ value ≠ .str nodeId

section

variable {members : Dict} {field expected place householdId nodeId : String}

/-- A field that is required is the topic's, whatever else it might hold. -/
theorem lookup_of_requireIdentityField
    (required : requireIdentityField members field expected place = .ok ()) {value : Json}
    (found : Json.lookup members field = some value) : value = .str expected := by
  obtain ⟨payload, read, same⟩ := bind_eq_ok.mp required
  have held : Json.get members field = value := by
    rw [Json.get, found, Option.getD_some]
  rw [requireStr, held] at read
  cases value with
  | str text =>
      dsimp only at read
      split at read
      · cases read
      · cases read
        split at same
        · next agrees => rw [agrees]
        · cases same
  | null | bool _ | int _ | float _ | arr _ | obj _ => cases read

theorem lookup_of_validateIdentityField
    (validated : validateIdentityField members field expected place = .ok ()) {value : Json}
    (found : Json.lookup members field = some value) : value = .str expected := by
  rw [validateIdentityField, found, Option.isSome_some, if_pos rfl] at validated
  exact lookup_of_requireIdentityField validated found

theorem validateIdentity_ne_ok (differs : Differs members householdId nodeId) :
    validateIdentity members householdId nodeId place ≠ .ok () := by
  intro validated
  obtain ⟨done, household, node⟩ := bind_eq_ok.mp validated
  rcases differs with ⟨value, found, other⟩ | ⟨value, found, other⟩
  · exact other (lookup_of_validateIdentityField household found)
  · exact other (lookup_of_validateIdentityField node found)

theorem requireIdentity_ne_ok (differs : Differs members householdId nodeId) :
    requireIdentity members householdId nodeId place ≠ .ok () := by
  intro required
  obtain ⟨done, household, node⟩ := bind_eq_ok.mp required
  rcases differs with ⟨value, found, other⟩ | ⟨value, found, other⟩
  · exact other (lookup_of_requireIdentityField household found)
  · exact other (lookup_of_requireIdentityField node found)

/-- What comes after a check that fails is not reached. -/
theorem checked_error {α : Type} {check : Dict → Validated Unit}
    {next : Dict → Unit → Validated α} (fails : check members ≠ .ok ()) :
    ∃ reason, (requireDict (.obj members) place >>= fun data => check data >>= next data) =
      .error reason := by
  have opened : (requireDict (.obj members) place >>= fun data => check data >>= next data) =
      (check members >>= next members) := rfl
  rw [opened]
  cases outcome : check members with
  | error reason => exact ⟨reason, rfl⟩
  | ok done => exact absurd outcome fails

end

namespace Coordinator

variable {env : Env} {coordinator : Coordinator} {nodeId : String} {members : Dict}

theorem orReject_error {α : Type} {result : Validated α} {accept : α → Coordinator}
    (failed : ∃ reason, result = .error reason) :
    (coordinator.orReject result accept).Rejected := by
  obtain ⟨reason, rfl⟩ := failed
  exact ⟨reason, rfl⟩

/-- Every branch rejects a document that names another node, but the one that
does not know the topic. -/
theorem rejected_handleJson {subtopic : Subtopic} (json : subtopic.isJson = true)
    (differs : Differs members coordinator.householdId nodeId)
    (checked : subtopic = .guestStatus → ¬ GuestDocument members) :
    (coordinator.handleJson env nodeId (.obj members) subtopic).Rejected := by
  cases subtopic with
  | state =>
      apply orReject_error
      obtain ⟨reason, failed⟩ : ∃ reason,
          NodeState.fromDict (.obj members) coordinator.householdId nodeId = .error reason :=
        checked_error (requireIdentity_ne_ok differs)
      exact ⟨reason, by rw [Node.fromState, failed]; rfl⟩
  | health =>
      apply orReject_error
      exact checked_error (validateIdentity_ne_ok differs)
  | backupLast =>
      apply orReject_error
      exact checked_error (validateIdentity_ne_ok differs)
  | lastAuth =>
      apply orReject_error
      exact checked_error (validateIdentity_ne_ok differs)
  | lockLast =>
      apply orReject_error
      exact checked_error (validateIdentity_ne_ok differs)
  | guestStatus =>
      apply orReject_error
      cases read : GuestState.fromDict (.obj members) with
      | error reason => exact ⟨reason, rfl⟩
      | ok guest => exact absurd (guestState_ok_iff.mp ⟨guest, read⟩) (checked rfl)
  | legacyStatus | status | security | backupStatus => cases json

/-- A message is refused: it is rejected, or dropped with its household, and the
record of its node stays as it was; a node that is new stays blank. -/
structure Refuses (env : Env) (coordinator : Coordinator) (message : HomeKeyMessage)
    (nodeId : String) : Prop where
  rejected : message.householdId = coordinator.householdId →
    (coordinator.asyncHandleMessage env message).Rejected
  unchanged : ∀ node, coordinator.getNode nodeId = some node →
    (coordinator.asyncHandleMessage env message).coordinator.getNode nodeId = some node
  blank : coordinator.getNode nodeId = none → ∀ node,
    (coordinator.asyncHandleMessage env message).coordinator.getNode nodeId = some node →
      node = Node.ofId coordinator.householdId nodeId

variable {message : HomeKeyMessage} {subtopic : Subtopic}

theorem refuses_of_rejected {payload : Json}
    (handled : coordinator.asyncHandleMessage env message =
      coordinator.handleJson env nodeId payload subtopic)
    (rejected : (coordinator.handleJson env nodeId payload subtopic).Rejected) :
    Refuses env coordinator message nodeId := by
  have left := coordinator_of_handleJson rejected
  rw [← handled] at left rejected
  refine ⟨fun _ => rejected, ?_, ?_⟩
  · intro node known
    rw [left]
    split
    · rw [getNode_ensureNode_self, ensureNode_of_known known]
    · exact known
  · intro unknown node found
    rw [left] at found
    split at found
    · rw [getNode_ensureNode_self, ensureNode, unknown] at found
      exact (Option.some.inj found).symm
    · rw [unknown] at found
      cases found

/-- A document that names another node than its topic is refused exactly when it
is no guest document that reads well. -/
theorem refuses_iff (env : Env) (coordinator : Coordinator) (message : HomeKeyMessage)
    (subtopic : Subtopic) (nodeId : String) (members : Dict)
    (addressed : message.nodeId = some nodeId) (named : nodeId ≠ "")
    (spelled : message.subtopic = subtopic.spelling) (json : subtopic.isJson = true)
    (loaded : Json.loads message.payload = some (.obj members))
    (differs : Differs members message.householdId nodeId) :
    Refuses env coordinator message nodeId ↔
      (message.householdId = coordinator.householdId → subtopic = .guestStatus →
        ¬ GuestDocument members) := by
  by_cases home : message.householdId = coordinator.householdId
  · have handled := asyncHandleMessage_json env home addressed named spelled json loaded
    constructor
    · rintro refuses - rfl document
      obtain ⟨reason, raised⟩ := refuses.rejected home
      obtain ⟨guest, read⟩ := guestState_ok_iff.mpr document
      rw [handled, handleJson, handleGuestStatus, read] at raised
      dsimp only [orReject, Handled.finish, finishUpdate] at raised
      split at raised
      · cases raised
      · cases raised
    · intro checked
      rw [home] at differs
      have rejected : (coordinator.handleJson env nodeId (.obj members) subtopic).Rejected :=
        rejected_handleJson json differs (checked home)
      obtain ⟨reason, raised⟩ := rejected
      apply refuses_of_rejected _ ⟨reason, raised⟩
      rw [handled, Handled.finish, raised]
  · have dropped : coordinator.asyncHandleMessage env message = ⟨coordinator, none⟩ := by
      rw [asyncHandleMessage, if_neg home]
    refine iff_of_true ⟨fun same => absurd same home, ?_, ?_⟩ fun same => absurd same home
    · intro node known
      rw [dropped]
      exact known
    · intro unknown node found
      rw [dropped, unknown] at found
      cases found

/-- A health document of another node. -/
def strayHealth : HomeKeyMessage :=
  .document "HOME001" "GATE-001" .health (.obj [("node_id", .str "GATE-002")]) false

/-- A document of another node is refused whatever else it contains. -/
theorem strayHealth_refused : Refuses sampleEnv (new "HOME001") strayHealth "GATE-001" :=
  (refuses_iff sampleEnv (new "HOME001") strayHealth .health "GATE-001"
    [("node_id", .str "GATE-002")] rfl (by decide) rfl rfl (Json.loads_dumps _)
    (Or.inr ⟨.str "GATE-002", rfl, by simp⟩)).mpr fun _ guest => by cases guest

/-- A guest document of another household. -/
def strayGuest : HomeKeyMessage :=
  .document "HOME001" "GATE-001" .guestStatus (.obj [("household_id", .str "HOME002")]) true

/-- A guest document of another household is accepted. -/
theorem strayGuest_accepted :
    ¬ ∀ (env : Env) (coordinator : Coordinator) (message : HomeKeyMessage)
        (subtopic : Subtopic) (nodeId : String) (members : Dict),
      message.nodeId = some nodeId → nodeId ≠ "" → message.subtopic = subtopic.spelling →
      subtopic.isJson = true → Json.loads message.payload = some (.obj members) →
      Differs members message.householdId nodeId → Refuses env coordinator message nodeId := by
  intro every
  have foreign : Json.str "HOME002" ≠ .str "HOME001" := by simp
  have refuses := every sampleEnv (new "HOME001") strayGuest .guestStatus "GATE-001"
    [("household_id", .str "HOME002")] rfl (by decide) rfl rfl (Json.loads_dumps _)
    (Or.inl ⟨.str "HOME002", rfl, foreign⟩)
  obtain ⟨reason, raised⟩ := refuses.rejected rfl
  rw [@asyncHandleMessage_json (new "HOME001") "GATE-001" strayGuest .guestStatus sampleEnv rfl rfl
    (by decide) rfl rfl _ (Json.loads_dumps _)] at raised
  cases raised

end Coordinator

end HomeKeyHousehold
