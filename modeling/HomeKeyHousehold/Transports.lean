import HomeKeyHousehold.Feeds
import HomeKeyHousehold.Naming

/-!
# One response over both transports

A direct response is filtered and rewritten on its way to the parsers that MQTT
payloads reach as they are.  Most of what is left out would have been rejected
anyway; the exceptions are plain values in another spelling, and the sentinel
for a lock that was not read.
-/

namespace HomeKeyHousehold

open Library

/-! ## When they agree -/

/-- The response has nothing that only one of the transports takes to the record. -/
structure Alike (record : Node) (state health : Dict) (householdId nodeId : String) : Prop where
  /-- The result of an authorisation can be looked up among the results. -/
  hashable : ∀ members, Json.get state "last_auth" = .obj members →
    (Json.get members "result").hashable = true
  /-- No reading is the sentinel; or the health document is refused as it is, and
  what is left of it without the sentinel is refused or on record already. -/
  readings :
    readingReported health "lock_current" = true ∧ readingReported health "lock_target" = true ∨
      (NodeHealth.fromDict (.obj health) householdId nodeId).isOk = false ∧
        ∀ left, NodeHealth.fromDict (.obj (withoutSentinel health)) householdId nodeId = .ok left →
          record.health = some left ∧ record.lockChangeIsFresh = false ∧
            (LockChange.fromDict (Json.get state "lock_last") householdId nodeId).isOk = false
  /-- A security value is in the contract's spelling, or on record already. -/
  security : ∀ text value, Json.get state "security" = .str text →
    Coordinator.parseSecurity text = .ok value →
      text = value.spelling ∨ record.security = some value
  /-- A backup outcome is in the contract's spelling, or on record already. -/
  backupStatus : ∀ text outcome, Json.get state "backup_status" = .str text →
    Coordinator.parseBackupStatus text = .ok outcome →
      text = outcome.spelling ∨ record.backupStatus = some outcome

section

variable {state health : Dict} {householdId nodeId : String} {node : Node}

theorem lastAuthMessages_isOk_iff :
    (∃ messages, lastAuthMessages state householdId nodeId = .ok messages) ↔
      ∀ members, Json.get state "last_auth" = .obj members →
        (Json.get members "result").hashable = true := by
  unfold lastAuthMessages
  cases Json.get state "last_auth" with
  | obj members =>
      have reached : (∀ other, Json.obj members = .obj other →
          (Json.get other "result").hashable = true) ↔
          (Json.get members "result").hashable = true :=
        ⟨fun all => all members rfl, fun here other same => Json.obj.inj same ▸ here⟩
      rw [reached]
      dsimp only
      cases Json.get members "result" with
      | str text =>
          refine iff_of_true ?_ rfl
          dsimp only
          split
          · exact ⟨_, rfl⟩
          · exact ⟨_, rfl⟩
      | null | bool _ | int _ | float _ => exact iff_of_true ⟨_, rfl⟩ rfl
      | arr _ | obj _ =>
          refine iff_of_false ?_ Bool.false_ne_true
          rintro ⟨messages, made⟩
          cases made
  | null | bool _ | int _ | float _ | str _ | arr _ =>
      refine iff_of_true ⟨_, rfl⟩ ?_
      intro members found
      cases found

/-- A value goes on record from a text only if it is spelled so, or was there. -/
theorem readText_agrees_iff {α : Type} {read : String → Option α}
    {parse : String → Validated α} {spelling : α → String} {recorded : Option α} {value : Json}
    (spelled : ∀ text found, read text = some found → text = spelling found)
    (reads : ∀ found, read (spelling found) = some found)
    (agrees : ∀ text found, read text = some found → (parse text).toOption = some found) :
    (readText read value <|> recorded) =
        (readText (fun text => (parse text).toOption) value <|> recorded) ↔
      ∀ text found, value = .str text → parse text = .ok found →
        text = spelling found ∨ recorded = some found := by
  cases value with
  | str text =>
      rw [readText, readText]
      constructor
      · intro same other found named parsed
        cases named
        rw [parsed] at same
        cases known : read text with
        | some first =>
            left
            have same := agrees text first known
            rw [parsed] at same
            cases same
            exact spelled text found known
        | none =>
            right
            rw [known] at same
            exact same
      · intro alike
        cases parsed : parse text with
        | error reason =>
            cases known : read text with
            | none => rfl
            | some first =>
                have accepted := agrees text first known
                rw [parsed] at accepted
                cases accepted
        | ok found =>
            rcases alike text found rfl parsed with here | recorded
            · rw [here, reads]
              rfl
            · cases known : read text with
              | none => exact recorded
              | some first => rw [← agrees text first known, parsed]
  | null | bool _ | int _ | float _ | arr _ | obj _ =>
      refine iff_of_true rfl ?_
      intro text found named
      cases named

/-- The health documents agree over the record. -/
theorem health_agrees_iff (record : Node) (caused : Bool) :
    (((NodeHealth.fromDict (.obj (withoutSentinel health)) householdId nodeId).toOption <|>
          record.health) =
        ((NodeHealth.fromDict (.obj health) householdId nodeId).toOption <|> record.health) ∧
      ((NodeHealth.fromDict (.obj (withoutSentinel health)) householdId nodeId).toOption.isNone &&
          (caused || record.lockChangeIsFresh)) =
        ((NodeHealth.fromDict (.obj health) householdId nodeId).toOption.isNone &&
          (caused || record.lockChangeIsFresh))) ↔
      (readingReported health "lock_current" = true ∧
          readingReported health "lock_target" = true ∨
        (NodeHealth.fromDict (.obj health) householdId nodeId).isOk = false ∧
          ∀ left, NodeHealth.fromDict (.obj (withoutSentinel health)) householdId nodeId =
              .ok left →
            record.health = some left ∧ record.lockChangeIsFresh = false ∧ caused = false) := by
  by_cases reported : readingReported health "lock_current" = true ∧
      readingReported health "lock_target" = true
  · rw [withoutSentinel_of_reported reported.1 reported.2]
    exact iff_of_true ⟨rfl, rfl⟩ (Or.inl reported)
  cases verbatim : NodeHealth.fromDict (.obj health) householdId nodeId with
  | ok parsed =>
      obtain ⟨current, target, left⟩ := fromDict_withoutSentinel verbatim
      rw [left]
      refine iff_of_false ?_ ?_
      · rintro ⟨same, -⟩
        have same := Option.some.inj same
        exact reported ⟨reported_of_kept current (congrArg NodeHealth.lockCurrent same),
          reported_of_kept target (congrArg NodeHealth.lockTarget same)⟩
      · rintro (both | ⟨refused, -⟩)
        · exact reported both
        · cases refused
  | error reason =>
      cases left : NodeHealth.fromDict (.obj (withoutSentinel health)) householdId nodeId with
      | error _ =>
          refine iff_of_true ⟨rfl, rfl⟩ (Or.inr ⟨rfl, ?_⟩)
          intro parsed accepted
          cases accepted
      | ok parsed =>
          constructor
          · rintro ⟨same, fresh⟩
            refine Or.inr ⟨rfl, ?_⟩
            intro other accepted
            cases accepted
            have stale := Bool.or_eq_false_iff.mp fresh.symm
            exact ⟨same.symm, stale.2, stale.1⟩
          · rintro (both | ⟨-, recorded⟩)
            · exact absurd both reported
            · obtain ⟨same, stale, uncaused⟩ := recorded parsed rfl
              rw [same, stale, uncaused]
              exact ⟨rfl, rfl⟩

/-! ### The feeds on the registry -/

theorem about_carried {subtopic : Subtopic} {key : String} {retain : Bool}
    {message : HomeKeyMessage}
    (member : message ∈ carried householdId nodeId subtopic state key retain) :
    message.About householdId nodeId := by
  obtain ⟨document, -, rfl⟩ := List.mem_map.mp member
  exact ⟨rfl, rfl⟩

theorem about_carriedText {subtopic : Subtopic} {value : Json} {message : HomeKeyMessage}
    (member : message ∈ carriedText householdId nodeId subtopic value) :
    message.About householdId nodeId := by
  unfold carriedText at member
  split at member
  · rw [List.mem_singleton.mp member]
    exact ⟨rfl, rfl⟩
  · cases member

theorem about_overMqtt {info : Dict} {message : HomeKeyMessage}
    (member : message ∈ overMqtt state info householdId nodeId) :
    message.About householdId nodeId := by
  simp only [overMqtt, List.mem_append, List.mem_singleton] at member
  rcases member with (((((rfl | cause) | rfl) | health) | security) | backup) | auth
  · exact ⟨rfl, rfl⟩
  · exact about_carried cause
  · exact ⟨rfl, rfl⟩
  · exact about_carried health
  · exact about_carriedText security
  · exact about_carriedText backup
  · exact about_carried auth

/-- The record after the parts of a response as they are. -/
theorem receiveAll_overMqtt (env : Subtopic → Env) (householdId : String) (state info : Dict)
    (named : node.nodeId = nodeId) :
    ∃ rest, overMqtt state info householdId nodeId = .online householdId nodeId :: rest ∧
      node.receiveAll env householdId rest =
        (node.beforeHealth env householdId state info).report
          (mqttReading state householdId nodeId) := by
  subst named
  refine ⟨carried householdId node.nodeId .lockLast state "lock_last" true ++
    ([.document householdId node.nodeId .state
        (identityDocument state info householdId node.nodeId) true] ++
      (carried householdId node.nodeId .health state "health" false ++
        carriedText householdId node.nodeId .security (Json.get state "security") ++
        carriedText householdId node.nodeId .backupStatus (Json.get state "backup_status") ++
        carried householdId node.nodeId .lastAuth state "last_auth" true)), ?_, ?_⟩
  · simp only [overMqtt, List.append_assoc, List.cons_append, List.nil_append]
  · rw [Node.receiveAll_append, Node.receiveAll_carried env node rfl state "lock_last" true rfl,
      Node.receiveAll_append, Node.receiveAll_cons, Node.receiveAll_nil,
      HomeKeyMessage.ofString?_subtopic_document, Option.getD_some, Node.receive_document _ _ rfl]
    exact Node.receiveAll_verbatim env _
      (node.beforeHealth_fields env householdId state info).1 state

/-- The record after the messages of a response. -/
theorem receiveAll_stateToMessages (env : Subtopic → Env) {info : Dict}
    (named : node.nodeId = nodeId) (embedded : Json.get state "health" = .obj health)
    {messages : List HomeKeyMessage}
    (translated : stateToMessages state info householdId nodeId = .ok messages) :
    ∃ rest, messages = .online householdId nodeId :: rest ∧
      node.receiveAll env householdId rest =
        (node.beforeHealth env householdId state info).report
          (directReading state health householdId nodeId) := by
  subst named
  obtain ⟨passed, lastAuth, healthy, made, rfl⟩ := stateToMessages_ok translated
  rw [healthFromState_embedded embedded] at healthy
  cases healthy
  refine ⟨lockLastMessages state householdId node.nodeId ++
    ([.document householdId node.nodeId .state
        (identityDocument state info householdId node.nodeId) true] ++
      ([.document householdId node.nodeId .health (.obj (withoutSentinel health)) false] ++
        plainMessage householdId node.nodeId .security SecurityState.ofString?
          (Json.get state "security") ++
        plainMessage householdId node.nodeId .backupStatus BackupOutcome.ofString?
          (Json.get state "backup_status") ++
        lastAuth)), ?_, ?_⟩
  · simp only [HomeKeyMessage.online, List.append_assoc, List.cons_append, List.nil_append]
  · rw [Node.receiveAll_append, Node.receiveAll_lockLastMessages, Node.receiveAll_append,
      Node.receiveAll_cons, Node.receiveAll_nil, HomeKeyMessage.ofString?_subtopic_document,
      Option.getD_some, Node.receive_document _ _ rfl]
    exact Node.receiveAll_passedOn env _
      (node.beforeHealth_fields env householdId state info).1 health made

/-- The record that either transport has moved when the health document arrives. -/
def reached (env : Subtopic → Env) (coordinator : Coordinator) (state info : Dict)
    (nodeId : String) : Node :=
  ((coordinator.ensureNode nodeId).2.shown (env .status)).beforeHealth env
    coordinator.householdId state info

theorem getNode_ingest_overMqtt (env : Subtopic → Env) {coordinator : Coordinator}
    (state info : Dict) (home : coordinator.householdId = householdId) (filled : nodeId ≠ "") :
    (coordinator.ingest env (overMqtt state info householdId nodeId)).getNode nodeId =
      some ((reached env coordinator state info nodeId).report
        (mqttReading state householdId nodeId)) := by
  have named : ((coordinator.ensureNode nodeId).2.shown (env .status)).nodeId = nodeId :=
    coordinator.ensureNode_nodeId nodeId
  obtain ⟨rest, split, moved⟩ := receiveAll_overMqtt env householdId state info named
  have about : ∀ message ∈ rest, message.About householdId nodeId := fun message member =>
    about_overMqtt (split ▸ List.mem_cons_of_mem _ member)
  rw [split, getNode_ingest_online env home filled about, moved, reached, home]

theorem getNode_ingest_stateToMessages (env : Subtopic → Env) {coordinator : Coordinator}
    {info : Dict} (home : coordinator.householdId = householdId) (filled : nodeId ≠ "")
    (embedded : Json.get state "health" = .obj health) {messages : List HomeKeyMessage}
    (translated : stateToMessages state info householdId nodeId = .ok messages) :
    (coordinator.ingest env messages).getNode nodeId =
      some ((reached env coordinator state info nodeId).report
        (directReading state health householdId nodeId)) := by
  have named : ((coordinator.ensureNode nodeId).2.shown (env .status)).nodeId = nodeId :=
    coordinator.ensureNode_nodeId nodeId
  obtain ⟨rest, split, moved⟩ := receiveAll_stateToMessages env named embedded translated
  have about : ∀ message ∈ rest, message.About householdId nodeId := fun message member =>
    about_stateToMessages translated (split ▸ List.mem_cons_of_mem _ member)
  rw [split, getNode_ingest_online env home filled about, moved, reached, home]

/-- The registries agree exactly when the readings do on the one record. -/
theorem identicalState_iff_report (env : Subtopic → Env) {coordinator : Coordinator}
    (info : Dict) (home : coordinator.householdId = householdId) (filled : nodeId ≠ "")
    (embedded : Json.get state "health" = .obj health) :
    IdenticalState env coordinator state info householdId nodeId ↔
      (∃ messages, lastAuthMessages state householdId nodeId = .ok messages) ∧
        (reached env coordinator state info nodeId).report
            (directReading state health householdId nodeId) =
          (reached env coordinator state info nodeId).report
            (mqttReading state householdId nodeId) := by
  constructor
  · rintro ⟨messages, translated, same⟩
    obtain ⟨-, lastAuth, -, made, -⟩ := stateToMessages_ok translated
    refine ⟨⟨lastAuth, made⟩, ?_⟩
    have here := same nodeId
    rw [getNode_ingest_stateToMessages env home filled embedded translated,
      getNode_ingest_overMqtt env state info home filled] at here
    exact Option.some.inj here
  · rintro ⟨⟨lastAuth, made⟩, same⟩
    have translates : ∃ messages, stateToMessages state info householdId nodeId = .ok messages := by
      rw [stateToMessages, healthFromState_embedded embedded, made]
      exact ⟨_, rfl⟩
    obtain ⟨messages, translated⟩ := translates
    refine ⟨messages, translated, ?_⟩
    intro other
    by_cases here : other = nodeId
    · rw [here, getNode_ingest_stateToMessages env home filled embedded translated,
        getNode_ingest_overMqtt env state info home filled, same]
    · rw [Coordinator.getNode_ingest_of_ne coordinator
          (fun _ member => about_stateToMessages translated member) here,
        Coordinator.getNode_ingest_of_ne coordinator (fun _ member => about_overMqtt member) here]

/-- What the transports may differ in is as it was on record, but for an event
that the response has just reported. -/
theorem reached_fields (env : Subtopic → Env) (coordinator : Coordinator) (state info : Dict)
    (nodeId : String) :
    (reached env coordinator state info nodeId).health =
        (coordinator.ensureNode nodeId).2.health ∧
      (reached env coordinator state info nodeId).security =
        (coordinator.ensureNode nodeId).2.security ∧
      (reached env coordinator state info nodeId).backupStatus =
        (coordinator.ensureNode nodeId).2.backupStatus ∧
      (reached env coordinator state info nodeId).lockChangeIsFresh =
        ((LockChange.fromDict (Json.get state "lock_last") coordinator.householdId nodeId).isOk ||
          (coordinator.ensureNode nodeId).2.lockChangeIsFresh) := by
  have named : ((coordinator.ensureNode nodeId).2.shown (env .status)).nodeId = nodeId :=
    coordinator.ensureNode_nodeId nodeId
  obtain ⟨-, health, security, backupStatus, fresh⟩ :=
    ((coordinator.ensureNode nodeId).2.shown (env .status)).beforeHealth_fields env
      coordinator.householdId state info
  rw [named] at fresh
  exact ⟨health, security, backupStatus, fresh⟩

theorem securitySpelling_agrees (state : Dict) (recorded : Option SecurityState) :
    (readText SecurityState.ofString? (Json.get state "security") <|> recorded) =
        (readText (fun text => (Coordinator.parseSecurity text).toOption)
          (Json.get state "security") <|> recorded) ↔
      ∀ text value, Json.get state "security" = .str text →
        Coordinator.parseSecurity text = .ok value →
          text = value.spelling ∨ recorded = some value :=
  readText_agrees_iff (fun _ _ found => (spelling_of_memberOf found).symm)
    (fun value => by cases value <;> decide) fun _ _ => Node.parseSecurity_of_spelled

theorem backupSpelling_agrees (state : Dict) (recorded : Option BackupOutcome) :
    (readText BackupOutcome.ofString? (Json.get state "backup_status") <|> recorded) =
        (readText (fun text => (Coordinator.parseBackupStatus text).toOption)
          (Json.get state "backup_status") <|> recorded) ↔
      ∀ text outcome, Json.get state "backup_status" = .str text →
        Coordinator.parseBackupStatus text = .ok outcome →
          text = outcome.spelling ∨ recorded = some outcome :=
  readText_agrees_iff (fun _ _ found => (spelling_of_memberOf found).symm)
    (fun outcome => by cases outcome <;> decide) fun _ _ => Node.parseBackupStatus_of_spelled

/-- Both transports leave the same records exactly when no part of the response
is taken to the record by only one of them. -/
theorem identicalState_iff (env : Subtopic → Env) {coordinator : Coordinator} (info : Dict)
    (home : coordinator.householdId = householdId) (filled : nodeId ≠ "")
    (embedded : Json.get state "health" = .obj health) :
    IdenticalState env coordinator state info householdId nodeId ↔
      Alike (coordinator.ensureNode nodeId).2 state health householdId nodeId := by
  subst home
  obtain ⟨healthy, secured, backedUp, fresh⟩ := reached_fields env coordinator state info nodeId
  have reports := @Node.report_eq_iff (reached env coordinator state info nodeId)
    (directReading state health coordinator.householdId nodeId)
    (mqttReading state coordinator.householdId nodeId) rfl
  rw [healthy, secured, backedUp, fresh] at reports
  have readings := @health_agrees_iff health coordinator.householdId nodeId
    (coordinator.ensureNode nodeId).2
    (LockChange.fromDict (Json.get state "lock_last") coordinator.householdId nodeId).isOk
  rw [← embedded] at readings
  rw [identicalState_iff_report env info rfl filled embedded, lastAuthMessages_isOk_iff, reports]
  constructor
  · rintro ⟨hashable, passedOn, security, backupStatus⟩
    have readings := readings.mp passedOn
    rw [embedded] at readings
    exact ⟨hashable, readings, (securitySpelling_agrees state _).mp security,
      (backupSpelling_agrees state _).mp backupStatus⟩
  · intro alike
    have passedOn := alike.readings
    rw [← embedded] at passedOn
    exact ⟨alike.hashable, readings.mpr passedOn,
      (securitySpelling_agrees state _).mpr alike.security,
      (backupSpelling_agrees state _).mpr alike.backupStatus⟩

/-! ## Sample responses -/

/-- A response whose health document has the given reading of the lock. -/
def sampleResponse (current : Int) : Dict :=
  [("household_id", .str "HOME001"), ("node_id", .str "GATE-001"),
    ("health", .obj [("mqtt", .str "OK"), ("lock_current", .int current)])]

/-- A response that both transports take to the record alike. -/
theorem locked_identical :
    IdenticalState (fun _ => tapEnv) (.new "HOME001") (sampleResponse 1) [] "HOME001"
      "GATE-001" :=
  (identicalState_iff (fun _ => tapEnv) [] rfl (by decide) rfl).mpr
    { hashable := fun _ found => by cases found
      readings := Or.inl ⟨rfl, rfl⟩
      security := fun _ _ found => by cases found
      backupStatus := fun _ _ found => by cases found }

/-- The sentinel goes on record over MQTT only. -/
theorem sentinel_not_identical :
    ¬ IdenticalState (fun _ => tapEnv) (.new "HOME001") (sampleResponse 255) [] "HOME001"
      "GATE-001" := by
  intro identical
  obtain ⟨-, same⟩ := (identicalState_iff_report (fun _ => tapEnv) [] rfl (by decide)
    rfl).mp identical
  have healthy := congrArg (fun node => node.health.bind NodeHealth.lockCurrent) same
  exact absurd healthy (by decide +kernel)

end

end HomeKeyHousehold
