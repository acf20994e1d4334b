import HomeKeyHousehold.Inbound
import HomeKeyHousehold.Registry
import HomeKeyHousehold.Rejection

/-!
# The order of delivery

A broker delivers retained messages in any order.  Every subtopic writes a part of the
record that no other one writes, so with one message for each topic the order leaves
those parts alone.  It shows in three places: a last will counts only once its node is
registered, a health snapshot outdates a lock event that came before it, and an event is
announced by the clock at its arrival.
-/

namespace HomeKeyHousehold

open Library

/-- The topic of a message: its household, its node and its subtopic. -/
def HomeKeyMessage.topic (message : HomeKeyMessage) : String × Option String × String :=
  (message.householdId, message.nodeId, message.subtopic)

namespace Node

/-! ## The parts of a record -/

/-- What the messages of one subtopic write; a last will writes apart from the rest. -/
inductive Part where
  | apart
  | identity (nodeName nodeRole nodeState : String) (generation : Option Int)
      (firmware : Option String)
  | status (online : Bool)
  | health (health : Option NodeHealth)
  | lockLast (change : Option LockChange)
  | security (security : Option SecurityState)
  | backupStatus (outcome : Option BackupOutcome)
  | backupLast (record : Option BackupRecord)
  | lastAuth (auth : Option LastAuth)
  | guestStatus (guest : Option GuestState)

def part (node : Node) : Subtopic → Part
  | .legacyStatus => .apart
  | .state =>
      .identity node.nodeName node.nodeRole node.nodeState node.generation node.firmware
  | .status => .status node.online
  | .health => .health node.health
  | .lockLast => .lockLast node.lockChange
  | .security => .security node.security
  | .backupStatus => .backupStatus node.backupStatus
  | .backupLast => .backupLast node.backup
  | .lastAuth => .lastAuth node.lastAuth
  | .guestStatus => .guestStatus node.guest

/-- A record without the times it was seen at and without what depends on order. -/
def settled (node : Node) : Node :=
  { node with
    lastSeen := none
    lwtOnline := none
    lockChangeIsFresh := false
    attributedLockChange := none }

variable {env otherEnv : Env} {householdId nodeId : String} {node first second : Node}
variable {subtopic : Subtopic} {message : HomeKeyMessage}

/-- The parts of a record, with its names, are all of it that settles. -/
theorem settled_eq_of_parts (named : first.nodeId = second.nodeId)
    (home : first.householdId = second.householdId)
    (parts : ∀ subtopic, first.part subtopic = second.part subtopic) :
    first.settled = second.settled := by
  obtain ⟨nodeName, nodeRole, nodeState, generation, firmware⟩ :=
    Part.identity.inj (parts .state)
  simp only [settled, named, home, nodeName, nodeRole, nodeState, generation, firmware,
    Part.status.inj (parts .status), Part.health.inj (parts .health),
    Part.lockLast.inj (parts .lockLast), Part.security.inj (parts .security),
    Part.backupStatus.inj (parts .backupStatus), Part.backupLast.inj (parts .backupLast),
    Part.lastAuth.inj (parts .lastAuth), Part.guestStatus.inj (parts .guestStatus)]

/-- What an event writes, announced or not. -/
theorem withEvent_eq (env : Env) (node : Node) (change : LockChange) :
    node.withEvent env change =
      { node with
        lockChange := some change
        lockChangeIsFresh := true
        attributedLockChange :=
          if node.announcesEvent env change then some change.key
          else node.attributedLockChange } := by
  unfold withEvent
  have announced : announcesEvent env
      { node with lockChange := some change, lockChangeIsFresh := true } change =
        node.announcesEvent env change := rfl
  dsimp only
  rw [announced]
  split
  · rfl
  · rfl

/-! ## What a message says -/

/-- What a message says about its node.  A health or lock report that is rejected still
mentions it. -/
inductive Report where
  | silence
  | mention
  | lastWill (online : Bool)
  | identity (incoming : Node)
  | status (online : Bool)
  | health (health : NodeHealth)
  | lockLast (change : LockChange)
  | security (value : SecurityState)
  | backupStatus (outcome : BackupOutcome)
  | backupLast (record : BackupRecord)
  | lastAuth (auth : LastAuth)
  | guestStatus (guest : GuestState)

namespace Report

/-- The subtopic a report comes from. -/
def kind : Report → Option Subtopic
  | silence | mention => none
  | lastWill _ => some .legacyStatus
  | identity _ => some .state
  | status _ => some .status
  | health _ => some .health
  | lockLast _ => some .lockLast
  | security _ => some .security
  | backupStatus _ => some .backupStatus
  | backupLast _ => some .backupLast
  | lastAuth _ => some .lastAuth
  | guestStatus _ => some .guestStatus

/-- A last will makes no node known. -/
def registers : Report → Bool
  | silence | lastWill _ => false
  | _ => true

def ofResult {α : Type} (refused : Report) (result : Validated α) (report : α → Report) : Report :=
  match result with
  | .ok value => report value
  | .error _ => refused

def ofPlain (payload : String) : Subtopic → Report
  | .legacyStatus => ofResult silence (Coordinator.parseOnline payload "legacy status") lastWill
  | .status => ofResult silence (Coordinator.parseOnline payload "status") status
  | .security => ofResult silence (Coordinator.parseSecurity payload) security
  | .backupStatus => ofResult silence (Coordinator.parseBackupStatus payload) backupStatus
  | _ => silence

def ofJson (householdId nodeId : String) (payload : Json) : Subtopic → Report
  | .state => ofResult silence (fromState householdId nodeId payload) identity
  | .health => ofResult mention (NodeHealth.fromDict payload householdId nodeId) health
  | .lockLast => ofResult mention (LockChange.fromDict payload householdId nodeId) lockLast
  | .backupLast => ofResult silence (BackupRecord.fromDict payload householdId nodeId) backupLast
  | .lastAuth => ofResult silence (LastAuth.fromDict payload householdId nodeId) lastAuth
  | .guestStatus => ofResult silence (GuestState.fromDict payload) guestStatus
  | _ => silence

/-- The report a message brings. -/
def ofMessage (householdId nodeId : String) (message : HomeKeyMessage) : Report :=
  match Subtopic.ofString? message.subtopic with
  | none => silence
  | some subtopic =>
      if subtopic.isJson then
        match Coordinator.decodeJson message.payload with
        | .ok payload => ofJson householdId nodeId payload subtopic
        | .error _ => silence
      else ofPlain message.payload subtopic

/-- A report is of the kind its values are, if any. -/
theorem kind_ofResult {α : Type} {refused : Report} {result : Validated α} {report : α → Report}
    (nothing : refused.kind = none) (kinds : ∀ value, (report value).kind = some subtopic)
    {other : Subtopic} (said : (ofResult refused result report).kind = some other) :
    other = subtopic := by
  cases result with
  | ok value => exact Option.some.inj (said.symm.trans (kinds value))
  | error reason => cases nothing.symm.trans said

theorem kind_ofPlain {payload : String} {other : Subtopic}
    (said : (ofPlain payload subtopic).kind = some other) : other = subtopic := by
  cases subtopic with
  | state | health | lockLast | backupLast | lastAuth | guestStatus => cases said
  | legacyStatus | status | security | backupStatus =>
      rw [ofPlain] at said
      exact kind_ofResult rfl (fun _ => rfl) said

theorem kind_ofJson {payload : Json} {other : Subtopic}
    (said : (ofJson householdId nodeId payload subtopic).kind = some other) : other = subtopic := by
  cases subtopic with
  | legacyStatus | status | security | backupStatus => cases said
  | state | health | lockLast | backupLast | lastAuth | guestStatus =>
      rw [ofJson] at said
      exact kind_ofResult rfl (fun _ => rfl) said

/-- A report is of the kind its message's subtopic names. -/
theorem kind_ofMessage (said : (ofMessage householdId nodeId message).kind = some subtopic) :
    message.subtopic = subtopic.spelling := by
  unfold ofMessage at said
  split at said
  · cases said
  · next written found =>
      have spelled := Subtopic.spelling_of_ofString? found
      suffices same : subtopic = written by rw [same, spelled]
      split at said
      · split at said
        · exact kind_ofJson said
        · cases said
      · exact kind_ofPlain said

end Report

/-- The record after a report. -/
def note (env : Env) (node : Node) : Report → Node
  | .silence | .mention => node
  | .lastWill online =>
      { node with
        lwtOnline := some online
        lastSeen := if online then some (Coordinator.nowIso env) else node.lastSeen }
  | .identity incoming => node.merge incoming
  | .status online => { node with online, lastSeen := some (Coordinator.nowIso env) }
  | .health health => { node with health := some health, lockChangeIsFresh := false }
  | .lockLast change => node.withEvent env change
  | .security value => { node with security := some value }
  | .backupStatus outcome => { node with backupStatus := some outcome }
  | .backupLast record => { node with backup := some record }
  | .lastAuth auth => { node with lastAuth := some auth }
  | .guestStatus guest => { node with guest := some guest }

/-- To note a result is to accept its value. -/
theorem note_ofResult {α : Type} {refused : Report} {result : Validated α} {report : α → Report}
    (nothing : node.note env refused = node) :
    node.note env (.ofResult refused result report) =
      node.accept result fun value => node.note env (report value) := by
  cases result with
  | ok value => rfl
  | error reason => exact nothing

/-- What a message does to a record is what its report does. -/
theorem receive_eq_note (env : Env) (householdId : String) (node : Node)
    (message : HomeKeyMessage) :
    node.receive env householdId message =
      node.note env (.ofMessage householdId node.nodeId message) := by
  unfold receive Report.ofMessage
  cases Subtopic.ofString? message.subtopic with
  | none => rfl
  | some subtopic =>
      dsimp only
      split
      · cases Coordinator.decodeJson message.payload with
        | error reason => rfl
        | ok payload =>
            dsimp only
            cases subtopic with
            | legacyStatus | status | security | backupStatus => rfl
            | state | health | lockLast | backupLast | lastAuth | guestStatus =>
                rw [afterJson, Report.ofJson, note_ofResult rfl]
                rfl
      · cases subtopic with
        | state | health | lockLast | backupLast | lastAuth | guestStatus => rfl
        | legacyStatus | status | security | backupStatus =>
            rw [afterPlain, Report.ofPlain, note_ofResult rfl]
            rfl

/-- A report that would register its node does so when it is accepted. -/
theorem Report.registers_ofResult {α : Type} {refused : Report} {result : Validated α}
    {report : α → Report} (registering : ∀ value, (report value).registers = true) :
    (Report.ofResult refused result report).registers = (result.isOk || refused.registers) := by
  cases result with
  | ok value => exact registering value
  | error reason => rfl

/-- A message registers its node if its report does. -/
theorem registers_eq (householdId nodeId : String) (message : HomeKeyMessage) :
    registers householdId nodeId message =
      (Report.ofMessage householdId nodeId message).registers := by
  unfold registers Report.ofMessage
  cases Subtopic.ofString? message.subtopic with
  | none => rfl
  | some subtopic =>
      dsimp only
      split
      · cases Coordinator.decodeJson message.payload with
        | error reason => rfl
        | ok payload =>
            dsimp only
            cases subtopic with
            | legacyStatus | status | security | backupStatus => rfl
            | health | lockLast =>
                rw [jsonRegisters, Report.ofJson]
                exact ((Report.registers_ofResult fun _ => rfl).trans (Bool.or_true _)).symm
            | state | backupLast | lastAuth | guestStatus =>
                rw [jsonRegisters, Report.ofJson]
                exact ((Report.registers_ofResult fun _ => rfl).trans (Bool.or_false _)).symm
      · cases subtopic with
        | state | health | lockLast | backupLast | lastAuth | guestStatus => rfl
        | legacyStatus =>
            rw [plainRegisters, Report.ofPlain]
            · cases Coordinator.parseOnline message.payload "legacy status" with
              | ok online => rfl
              | error reason => rfl
            all_goals exact fun same => by cases same
        | status | security | backupStatus =>
            rw [plainRegisters, Report.ofPlain]
            exact ((Report.registers_ofResult fun _ => rfl).trans (Bool.or_false _)).symm

/-! ## What a report does -/

/-- A report renames no node. -/
theorem nodeId_note (env : Env) (node : Node) (report : Report) :
    (node.note env report).nodeId = node.nodeId := by
  cases report with
  | lockLast change => rw [note, withEvent_eq]
  | silence | mention | lastWill | identity | status | health | security | backupStatus
  | backupLast | lastAuth | guestStatus => rfl

/-- A report moves no node to another household. -/
theorem householdId_note (env : Env) (node : Node) (report : Report) :
    (node.note env report).householdId = node.householdId := by
  cases report with
  | lockLast change => rw [note, withEvent_eq]
  | silence | mention | lastWill | identity | status | health | security | backupStatus
  | backupLast | lastAuth | guestStatus => rfl

/-- A report leaves the parts of the other subtopics alone. -/
theorem part_note_of_ne {report : Report} (apart : report.kind ≠ some subtopic) :
    (node.note env report).part subtopic = node.part subtopic := by
  cases report with
  | silence | mention => rfl
  | lockLast change =>
      rw [note, withEvent_eq]
      cases subtopic <;> first | rfl | exact absurd rfl apart
  | lastWill | identity | status | health | security | backupStatus | backupLast | lastAuth
  | guestStatus => cases subtopic <;> first | rfl | exact absurd rfl apart

/-- What a report writes depends on what it writes over, not on when it is heard. -/
theorem part_note_congr (env otherEnv : Env) (report : Report)
    (same : first.part subtopic = second.part subtopic) :
    (first.note env report).part subtopic = (second.note otherEnv report).part subtopic := by
  by_cases own : report.kind = some subtopic
  · cases report with
    | silence | mention => cases own
    | identity incoming =>
        cases own
        obtain ⟨-, -, -, generation, firmware⟩ := Part.identity.inj same
        simp only [note, merge, part, generation, firmware]
    | lockLast change =>
        cases own
        rw [note, note, withEvent_eq, withEvent_eq]
        rfl
    | lastWill | status | health | security | backupStatus | backupLast | lastAuth
    | guestStatus =>
        cases own
        rfl
  · rw [part_note_of_ne own, part_note_of_ne own, same]

/-- A report that makes no node known writes no part of a record. -/
theorem part_note_of_not_registers {report : Report} (silent : report.registers = false) :
    (node.note env report).part subtopic = node.part subtopic := by
  cases report with
  | silence => rfl
  | lastWill online => cases subtopic <;> rfl
  | mention | identity | status | health | lockLast | security | backupStatus | backupLast
  | lastAuth | guestStatus => cases silent

/-- The last will as it was last read. -/
theorem lwtOnline_note (env : Env) (node : Node) (report : Report) :
    (node.note env report).lwtOnline =
      match report with
      | .lastWill online => some online
      | _ => node.lwtOnline := by
  cases report with
  | lockLast change => rw [note, withEvent_eq]
  | silence | mention | lastWill | identity | status | health | security | backupStatus
  | backupLast | lastAuth | guestStatus => rfl

/-- A lock event is fresh until a health snapshot. -/
theorem lockChangeIsFresh_note (env : Env) (node : Node) (report : Report) :
    (node.note env report).lockChangeIsFresh =
      match report with
      | .lockLast _ => true
      | .health _ => false
      | _ => node.lockChangeIsFresh := by
  cases report with
  | lockLast change => rw [note, withEvent_eq]
  | silence | mention | lastWill | identity | status | health | security | backupStatus
  | backupLast | lastAuth | guestStatus => rfl

/-- The event announced last. -/
theorem attributedLockChange_note (env : Env) (node : Node) (report : Report) :
    (node.note env report).attributedLockChange =
      match report with
      | .lockLast change =>
          if node.announcesEvent env change then some change.key else node.attributedLockChange
      | _ => node.attributedLockChange := by
  cases report with
  | lockLast change => rw [note, withEvent_eq]
  | silence | mention | lastWill | identity | status | health | security | backupStatus
  | backupLast | lastAuth | guestStatus => rfl

/-! ## What is heard of a node -/

/-- What is known of a node after a report about it. -/
def hear (householdId nodeId : String) (record : Option Node) (heard : Env × Report) :
    Option Node :=
  match record with
  | some node => some (node.note heard.1 heard.2)
  | none =>
      if heard.2.registers then some ((ofId householdId nodeId).note heard.1 heard.2) else none

/-- A record is about its node, in its household. -/
def IsOf (householdId nodeId : String) (record : Option Node) : Prop :=
  ∀ node ∈ record, node.nodeId = nodeId ∧ node.householdId = householdId

theorem IsOf.hear {record : Option Node} (named : IsOf householdId nodeId record)
    (heard : Env × Report) : IsOf householdId nodeId (hear householdId nodeId record heard) := by
  cases record with
  | some node =>
      rintro _ ⟨⟩
      rw [nodeId_note, householdId_note]
      exact named node rfl
  | none =>
      intro node known
      rw [Node.hear, Option.mem_ite_none_right] at known
      obtain ⟨-, ⟨⟩⟩ := known
      rw [nodeId_note, householdId_note]
      exact ⟨rfl, rfl⟩

/-- A message is learnt as its report is heard. -/
theorem learn_eq_hear {record : Option Node} (named : IsOf householdId nodeId record) (env : Env)
    (message : HomeKeyMessage) :
    learn env householdId nodeId record message =
      hear householdId nodeId record (env, .ofMessage householdId nodeId message) := by
  cases record with
  | some node => rw [learn, hear, receive_eq_note, (named node rfl).1]
  | none =>
      rw [learn, hear, receive_eq_note, registers_eq]
      rfl

/-- What is known of a node after all that is heard of it. -/
def hearAll (householdId nodeId : String) (heard : List (Env × Report)) : Option Node :=
  run (hear householdId nodeId) none heard

variable {heard firstHeard secondHeard : List (Env × Report)}

theorem isOf_hearAll (householdId nodeId : String) (heard : List (Env × Report)) :
    IsOf householdId nodeId (hearAll householdId nodeId heard) :=
  run_keeps (fun _ said named => named.hear said) (fun _ known => by cases known) heard

/-- A node is known once a report registers it. -/
theorem isSome_hearAll (householdId nodeId : String) (heard : List (Env × Report)) :
    (hearAll householdId nodeId heard).isSome = heard.any (·.2.registers) := by
  induction heard using List.reverseRecOn with
  | nil => rfl
  | append_singleton heard said ih =>
      rw [List.any_append, ← ih, hearAll, hearAll, run_concat]
      cases run (hear householdId nodeId) none heard with
      | some node => rfl
      | none =>
          rw [hear]
          cases registering : said.2.registers with
          | true => simp [registering]
          | false => simp [registering]

/-- Each part of the record is as its reports wrote it over a blank one. -/
theorem part_hearAll (subtopic : Subtopic)
    (known : hearAll householdId nodeId heard = some node) :
    node.part subtopic =
      (run (fun node said => node.note said.1 said.2) (ofId householdId nodeId) heard).part
        subtopic := by
  suffices both : ∀ record, hearAll householdId nodeId heard = record →
      (record.getD (ofId householdId nodeId)).part subtopic =
        (run (fun node said => node.note said.1 said.2) (ofId householdId nodeId) heard).part
          subtopic from
    both _ known
  clear known
  induction heard using List.reverseRecOn with
  | nil =>
      rintro _ rfl
      rfl
  | append_singleton heard said ih =>
      rintro _ rfl
      have before := ih _ rfl
      rw [hearAll, run_concat, run_concat]
      change (Option.getD (hear householdId nodeId (hearAll householdId nodeId heard) said) _).part
        subtopic = _
      cases record : hearAll householdId nodeId heard with
      | some node =>
          rw [record] at before
          exact part_note_congr said.1 said.1 said.2 before
      | none =>
          rw [record] at before
          rw [hear]
          cases registering : said.2.registers with
          | true => exact part_note_congr said.1 said.1 said.2 before
          | false => exact before.trans (part_note_of_not_registers registering).symm

/-- Only the reports of its own subtopic bear on a part. -/
theorem part_noteAll_eq_filter (subtopic : Subtopic) (node : Node)
    (heard : List (Env × Report)) :
    (run (fun node said => node.note said.1 said.2) node heard).part subtopic =
      (run (fun node said => node.note said.1 said.2) node
        (heard.filter fun said => said.2.kind = some subtopic)).part subtopic := by
  induction heard using List.reverseRecOn with
  | nil => rfl
  | append_singleton heard said ih =>
      rw [List.filter_append, run_concat, run_append]
      by_cases own : said.2.kind = some subtopic
      · rw [List.filter_cons_of_pos (by simpa using own), List.filter_nil, run_cons, run_nil]
        exact part_note_congr said.1 said.1 said.2 ih
      · rw [List.filter_cons_of_neg (by simpa using own), List.filter_nil, run_nil,
          part_note_of_ne own, ih]

/-! ### Where the order shows -/

/-- A last will is heard when its node is known. -/
def WillCounts (heard : List (Env × Report)) : Prop :=
  ∃ before will after, heard = before ++ will :: after ∧
    will.2.kind = some .legacyStatus ∧ before.any (·.2.registers) = true

/-- No health snapshot is heard after a lock event. -/
def EventIsLast (heard : List (Env × Report)) : Prop :=
  ∃ before event after, heard = before ++ event :: after ∧
    event.2.kind = some .lockLast ∧ ∀ later ∈ after, later.2.kind ≠ some .health

/-- A lock event is heard that is announced: done at the device, and not long ago. -/
def EventIsAnnounced (heard : List (Env × Report)) : Prop :=
  ∃ env change, (env, .lockLast change) ∈ heard ∧
    change.source.isDeviceInitiated = true ∧ isTimely env change.timestamp = true

/-- What a report does to the last will on record. -/
theorem lwtOnline_hear (record : Option Node) (said : Env × Report) :
    (hear householdId nodeId record said).bind lwtOnline =
      match said.2 with
      | .lastWill online => if record.isSome then some online else none
      | _ => record.bind lwtOnline := by
  obtain ⟨env, report⟩ := said
  cases record with
  | some node =>
      rw [hear, Option.bind_some, lwtOnline_note]
      rfl
  | none =>
      rw [hear]
      cases report with
      | silence | lastWill => rfl
      | mention | identity | status | health | lockLast | security | backupStatus | backupLast
      | lastAuth | guestStatus => exact lwtOnline_note env (ofId householdId nodeId) _

/-- A last will is on record when it counts. -/
theorem isSome_lwtOnline_hearAll (householdId nodeId : String) (heard : List (Env × Report)) :
    ((hearAll householdId nodeId heard).bind lwtOnline).isSome = true ↔ WillCounts heard := by
  induction heard using List.reverseRecOn with
  | nil => simp [hearAll, WillCounts]
  | append_singleton heard said ih =>
      rw [WillCounts, exists_split_concat]
      change _ ↔ _ ∨ WillCounts heard
      rw [← ih, ← isSome_hearAll householdId nodeId heard, hearAll, run_concat, lwtOnline_hear]
      change _ ↔ _ ∧ (run (hear householdId nodeId) none heard).isSome = true ∨
        ((run (hear householdId nodeId) none heard).bind lwtOnline).isSome = true
      cases said.2 with
      | lastWill online =>
          cases run (hear householdId nodeId) none heard with
          | some node => simp [Report.kind]
          | none => simp
      | silence | mention | identity | status | health | lockLast | security | backupStatus
      | backupLast | lastAuth | guestStatus => simp [Report.kind]

/-- What a report does to the freshness of the lock event. -/
theorem lockChangeIsFresh_hear (record : Option Node) (said : Env × Report) :
    (hear householdId nodeId record said).any lockChangeIsFresh =
      match said.2 with
      | .lockLast _ => true
      | .health _ => false
      | _ => record.any lockChangeIsFresh := by
  obtain ⟨env, report⟩ := said
  cases record with
  | some node =>
      rw [hear, Option.any_some, lockChangeIsFresh_note]
      rfl
  | none =>
      rw [hear]
      cases report with
      | silence | lastWill => rfl
      | mention | identity | status | health | lockLast | security | backupStatus | backupLast
      | lastAuth | guestStatus => exact lockChangeIsFresh_note env (ofId householdId nodeId) _

/-- The lock event is fresh when it is heard last. -/
theorem lockChangeIsFresh_hearAll (householdId nodeId : String) (heard : List (Env × Report)) :
    (hearAll householdId nodeId heard).any lockChangeIsFresh = true ↔ EventIsLast heard := by
  induction heard using List.reverseRecOn with
  | nil => simp [hearAll, EventIsLast]
  | append_singleton heard said ih =>
      have either : EventIsLast (heard ++ [said]) ↔
          said.2.kind = some .lockLast ∨
            EventIsLast heard ∧ said.2.kind ≠ some .health := by
        rw [EventIsLast, exists_split_concat]
        simp only [List.forall_mem_append, List.forall_mem_singleton, List.not_mem_nil,
          false_imp_iff, implies_true, and_true, ← and_assoc, exists_and_right, EventIsLast]
      rw [either, ← ih, hearAll, run_concat, lockChangeIsFresh_hear]
      cases said.2 with
      | lockLast change => simp [Report.kind]
      | health health => simp [Report.kind]
      | silence | mention | lastWill | identity | status | security | backupStatus | backupLast
      | lastAuth | guestStatus => simp [Report.kind, hearAll]

/-- What a report does to the event announced last. -/
theorem attributedLockChange_hear (record : Option Node) (said : Env × Report) :
    (hear householdId nodeId record said).bind attributedLockChange =
      match said.2 with
      | .lockLast change =>
          if (record.getD (ofId householdId nodeId)).announcesEvent said.1 change then
            some change.key
          else record.bind attributedLockChange
      | _ => record.bind attributedLockChange := by
  obtain ⟨env, report⟩ := said
  cases record with
  | some node =>
      rw [hear, Option.bind_some, attributedLockChange_note]
      rfl
  | none =>
      rw [hear]
      cases report with
      | silence | lastWill => rfl
      | mention | identity | status | health | lockLast | security | backupStatus | backupLast
      | lastAuth | guestStatus => exact attributedLockChange_note env (ofId householdId nodeId) _

/-- An event that could be announced is on record as announced, now or before. -/
theorem isSome_announced (env : Env) (record : Option Node) (change : LockChange) :
    (if (record.getD (ofId householdId nodeId)).announcesEvent env change then some change.key
      else record.bind attributedLockChange).isSome = true ↔
      (change.source.isDeviceInitiated = true ∧ isTimely env change.timestamp = true) ∨
        (record.bind attributedLockChange).isSome = true := by
  split
  · next announced =>
      rw [announcesEvent, Bool.and_eq_true, Bool.and_eq_true] at announced
      exact iff_of_true rfl (Or.inl ⟨announced.1.1, announced.2⟩)
  · next quiet =>
      rw [announcesEvent, Bool.and_eq_true, Bool.and_eq_true] at quiet
      refine ⟨Or.inr, fun either => either.elim (fun due => ?_) id⟩
      -- An event that is due and not announced is the one announced before.
      have known :
          (record.getD (ofId householdId nodeId)).attributedLockChange = some change.key := by
        by_contra other
        exact quiet ⟨⟨due.1, decide_eq_true other⟩, due.2⟩
      cases record with
      | some node => exact Option.isSome_iff_exists.mpr ⟨_, known⟩
      | none => cases known

/-- An event is on record as announced when one is heard that is. -/
theorem isSome_attributedLockChange_hearAll (householdId nodeId : String)
    (heard : List (Env × Report)) :
    ((hearAll householdId nodeId heard).bind attributedLockChange).isSome = true ↔
      EventIsAnnounced heard := by
  induction heard using List.reverseRecOn with
  | nil => simp [hearAll, EventIsAnnounced]
  | append_singleton heard said ih =>
      have either : EventIsAnnounced (heard ++ [said]) ↔
          EventIsAnnounced [said] ∨ EventIsAnnounced heard := by
        simp only [EventIsAnnounced, List.mem_append, or_and_right, exists_or, or_comm]
      rw [either, ← ih, hearAll, run_concat, attributedLockChange_hear]
      change _ ↔ _ ∨ ((hearAll householdId nodeId heard).bind attributedLockChange).isSome = true
      obtain ⟨env, report⟩ := said
      cases report with
      | lockLast change =>
          have now : EventIsAnnounced [(env, .lockLast change)] ↔
              change.source.isDeviceInitiated = true ∧ isTimely env change.timestamp = true := by
            simp [EventIsAnnounced]
          rw [now]
          exact isSome_announced env _ change
      | silence | mention | lastWill | identity | status | health | security | backupStatus
      | backupLast | lastAuth | guestStatus => simp [EventIsAnnounced, hearAll]

/-! ### Two orders of the same reports -/

/-- No subtopic is heard of twice. -/
def HeardOnce (heard : List (Env × Report)) : Prop :=
  ∀ subtopic, (heard.filter fun said => said.2.kind = some subtopic).length ≤ 1

/-- A list in another order is the same list where it has one element at most. -/
theorem eq_of_perm_of_length_le_one {α : Type} {first second : List α} (same : first.Perm second)
    (short : first.length ≤ 1) : first = second := by
  match first, short with
  | [], _ => exact (List.nil_perm.mp same).symm
  | [_], _ => exact List.singleton_perm.mp same

/-- The reports of one subtopic are the same in both orders. -/
theorem filter_reports_eq (once : HeardOnce firstHeard)
    (same : (firstHeard.map Prod.snd).Perm (secondHeard.map Prod.snd)) (subtopic : Subtopic) :
    (firstHeard.filter fun said => said.2.kind = some subtopic).map Prod.snd =
      (secondHeard.filter fun said => said.2.kind = some subtopic).map Prod.snd := by
  have ofKind := same.filter fun report => report.kind = some subtopic
  rw [List.filter_map, List.filter_map] at ofKind
  exact eq_of_perm_of_length_le_one ofKind (by rw [List.length_map]; exact once subtopic)

/-- Two reports of one subtopic are the same report. -/
theorem report_eq_of_kind (once : HeardOnce firstHeard)
    (same : (firstHeard.map Prod.snd).Perm (secondHeard.map Prod.snd)) {one other : Env × Report}
    (oneHeard : one ∈ firstHeard) (otherHeard : other ∈ secondHeard)
    (oneKind : one.2.kind = some subtopic) (otherKind : other.2.kind = some subtopic) :
    one.2 = other.2 := by
  obtain ⟨twin, twinHeard, sameReport⟩ : ∃ twin ∈ firstHeard, twin.2 = other.2 :=
    List.mem_map.mp (same.mem_iff.mpr (List.mem_map_of_mem otherHeard))
  have kept {said : Env × Report} (told : said ∈ firstHeard)
      (kind : said.2.kind = some subtopic) :
      said ∈ firstHeard.filter fun said => said.2.kind = some subtopic :=
    List.mem_filter.mpr ⟨told, decide_eq_true kind⟩
  have oneKept := kept oneHeard oneKind
  have twinKept := kept twinHeard ((congrArg Report.kind sameReport).trans otherKind)
  obtain ⟨only, all⟩ : ∃ only,
      firstHeard.filter (fun said => said.2.kind = some subtopic) = [only] := by
    apply List.length_eq_one_iff.mp
    exact le_antisymm (once subtopic) (List.length_pos_of_mem oneKept)
  rw [all, List.mem_singleton] at oneKept twinKept
  rw [oneKept, ← twinKept, sameReport]

/-- Whether a node becomes known does not depend on the order. -/
theorem isSome_hearAll_perm (householdId nodeId : String)
    (same : (firstHeard.map Prod.snd).Perm (secondHeard.map Prod.snd)) :
    (hearAll householdId nodeId firstHeard).isSome =
      (hearAll householdId nodeId secondHeard).isSome := by
  have counted (heard : List (Env × Report)) :
      heard.any (·.2.registers) = (heard.map Prod.snd).any Report.registers := by
    rw [List.any_map]
    rfl
  rw [isSome_hearAll, isSome_hearAll, counted, counted, Bool.eq_iff_iff, List.any_eq_true,
    List.any_eq_true]
  simp only [same.mem_iff]

/-- In both orders the node is unknown, or in both it is known. -/
theorem known_hearAll_perm (householdId nodeId : String)
    (same : (firstHeard.map Prod.snd).Perm (secondHeard.map Prod.snd)) :
    (hearAll householdId nodeId firstHeard = none ∧ hearAll householdId nodeId secondHeard = none) ∨
      ∃ first second, hearAll householdId nodeId firstHeard = some first ∧
        hearAll householdId nodeId secondHeard = some second := by
  have known := isSome_hearAll_perm householdId nodeId same
  cases first : hearAll householdId nodeId firstHeard with
  | none =>
      rw [first, Option.isSome_none, eq_comm, Option.isSome_eq_false_iff] at known
      exact Or.inl ⟨rfl, Option.isNone_iff_eq_none.mp known⟩
  | some node =>
      rw [first, Option.isSome_some, eq_comm] at known
      obtain ⟨other, second⟩ := Option.isSome_iff_exists.mp known
      exact Or.inr ⟨node, other, rfl, second⟩

/-- The same reports in the same order write the same part, whenever they are heard. -/
theorem part_noteAll_congr (same : firstHeard.map Prod.snd = secondHeard.map Prod.snd)
    (agree : first.part subtopic = second.part subtopic) :
    (run (fun node said => node.note said.1 said.2) first firstHeard).part subtopic =
      (run (fun node said => node.note said.1 said.2) second secondHeard).part subtopic := by
  induction firstHeard generalizing first second secondHeard with
  | nil =>
      rw [List.map_nil, eq_comm, List.map_eq_nil_iff] at same
      rw [same]
      exact agree
  | cons one rest ih =>
      obtain ⟨other, others, rfl, sameReport, later⟩ := List.map_eq_cons_iff.mp same.symm
      rw [run_cons, run_cons, sameReport]
      exact ih later.symm (part_note_congr one.1 other.1 one.2 agree)

/-- The settled record does not depend on the order. -/
theorem settled_hearAll_perm (householdId nodeId : String) (once : HeardOnce firstHeard)
    (same : (firstHeard.map Prod.snd).Perm (secondHeard.map Prod.snd)) :
    (hearAll householdId nodeId firstHeard).map settled =
      (hearAll householdId nodeId secondHeard).map settled := by
  rcases known_hearAll_perm householdId nodeId same with
    ⟨firstRecord, secondRecord⟩ | ⟨first, second, firstRecord, secondRecord⟩
  · rw [firstRecord, secondRecord]
  · obtain ⟨firstNode, firstHome⟩ := isOf_hearAll householdId nodeId firstHeard first firstRecord
    obtain ⟨secondNode, secondHome⟩ :=
      isOf_hearAll householdId nodeId secondHeard second secondRecord
    rw [firstRecord, secondRecord, Option.map_some, Option.map_some]
    refine congrArg some (settled_eq_of_parts (firstNode.trans secondNode.symm)
      (firstHome.trans secondHome.symm) fun subtopic => ?_)
    rw [part_hearAll subtopic firstRecord, part_hearAll subtopic secondRecord,
      part_noteAll_eq_filter, part_noteAll_eq_filter subtopic _ secondHeard]
    exact part_noteAll_congr (filter_reports_eq once same subtopic) rfl

/-- A last will on record was heard. -/
theorem mem_of_lwtOnline {online : Bool}
    (recorded : (hearAll householdId nodeId heard).bind lwtOnline = some online) :
    ∃ env, (env, .lastWill online) ∈ heard := by
  induction heard using List.reverseRecOn with
  | nil => cases recorded
  | append_singleton heard said ih =>
      rw [hearAll, run_concat, lwtOnline_hear] at recorded
      obtain ⟨env, report⟩ := said
      cases report with
      | lastWill word =>
          obtain ⟨-, ⟨⟩⟩ := Option.mem_ite_none_right.mp recorded
          exact ⟨env, List.mem_append_right heard (List.mem_singleton_self _)⟩
      | silence | mention | identity | status | health | lockLast | security | backupStatus
      | backupLast | lastAuth | guestStatus =>
          obtain ⟨earlier, said⟩ := ih recorded
          exact ⟨earlier, List.mem_append_left _ said⟩

/-- An event on record as announced was heard. -/
theorem mem_of_attributedLockChange {key : LockChangeKey}
    (recorded : (hearAll householdId nodeId heard).bind attributedLockChange = some key) :
    ∃ env change, (env, .lockLast change) ∈ heard ∧ change.key = key := by
  induction heard using List.reverseRecOn with
  | nil => cases recorded
  | append_singleton heard said ih =>
      have before
          (earlier : (hearAll householdId nodeId heard).bind attributedLockChange = some key) :
          ∃ env change, (env, .lockLast change) ∈ heard ++ [said] ∧ change.key = key := by
        obtain ⟨env, change, heardBefore, same⟩ := ih earlier
        exact ⟨env, change, List.mem_append_left _ heardBefore, same⟩
      rw [hearAll, run_concat, attributedLockChange_hear] at recorded
      obtain ⟨env, report⟩ := said
      cases report with
      | lockLast change =>
          dsimp only at recorded
          split at recorded
          · exact ⟨env, change, List.mem_append_right heard (List.mem_singleton_self _),
              Option.some.inj recorded⟩
          · exact before recorded
      | silence | mention | lastWill | identity | status | health | security | backupStatus
      | backupLast | lastAuth | guestStatus => exact before recorded

/-- Two readings that agree where they are there agree when they are there together. -/
theorem eq_iff_of_values {α : Type} {one other : Option α} {FirstCounts SecondCounts : Prop}
    (oneThere : one.isSome = true ↔ FirstCounts) (otherThere : other.isSome = true ↔ SecondCounts)
    (values : ∀ value ∈ one, ∀ said ∈ other, value = said) :
    one = other ↔ (FirstCounts ↔ SecondCounts) := by
  rw [← oneThere, ← otherThere]
  cases one with
  | none => cases other <;> simp
  | some value =>
      cases other with
      | none => simp
      | some said => simp [values value rfl said rfl]

/-- The last wills on record agree when they count in both orders or in neither. -/
theorem lwtOnline_hearAll_eq_iff (householdId nodeId : String) (once : HeardOnce firstHeard)
    (same : (firstHeard.map Prod.snd).Perm (secondHeard.map Prod.snd)) :
    (hearAll householdId nodeId firstHeard).bind lwtOnline =
        (hearAll householdId nodeId secondHeard).bind lwtOnline ↔
      (WillCounts firstHeard ↔ WillCounts secondHeard) := by
  refine eq_iff_of_values (isSome_lwtOnline_hearAll householdId nodeId firstHeard)
    (isSome_lwtOnline_hearAll householdId nodeId secondHeard) fun online first other second => ?_
  obtain ⟨firstEnv, one⟩ := mem_of_lwtOnline first
  obtain ⟨secondEnv, two⟩ := mem_of_lwtOnline second
  exact Report.lastWill.inj (report_eq_of_kind once same one two rfl rfl)

/-- The freshness of the lock event agrees when it is heard last in both orders or in
neither. -/
theorem lockChangeIsFresh_hearAll_eq_iff (householdId nodeId : String)
    (same : (firstHeard.map Prod.snd).Perm (secondHeard.map Prod.snd)) :
    (hearAll householdId nodeId firstHeard).map lockChangeIsFresh =
        (hearAll householdId nodeId secondHeard).map lockChangeIsFresh ↔
      (EventIsLast firstHeard ↔ EventIsLast secondHeard) := by
  rw [← lockChangeIsFresh_hearAll householdId nodeId firstHeard,
    ← lockChangeIsFresh_hearAll householdId nodeId secondHeard, ← Bool.eq_iff_iff]
  rcases known_hearAll_perm householdId nodeId same with
    ⟨first, second⟩ | ⟨one, other, first, second⟩
  · rw [first, second]
    exact iff_of_true rfl rfl
  · rw [first, second, Option.map_some, Option.map_some, Option.some_inj]
    rfl

/-- The events announced agree when they are announced in both orders or in neither. -/
theorem attributedLockChange_hearAll_eq_iff (householdId nodeId : String)
    (once : HeardOnce firstHeard)
    (same : (firstHeard.map Prod.snd).Perm (secondHeard.map Prod.snd)) :
    (hearAll householdId nodeId firstHeard).bind attributedLockChange =
        (hearAll householdId nodeId secondHeard).bind attributedLockChange ↔
      (EventIsAnnounced firstHeard ↔ EventIsAnnounced secondHeard) := by
  refine eq_iff_of_values (isSome_attributedLockChange_hearAll householdId nodeId firstHeard)
    (isSome_attributedLockChange_hearAll householdId nodeId secondHeard)
    fun key first other second => ?_
  obtain ⟨firstEnv, change, one, rfl⟩ := mem_of_attributedLockChange first
  obtain ⟨secondEnv, event, two, rfl⟩ := mem_of_attributedLockChange second
  rw [Report.lockLast.inj (report_eq_of_kind once same one two rfl rfl)]

/-- What is heard of a node in the course of deliveries. -/
def heardOf (householdId nodeId : String) (deliveries : List Delivery) : List (Env × Report) :=
  (deliveries.filter (Coordinator.reaches householdId nodeId)).map fun delivery =>
    (delivery.env, .ofMessage householdId nodeId delivery.message)

/-- What is learnt of a node is all that is heard of it. -/
theorem learnAll_eq_hearAll (householdId nodeId : String) (deliveries : List Delivery) :
    Coordinator.learnAll householdId nodeId
        (deliveries.filter (Coordinator.reaches householdId nodeId)) =
      hearAll householdId nodeId (heardOf householdId nodeId deliveries) := by
  rw [heardOf]
  induction deliveries.filter (Coordinator.reaches householdId nodeId) using List.reverseRecOn with
  | nil => rfl
  | append_singleton own delivery ih =>
      rw [List.map_append, List.map_singleton, hearAll, run_concat, Coordinator.learnAll,
        run_concat]
      rw [Coordinator.learnAll] at ih
      rw [ih]
      exact learn_eq_hear (isOf_hearAll householdId nodeId _) delivery.env delivery.message

/-- Of elements with keys of their own, one at most has a given key. -/
theorem length_filter_le_one {α κ : Type} {list : List α} {key : α → κ} {kept : α → Bool}
    {shared : κ} (once : (list.map key).Nodup)
    (same : ∀ element, kept element = true → key element = shared) :
    (list.filter kept).length ≤ 1 := by
  have keys : ∀ other ∈ (list.filter kept).map key, other = shared := by
    rintro _ told
    obtain ⟨element, found, rfl⟩ := List.mem_map.mp told
    exact same element (List.mem_filter.mp found).2
  have distinct := once.sublist ((@List.filter_sublist _ kept list).map key)
  rw [List.eq_replicate_of_mem keys, List.nodup_replicate, List.length_map] at distinct
  exact distinct

/-- With one message for each topic, no subtopic of a node is heard of twice. -/
theorem heardOnce_heardOf (householdId nodeId : String) {deliveries : List Delivery}
    (once : (deliveries.map (·.message.topic)).Nodup) :
    HeardOnce (heardOf householdId nodeId deliveries) := by
  intro subtopic
  rw [heardOf, List.filter_map, List.length_map, List.filter_filter]
  -- All that is left is addressed to one topic.
  refine @length_filter_le_one _ _ _ _ _
    (householdId, some nodeId, subtopic.spelling) once fun delivery kept => ?_
  rw [Bool.and_eq_true] at kept
  obtain ⟨home, named⟩ := of_decide_eq_true (Coordinator.ownMessage_of_reaches kept.2)
  have spelled := Report.kind_ofMessage (of_decide_eq_true kept.1)
  rw [HomeKeyMessage.topic, home, named, spelled]

/-- The reports heard in another order of the messages are the same reports. -/
theorem reports_heardOf_perm (householdId nodeId : String) {first second : List Delivery}
    (same : (first.map (·.message)).Perm (second.map (·.message))) :
    ((heardOf householdId nodeId first).map Prod.snd).Perm
      ((heardOf householdId nodeId second).map Prod.snd) := by
  have reports (deliveries : List Delivery) :
      (heardOf householdId nodeId deliveries).map Prod.snd =
        ((deliveries.map (·.message)).filter fun message =>
            message.householdId = householdId ∧ Coordinator.namedNode message = some nodeId).map
          (Report.ofMessage householdId nodeId) := by
    rw [heardOf, List.filter_map, List.map_map, List.map_map]
    rfl
  rw [reports, reports]
  exact (same.filter _).map _

/-- Records that settle alike, with one reading of the last will, are available alike. -/
theorem available_congr (settles : first.settled = second.settled)
    (wills : first.lwtOnline = second.lwtOnline) : first.available = second.available := by
  have online : first.settled.online = second.settled.online := congrArg Node.online settles
  change first.online = second.online at online
  rw [available, available, online, wills]

end Node

namespace Coordinator

open Node

/-! ## A fresh coordinator -/

/-- What a coordinator that starts afresh knows of a node after deliveries. -/
def knownAfter (householdId : String) (deliveries : List Delivery) (nodeId : String) :
    Option Node :=
  (run receive (new householdId) deliveries).getNode nodeId

theorem knownAfter_eq (householdId : String) (deliveries : List Delivery) (nodeId : String) :
    knownAfter householdId deliveries nodeId =
      hearAll householdId nodeId (heardOf householdId nodeId deliveries) := by
  rw [knownAfter, getNode_run_new, learnAll_eq_hearAll]

/-- Messages with one for each topic make the same nodes known in any two orders, and leave
records that differ only in when they were seen and, where they do, in three readings: the
last will, the freshness of the lock event and the event announced. -/
theorem knownAfter_perm (householdId nodeId : String) {first second : List Delivery}
    (same : (first.map (·.message)).Perm (second.map (·.message)))
    (once : (first.map (·.message.topic)).Nodup) :
    (knownAfter householdId first nodeId).map settled =
        (knownAfter householdId second nodeId).map settled ∧
      ((knownAfter householdId first nodeId).bind lwtOnline =
          (knownAfter householdId second nodeId).bind lwtOnline ↔
        (WillCounts (heardOf householdId nodeId first) ↔
          WillCounts (heardOf householdId nodeId second))) ∧
      ((WillCounts (heardOf householdId nodeId first) ↔
          WillCounts (heardOf householdId nodeId second)) →
        (knownAfter householdId first nodeId).map available =
          (knownAfter householdId second nodeId).map available) ∧
      ((knownAfter householdId first nodeId).map lockChangeIsFresh =
          (knownAfter householdId second nodeId).map lockChangeIsFresh ↔
        (EventIsLast (heardOf householdId nodeId first) ↔
          EventIsLast (heardOf householdId nodeId second))) ∧
      ((knownAfter householdId first nodeId).bind attributedLockChange =
          (knownAfter householdId second nodeId).bind attributedLockChange ↔
        (EventIsAnnounced (heardOf householdId nodeId first) ↔
          EventIsAnnounced (heardOf householdId nodeId second))) := by
  have heardOnce := heardOnce_heardOf householdId nodeId once
  have reports := reports_heardOf_perm householdId nodeId same
  have settles := settled_hearAll_perm householdId nodeId heardOnce reports
  have wills := lwtOnline_hearAll_eq_iff householdId nodeId heardOnce reports
  simp only [knownAfter_eq]
  refine ⟨settles, wills, fun counts => ?_,
    lockChangeIsFresh_hearAll_eq_iff householdId nodeId reports,
    attributedLockChange_hearAll_eq_iff householdId nodeId heardOnce reports⟩
  have agree := wills.mpr counts
  rcases known_hearAll_perm householdId nodeId reports with
    ⟨one, other⟩ | ⟨oneNode, otherNode, one, other⟩
  · rw [one, other]
  · rw [one, other] at settles agree ⊢
    exact congrArg some (available_congr (Option.some.inj settles) agree)

/-! ### A last will before and after its node -/

/-- A node that reports for the first time. -/
def firstReport : Delivery := ⟨sampleEnv, .online "HOME001" "A1B2C3"⟩

/-- The retained last will of the same node. -/
def retainedWill : Delivery :=
  ⟨sampleEnv, .will "HOME001" "A1B2C3"
    { topic := "ESP_A1B2C3/status", payload := "offline", qos := 1, retain := true }⟩

theorem firstReport_before_retainedWill :
    (knownAfter "HOME001" [firstReport, retainedWill] "A1B2C3").map settled =
      (knownAfter "HOME001" [retainedWill, firstReport] "A1B2C3").map settled :=
  (@knownAfter_perm "HOME001" "A1B2C3" [firstReport, retainedWill] [retainedWill, firstReport]
    (.swap _ _ _) (by decide)).1

theorem ofMessage_firstReport :
    Report.ofMessage "HOME001" "A1B2C3" firstReport.message = .status true := by
  rw [Report.ofMessage, firstReport, HomeKeyMessage.ofString?_subtopic_online]
  rfl

theorem ofMessage_retainedWill :
    Report.ofMessage "HOME001" "A1B2C3" retainedWill.message = .lastWill false := by
  have legacy : Subtopic.ofString? retainedWill.message.subtopic = some .legacyStatus :=
    Subtopic.ofString?_spelling .legacyStatus
  rw [Report.ofMessage, legacy]
  rfl

/-- A last will that arrives before its node is known leaves the node available. -/
theorem retainedWill_order_matters :
    ¬ ∀ (householdId nodeId : String) (first second : List Delivery),
      (first.map (·.message)).Perm (second.map (·.message)) →
      (first.map (·.message.topic)).Nodup →
      (knownAfter householdId first nodeId).map (fun node => { node with lastSeen := none }) =
        (knownAfter householdId second nodeId).map fun node => { node with lastSeen := none } := by
  intro ordered
  have agree := congrArg (Option.map available) (ordered "HOME001" "A1B2C3"
    [firstReport, retainedWill] [retainedWill, firstReport] (.swap _ _ _) (by decide))
  have heard : heardOf "HOME001" "A1B2C3" [firstReport, retainedWill] =
      [(sampleEnv, .status true), (sampleEnv, .lastWill false)] := by
    rw [← ofMessage_firstReport, ← ofMessage_retainedWill]
    rfl
  have missed : heardOf "HOME001" "A1B2C3" [retainedWill, firstReport] =
      [(sampleEnv, .lastWill false), (sampleEnv, .status true)] := by
    rw [← ofMessage_firstReport, ← ofMessage_retainedWill]
    rfl
  rw [knownAfter_eq, knownAfter_eq, heard, missed] at agree
  cases agree

end Coordinator

end HomeKeyHousehold
