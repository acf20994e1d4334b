import HomeKeyHousehold.Record

/-!
# Naming the person of a tap

An entry about a tap names the person of the last authorisation on record when
it bears the stamp of the tap.  Whether that authorisation was granted is not
looked at.
-/

namespace HomeKeyHousehold

open Library

/-- The person an authorisation names at a stamp. -/
def LastAuth.personAt (auth : LastAuth) (timestamp : Option String) : Option String :=
  match auth.issuer, auth.timestamp with
  | some issuer, some stamp => if issuer ≠ "" ∧ timestamp = some stamp then some issuer else none
  | _, _ => none

/-- An entry that names more than a mechanism. -/
def LogbookEntry.NamesPerson (entry : LogbookEntry) : Prop :=
  entry.actor ≠ entry.cause.source.label

namespace Coordinator

variable {env : Env} {coordinator : Coordinator} {nodeId : String}

/-- The authorisation on record for a node. -/
def authOf (coordinator : Coordinator) (nodeId : String) : Option LastAuth :=
  (coordinator.getNode nodeId).bind Node.lastAuth

/-- The person on record as having opened a node at a stamp. -/
def personOnRecord (coordinator : Coordinator) (nodeId : String) (timestamp : Option String) :
    Option String :=
  (coordinator.authOf nodeId).bind fun auth => auth.personAt timestamp

theorem ensureNode_lastAuth (coordinator : Coordinator) (nodeId : String) :
    (coordinator.ensureNode nodeId).2.lastAuth = coordinator.authOf nodeId := by
  unfold ensureNode authOf
  split
  · next node known =>
      rw [known]
      rfl
  · next unknown =>
      rw [unknown]
      rfl

/-- A tap is attributed to the person on record, or else to the credential. -/
theorem actorFor_homekey (node : Node) (timestamp : Option String) :
    actorFor node .homekey timestamp =
      (node.lastAuth.bind fun auth => auth.personAt timestamp).getD LockSource.homekey.label := by
  unfold actorFor
  cases node.lastAuth with
  | none => rfl
  | some auth =>
      obtain ⟨authType, result, stamp, issuer⟩ := auth
      cases issuer with
      | none => rfl
      | some issuer =>
          cases stamp with
          | none => rfl
          | some stamp =>
              dsimp only [Option.bind_some, LastAuth.personAt]
              split
              · rfl
              · rfl

/-- Nobody is named for a tap without a stamp. -/
theorem actorFor_unstamped (node : Node) :
    actorFor node .homekey none = LockSource.homekey.label := by
  unfold actorFor
  split
  · split
    · exact if_neg fun named => nomatch named.2
    · rfl
  · rfl

/-- Only a tap is attributed to a person. -/
theorem actorFor_of_ne {node : Node} {source : LockSource} (timestamp : Option String)
    (other : source ≠ .homekey) : actorFor node source timestamp = source.label := by
  unfold actorFor
  split
  · exact absurd rfl other
  · rfl

/-- A person is on record through the one authorisation of a node. -/
theorem personOnRecord_eq_some {timestamp : Option String} {person : String} :
    coordinator.personOnRecord nodeId timestamp = some person ↔
      ∃ auth, coordinator.authOf nodeId = some auth ∧ auth.personAt timestamp = some person := by
  rw [personOnRecord, Option.bind_eq_some_iff]

end Coordinator

theorem LastAuth.personAt_eq_some {auth : LastAuth} {timestamp : Option String} {person : String} :
    auth.personAt timestamp = some person ↔
      person ≠ "" ∧ auth.issuer = some person ∧
        ∃ stamp, auth.timestamp = some stamp ∧ timestamp = some stamp := by
  unfold LastAuth.personAt
  constructor
  · intro named
    split at named
    · next issuer stamp issued stamped =>
        split at named
        · next granted =>
            cases named
            exact ⟨granted.1, issued, stamp, stamped, granted.2⟩
        · cases named
    · cases named
  · rintro ⟨filled, issued, stamp, stamped, same⟩
    rw [issued, stamped]
    exact if_pos ⟨filled, same⟩

/-! ### A sample tap -/

def tapStamp : String := "2023-11-14T22:13:20+00:00"

def tapEnv : Env :=
  { now := 1700000000 * microsPerSecond
    parseDatetime := fun text =>
      .ok (if text = tapStamp then some ⟨1700000000 * microsPerSecond, some 0⟩ else none)
    logbookWorks := true
    lockEntityId := fun _ => none
    listenersRaise := false }

def tapChange : Dict :=
  [("current", .int 0), ("source", .str "homekey"), ("timestamp", .str tapStamp)]

namespace Observed

variable {state : Observed} {delivery : Delivery} {householdId : String}
variable {deliveries : List Delivery}

/-- The record proves who an entry names: a granted authorisation of that person
with the stamp of the tap. -/
structure Proven (coordinator : Coordinator) (entry : LogbookEntry) : Prop where
  homekey : entry.cause.source = .homekey
  granted : ∃ auth stamp, coordinator.authOf entry.nodeId = some auth ∧
    auth.result = .success ∧ auth.issuer = some entry.actor ∧
    auth.timestamp = some stamp ∧ entry.cause.timestamp = some stamp

/-- A delivery writes the name of a person only on proof. -/
def NamesOnProof (state : Observed) (delivery : Delivery) : Prop :=
  ∀ entry ∈ state.written delivery, entry.NamesPerson → Proven state.coordinator entry

/-- The authorisation on record that names a person for a tap that is announced
was granted. -/
def NamedWereGranted (state : Observed) (delivery : Delivery) : Prop :=
  ∀ nodeId report cause auth person, state.report delivery = some (nodeId, report) →
    delivery.env.logbookWorks = true →
    (state.coordinator.lockView nodeId).announces eventValue isReportable report = some cause →
    cause.source = .homekey → state.coordinator.authOf nodeId = some auth →
    auth.personAt cause.timestamp = some person → person ≠ LockSource.homekey.label →
    auth.result = .success

/-- An entry about a tap names who is on record for its stamp. -/
theorem actor_of_homekey {entry : LogbookEntry} (member : entry ∈ state.written delivery)
    (homekey : entry.cause.source = .homekey) :
    entry.actor = (state.coordinator.personOnRecord entry.nodeId entry.cause.timestamp).getD
      LockSource.homekey.label := by
  obtain ⟨report, node, -, -, -, described, written⟩ := entry_of_mem_written member
  have actor : entry.actor = Coordinator.actorFor node entry.cause.source entry.cause.timestamp :=
    congrArg LogbookEntry.actor written
  rw [actor, homekey, Coordinator.actorFor_homekey, described.lastAuth,
    Coordinator.ensureNode_lastAuth]
  rfl

/-- An entry about anything but a tap names the mechanism. -/
theorem actor_of_other {entry : LogbookEntry} (member : entry ∈ state.written delivery)
    (other : entry.cause.source ≠ .homekey) : entry.actor = entry.cause.source.label := by
  obtain ⟨report, node, -, -, -, -, written⟩ := entry_of_mem_written member
  have actor : entry.actor = Coordinator.actorFor node entry.cause.source entry.cause.timestamp :=
    congrArg LogbookEntry.actor written
  rw [actor, Coordinator.actorFor_of_ne _ other]

theorem namesOnProof_iff (state : Observed) (delivery : Delivery) :
    NamesOnProof state delivery ↔ NamedWereGranted state delivery := by
  constructor
  · intro proof nodeId report cause auth person made works announced homekey recorded named apart
    obtain ⟨entry, member, rfl, rfl⟩ := exists_written made announced works
    have onRecord : state.coordinator.personOnRecord entry.nodeId entry.cause.timestamp =
        some person := Coordinator.personOnRecord_eq_some.mpr ⟨auth, recorded, named⟩
    have actor := actor_of_homekey member homekey
    rw [onRecord, Option.getD_some] at actor
    have names : entry.NamesPerson := by
      rw [LogbookEntry.NamesPerson, actor, homekey]
      exact apart
    obtain ⟨granting, -, found, granted, -⟩ := (proof entry member names).granted
    rw [recorded] at found
    cases found
    exact granted
  · intro granted entry member names
    obtain ⟨report, node, made, announced, works, -⟩ := entry_of_mem_written member
    by_cases homekey : entry.cause.source = .homekey
    · have actor := actor_of_homekey member homekey
      cases onRecord : state.coordinator.personOnRecord entry.nodeId entry.cause.timestamp with
      | none =>
          rw [onRecord, Option.getD_none, ← homekey] at actor
          exact absurd actor names
      | some person =>
          rw [onRecord, Option.getD_some] at actor
          obtain ⟨auth, recorded, named⟩ := Coordinator.personOnRecord_eq_some.mp onRecord
          obtain ⟨-, issued, stamp, stamped, same⟩ := LastAuth.personAt_eq_some.mp named
          rw [LogbookEntry.NamesPerson, actor, homekey] at names
          refine ⟨homekey, auth, stamp, recorded, ?_, ?_, stamped, same⟩
          · exact granted entry.nodeId report entry.cause auth person made works announced homekey
              recorded named names
          · rw [actor]
            exact issued
    · exact absurd (actor_of_other member homekey) names

/-- In a run every person is named on proof exactly when every authorisation that
names a person for an announced tap was granted. -/
theorem names_on_proof_iff :
    Along receive NamesOnProof (start householdId) deliveries ↔
      Along receive NamedWereGranted (start householdId) deliveries :=
  along_iff namesOnProof_iff

/-- An authorisation of Artur that was rejected, with the stamp of the tap. -/
def rejectedAuth : Dict :=
  [("result", .str "FAILURE"), ("timestamp", .str tapStamp), ("issuer", .str "Artur")]

def rejectedDeliveries : List Delivery :=
  [⟨tapEnv, .document "HOME001" "GATE-001" .lastAuth (.obj rejectedAuth) true⟩,
    ⟨tapEnv, .document "HOME001" "GATE-001" .lockLast (.obj tapChange) true⟩]

/-- The sample tap names Artur, who was rejected. -/
theorem rejected_person_named :
    ¬ ∀ (householdId : String) (deliveries : List Delivery),
      Along receive NamesOnProof (start householdId) deliveries := by
  intro proof
  have tap := (namesOnProof_iff _ _).mp (proof "HOME001" rejectedDeliveries).2.1
  obtain ⟨recorded, handled, kept, found⟩ :=
    @Coordinator.handled_lastAuth (.new "HOME001") "HOME001" "GATE-001" tapEnv rfl (by decide)
      (.obj rejectedAuth) ⟨"HomeKey", .failure, some tapStamp, some "Artur"⟩ (by rfl)
  have reached : ((start "HOME001").receive ⟨tapEnv, .document "HOME001" "GATE-001" .lastAuth
      (.obj rejectedAuth) true⟩).coordinator = recorded := handled
  have onRecord : recorded.authOf "GATE-001" =
      some ⟨"HomeKey", .failure, some tapStamp, some "Artur"⟩ := by
    rw [Coordinator.authOf, found]
    rfl
  have made : Coordinator.lockReport tapEnv "HOME001"
      (.document "HOME001" "GATE-001" .lockLast (.obj tapChange) true) =
        some ("GATE-001", .event ⟨some tapStamp, 0, .homekey⟩ true) := by
    rw [Coordinator.lockReport_document _ (by decide)]
    rfl
  have granted := tap "GATE-001" (.event ⟨some tapStamp, 0, .homekey⟩ true)
    ⟨some tapStamp, 0, .homekey⟩ _ "Artur" (by rw [report, householdId_receive]; exact made) rfl
    (by rw [reached, kept.view]; rfl) rfl (by rw [reached]; exact onRecord) (by rfl) (by decide)
  cases granted

end Observed

end HomeKeyHousehold
