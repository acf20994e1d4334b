import HomeKeyHousehold.Attribution

/-!
# What the logbook says about the lock

An event that was too old to announce when it arrived stays on the node.  A
later snapshot that shows the state it led to announces it after all, does not
remember that it did, and does not ask how old the event is or whether it came
before the snapshot it is compared with.  An event the node reports is compared
with the last one announced, not with the last one received.
-/

namespace HomeKeyHousehold

open Library

namespace Observed

variable {state : Observed} {delivery : Delivery} {householdId nodeId : String}
variable {deliveries : List Delivery}

/-! ## Announcing once -/

/-! ### Sample deliveries -/

/-- 2 h 46 min 40 s before the sample clock. -/
def staleStamp : String := "2023-11-14T19:26:40+00:00"

/-- 1 min before the sample clock. -/
def freshStamp : String := "2023-11-14T22:12:20+00:00"

def causeEnv : Env :=
  { now := 1700000000 * microsPerSecond
    parseDatetime := fun text =>
      .ok (if text = staleStamp then some ⟨1699990000 * microsPerSecond, some 0⟩
        else if text = freshStamp then some ⟨1699999940 * microsPerSecond, some 0⟩ else none)
    logbookWorks := true
    lockEntityId := fun _ => none
    listenersRaise := false }

def gateHealth (current : Int) : Delivery :=
  ⟨causeEnv, .document "HOME001" "GATE-001" .health
    (.obj [("mqtt", .str "OK"), ("lock_current", .int current)]) false⟩

def gateEvent (source : LockSource) (current : Int) (timestamp : Json) : Delivery :=
  ⟨causeEnv, .document "HOME001" "GATE-001" .lockLast
    (.obj [("current", .int current), ("source", .str source.spelling),
      ("timestamp", timestamp)]) true⟩

/-- A tap that was too old to announce when it arrived. -/
def staleTap : Delivery := gateEvent .homekey 0 (.str staleStamp)

def staleCause : LockChangeKey := ⟨some staleStamp, 0, .homekey⟩

/-- A tap that was announced when it arrived. -/
def freshTap : Delivery := gateEvent .homekey 0 (.str freshStamp)

def freshCause : LockChangeKey := ⟨some freshStamp, 0, .homekey⟩

@[simp]
theorem lockReport_gateHealth (current : Int) :
    Coordinator.lockReport (gateHealth current).env "HOME001" (gateHealth current).message =
      some ("GATE-001", .snapshot (some current)) := by
  rw [gateHealth, Coordinator.lockReport_document _ (by decide)]
  rfl

@[simp]
theorem lockReport_staleTap :
    Coordinator.lockReport staleTap.env "HOME001" staleTap.message =
      some ("GATE-001", .event staleCause false) := by
  rw [staleTap, gateEvent, Coordinator.lockReport_document _ (by decide)]
  rfl

@[simp]
theorem lockReport_freshTap :
    Coordinator.lockReport freshTap.env "HOME001" freshTap.message =
      some ("GATE-001", .event freshCause true) := by
  rw [freshTap, gateEvent, Coordinator.lockReport_document _ (by decide)]
  rfl

@[simp]
theorem lockReport_unstampedEvent (source : LockSource) (current : Int) :
    Coordinator.lockReport (gateEvent source current .null).env "HOME001"
        (gateEvent source current .null).message =
      some ("GATE-001", .event ⟨none, current, source⟩ true) := by
  rw [gateEvent, Coordinator.lockReport_document _ (by decide)]
  cases source <;> rfl

/-- The door is seen locked and open twice after the tap. -/
def staleDeliveries : List Delivery :=
  [staleTap, gateHealth 1, gateHealth 0, gateHealth 1, gateHealth 0]

/-- The tap is delivered again after a reconnect, and the door is seen locked and open
before and after. -/
def freshDeliveries : List Delivery :=
  [gateHealth 1, freshTap, gateHealth 0, freshTap, gateHealth 1, gateHealth 0]

theorem reports_freshDeliveries :
    reports "HOME001" freshDeliveries =
      [("GATE-001", .snapshot (some 1)), ("GATE-001", .event freshCause true),
        ("GATE-001", .snapshot (some 0)), ("GATE-001", .event freshCause true),
        ("GATE-001", .snapshot (some 1)), ("GATE-001", .snapshot (some 0))] := by
  simp [reports, freshDeliveries]

theorem reports_staleDeliveries :
    reports "HOME001" staleDeliveries =
      [("GATE-001", .event staleCause false), ("GATE-001", .snapshot (some 1)),
        ("GATE-001", .snapshot (some 0)), ("GATE-001", .snapshot (some 1)),
        ("GATE-001", .snapshot (some 0))] := by
  simp [reports, staleDeliveries]

/-- The events of a node are retained: a delivery repeats the last one or brings
one that was not there before. -/
def Retained (nodeId : String) (state : Observed) (delivery : Delivery) : Prop :=
  ∀ report, state.report delivery = some (nodeId, report) →
    Announcer.Redelivers (reportsOf nodeId state.history) report

/-- No health document of a node makes `attributeLockChange` announce. -/
def SnapshotsQuiet (nodeId : String) (state : Observed) (delivery : Delivery) : Prop :=
  ∀ report, state.report delivery = some (nodeId, report) →
    Announcer.Quiet eventValue isReportable (state.coordinator.lockView nodeId) report

/-- The announcements about a node so far are settled. -/
def Settled (nodeId : String) (state : Observed) : Prop :=
  Announcer.Settled eventValue isReportable (reportsOf nodeId state.history)

theorem settled_receive (state : Observed) (delivery : Delivery)
    (settled : Settled nodeId state)
    (admitted : Retained nodeId state delivery ∧ SnapshotsQuiet nodeId state delivery) :
    Settled nodeId (state.receive delivery) := by
  obtain ⟨retained, quiet⟩ := admitted
  change Announcer.Settled eventValue isReportable
    (reportsOf nodeId (state.history ++ (state.report delivery).toList))
  rw [reportsOf_append]
  cases made : state.report delivery with
  | none =>
      rw [Option.toList_none, reportsOf_nil, List.append_nil]
      exact settled
  | some entry =>
      obtain ⟨named, report⟩ := entry
      rw [Option.toList_some]
      by_cases here : nodeId = named
      · subst here
        rw [reportsOf_singleton_self]
        have silent := quiet report made
        rw [state.view nodeId] at silent
        exact Announcer.Settled.append settled (retained report made) silent
      · rw [reportsOf_singleton_of_ne report here, List.append_nil]
        exact settled

/-- While no health document is attributed, every event of a node is announced
at most once in a run, however often it is delivered. -/
theorem announced_at_most_once
    (retained : Along receive (Retained nodeId) (start householdId) deliveries)
    (quiet : Along receive (SnapshotsQuiet nodeId) (start householdId) deliveries)
    (cause : LockChangeKey) :
    (causesOf nodeId
      (run receive (start householdId) deliveries).coordinator.logbook).count cause ≤ 1 := by
  have settled : Settled nodeId (run receive (start householdId) deliveries) :=
    run_invariant settled_receive Announcer.settled_nil (retained.and quiet)
  exact List.nodup_iff_count_le_one.mp
    (((run receive (start householdId) deliveries).logged nodeId).nodup settled.distinct) cause

/-- A redelivery is told by the reports of its node. -/
theorem retained_iff :
    Along receive (Retained nodeId) (start householdId) deliveries ↔
      Along (fun told report => told ++ [report]) Announcer.Redelivers []
        (reportsOf nodeId (reports householdId deliveries)) :=
  along_reports_iff deliveries

/-- So is what a health document leads to. -/
theorem snapshotsQuiet_iff :
    Along receive (SnapshotsQuiet nodeId) (start householdId) deliveries ↔
      Along (fun told report => told ++ [report])
        (fun told => Announcer.Quiet eventValue isReportable
          (Announcer.after eventValue isReportable told)) []
        (reportsOf nodeId (reports householdId deliveries)) := by
  rw [← along_reports_iff]
  refine along_iff fun state delivery => ?_
  rw [SnapshotsQuiet, state.view nodeId]

/-- A tap delivered again after a reconnect, with snapshots around it, is announced once. -/
theorem freshTap_announced_once :
    (causesOf "GATE-001" (run receive (start "HOME001")
      freshDeliveries).coordinator.logbook).count freshCause ≤ 1 := by
  refine announced_at_most_once (retained_iff.mpr ?_) (snapshotsQuiet_iff.mpr ?_) freshCause
  · rw [reports_freshDeliveries]
    decide
  · rw [reports_freshDeliveries]
    decide

theorem retained_staleDeliveries :
    Along receive (Retained "GATE-001") (start "HOME001") staleDeliveries := by
  rw [retained_iff, reports_staleDeliveries]
  decide

/-- The sample tap is announced twice by health documents. -/
theorem stale_tap_announced_twice :
    ¬ ∀ (householdId nodeId : String) (deliveries : List Delivery),
      Along receive (Retained nodeId) (start householdId) deliveries →
      (∀ entry ∈ reports householdId deliveries, ∀ cause timely,
        entry.2 = .event cause timely → cause.timestamp ≠ none) →
      ∀ cause, (causesOf nodeId
        (run receive (start householdId) deliveries).coordinator.logbook).count cause ≤ 1 := by
  intro once
  have stamped : ∀ entry ∈ reports "HOME001" staleDeliveries, ∀ cause timely,
      entry.2 = .event cause timely → cause.timestamp ≠ none := by
    simp [reports_staleDeliveries, staleCause]
  have works : ∀ delivery ∈ staleDeliveries, delivery.env.logbookWorks = true := by
    simp [staleDeliveries, staleTap, gateEvent, gateHealth, causeEnv]
  have count := once "HOME001" "GATE-001" staleDeliveries retained_staleDeliveries stamped
    staleCause
  rw [causes_run works, reports_staleDeliveries] at count
  exact absurd count (by decide)

/-! ## Announcing what explains a change -/

/-- A stamp that is a wall-clock time is no more than five minutes old. -/
def StampedRecently (env : Env) (timestamp : Option String) : Prop :=
  ∀ text parsed, timestamp = some text → env.parseDatetime text = .ok (some parsed) →
    wallClockFloor ≤ parsed.instant →
      env.now - parsed.instant ≤ lockEventMaxAgeSeconds * microsPerSecond

theorem stampedRecently_iff (env : Env) (timestamp : Option String) :
    StampedRecently env timestamp ↔ isRecent env timestamp ≠ .ok false := by
  constructor
  · intro stamped old
    unfold isRecent at old
    split at old
    · cases old
    · next text =>
        split at old
        · cases old
        · cases old
        · next parsed parsing =>
            split at old
            · cases old
            · next wallClock =>
                have young := stamped text parsed rfl parsing (not_lt.mp wallClock)
                rw [decide_eq_true young] at old
                cases old
  · intro recent text parsed stamp parsing wallClock
    by_contra late
    apply recent
    rw [stamp, isRecent]
    simp only [parsing, not_lt.mpr wallClock, late, if_false, decide_false]

/-- The events of a node received after its last health document before this
delivery, its own event included. -/
def receivedSince (state : Observed) (delivery : Delivery) (nodeId : String) :
    List LockChangeKey :=
  Announcer.sinceSnapshot (reportsOf nodeId state.history) ++
    Announcer.events (reportsOf nodeId (state.report delivery).toList)

/-- What a delivery writes names events that are recent, and that were received
after the last snapshot that showed the state before the change. -/
def Explained (state : Observed) (delivery : Delivery) : Prop :=
  ∀ entry ∈ state.written delivery,
    StampedRecently delivery.env entry.cause.timestamp ∧
      entry.cause ∈ state.receivedSince delivery entry.nodeId

/-- When a health document is attributed, the event on record is recent and
newer than the snapshot before. -/
def FallbackJustified (state : Observed) (delivery : Delivery) : Prop :=
  ∀ nodeId reading cause, state.report delivery = some (nodeId, .snapshot reading) →
    delivery.env.logbookWorks = true →
    (state.coordinator.lockView nodeId).announces eventValue isReportable (.snapshot reading) =
      some cause →
    isRecent delivery.env cause.timestamp ≠ .ok false ∧
      (state.coordinator.lockView nodeId).fresh = true

/-- The event a snapshot announces came after the snapshot before exactly when
it is fresh. -/
theorem mem_receivedSince_iff {reading : Option Int} {cause : LockChangeKey}
    (made : state.report delivery = some (nodeId, .snapshot reading))
    (announced : (state.coordinator.lockView nodeId).announces eventValue isReportable
      (.snapshot reading) = some cause) :
    cause ∈ state.receivedSince delivery nodeId ↔
      (state.coordinator.lockView nodeId).fresh = true := by
  have recorded := (Announcer.announces_snapshot_eq_some announced).1
  rw [state.view nodeId] at recorded ⊢
  have own : Announcer.events (reportsOf nodeId (state.report delivery).toList) = [] := by
    rw [made, Option.toList_some, reportsOf_singleton_self]
    rfl
  rw [receivedSince, own, List.append_nil]
  exact Announcer.mem_sinceSnapshot_iff recorded

theorem explained_iff_justified (state : Observed) (delivery : Delivery) :
    Explained state delivery ↔ FallbackJustified state delivery := by
  constructor
  · intro explained nodeId reading cause made works announced
    obtain ⟨entry, member, rfl, rfl⟩ := exists_written made announced works
    obtain ⟨stamped, received⟩ := explained entry member
    exact ⟨(stampedRecently_iff _ _).mp stamped,
      (mem_receivedSince_iff made announced).mp received⟩
  · intro justified entry member
    obtain ⟨report, made, announced, works⟩ := of_mem_written member
    cases report with
    | snapshot reading =>
        obtain ⟨recent, fresh⟩ := justified entry.nodeId reading entry.cause made works announced
        exact ⟨(stampedRecently_iff _ _).mpr recent,
          (mem_receivedSince_iff made announced).mpr fresh⟩
    | event event timely =>
        obtain ⟨same, -, -, rfl⟩ := Announcer.announces_event_eq_some announced
        have recent := Coordinator.timely_of_lockReport made
        rw [← same] at recent
        constructor
        · rw [stampedRecently_iff]
          intro old
          rw [isTimely, old] at recent
          cases recent
        · rw [receivedSince, made, Option.toList_some, reportsOf_singleton_self, same]
          exact List.mem_append_right _ (List.mem_singleton_self event)

/-- In a run every entry names a recent event from after the last snapshot of
the old state exactly when every health document that is attributed finds such
an event on record. -/
theorem entries_explained_iff :
    Along receive Explained (start householdId) deliveries ↔
      Along receive FallbackJustified (start householdId) deliveries :=
  along_iff explained_iff_justified

/-- The sample tap is announced when the door is next seen to open, hours later
and after a snapshot that still showed it locked. -/
theorem stale_tap_borrowed :
    ¬ ∀ (householdId : String) (deliveries : List Delivery),
      Along receive Explained (start householdId) deliveries := by
  intro explained
  have third : FallbackJustified (run receive (start "HOME001") [staleTap, gateHealth 1])
      (gateHealth 0) :=
    (explained_iff_justified _ _).mp
      (explained "HOME001" [staleTap, gateHealth 1, gateHealth 0]).2.2.1
  have history : (run receive (start "HOME001") [staleTap, gateHealth 1]).history =
      [("GATE-001", .event staleCause false), ("GATE-001", .snapshot (some 1))] := by
    rw [history_start]
    simp [reports]
  have fresh := (third "GATE-001" (some 0) staleCause
    (by rw [report_run]; exact lockReport_gateHealth 0) rfl (by rw [view, history]; rfl)).2
  rw [view, history] at fresh
  cases fresh

/-! ## Announcing what is new -/

/-- An event the device initiated, recent or without a stamp to judge by, that
differs from the event received before it is announced when it arrives. -/
def AnnouncesNews (state : Observed) (delivery : Delivery) : Prop :=
  ∀ nodeId cause timely, state.report delivery = some (nodeId, .event cause timely) →
    cause.source.isDeviceInitiated = true → isRecent delivery.env cause.timestamp = .ok true →
    (Announcer.events (reportsOf nodeId state.history)).getLast? ≠ some cause →
    ∃ entry ∈ state.written delivery, entry.nodeId = nodeId ∧ entry.cause = cause

/-- Such an event is not the last one that was announced on arrival, and the
logbook works. -/
def NewsUnannounced (state : Observed) (delivery : Delivery) : Prop :=
  ∀ nodeId cause timely, state.report delivery = some (nodeId, .event cause timely) →
    cause.source.isDeviceInitiated = true → isRecent delivery.env cause.timestamp = .ok true →
    (Announcer.events (reportsOf nodeId state.history)).getLast? ≠ some cause →
    (state.coordinator.lockView nodeId).announced ≠ some cause ∧
      delivery.env.logbookWorks = true

theorem announcesNews_iff (state : Observed) (delivery : Delivery) :
    AnnouncesNews state delivery ↔ NewsUnannounced state delivery := by
  constructor
  · intro announces nodeId cause timely made initiated recent differs
    obtain ⟨entry, member, rfl, rfl⟩ := announces nodeId cause timely made initiated recent differs
    obtain ⟨report, same, announced, works⟩ := of_mem_written member
    cases made.symm.trans same
    exact ⟨(Announcer.announces_event_eq_some announced).2.2.1, works⟩
  · intro unannounced nodeId cause timely made initiated recent differs
    obtain ⟨news, works⟩ := unannounced nodeId cause timely made initiated recent differs
    have timelyEvent : timely = true := by
      rw [Coordinator.timely_of_lockReport made, isTimely, recent]
    exact exists_written made (if_pos ⟨initiated, news, timelyEvent⟩) works

/-- In a run every new event is announced on arrival exactly when none of them
repeats the last one announced and the logbook works for each. -/
theorem news_announced_iff :
    Along receive AnnouncesNews (start householdId) deliveries ↔
      Along receive NewsUnannounced (start householdId) deliveries :=
  along_iff announcesNews_iff

/-- A second tap like the first is swallowed although Home Assistant's own
command came between them. -/
theorem second_tap_swallowed :
    ¬ ∀ (householdId : String) (deliveries : List Delivery),
      Along receive AnnouncesNews (start householdId) deliveries := by
  intro announces
  have third : NewsUnannounced
      (run receive (start "HOME001") [gateEvent .homekey 0 .null, gateEvent .mqtt 1 .null])
      (gateEvent .homekey 0 .null) :=
    (announcesNews_iff _ _).mp (announces "HOME001" [gateEvent .homekey 0 .null,
      gateEvent .mqtt 1 .null, gateEvent .homekey 0 .null]).2.2.1
  have history : (run receive (start "HOME001")
      [gateEvent .homekey 0 .null, gateEvent .mqtt 1 .null]).history =
      [("GATE-001", .event ⟨none, 0, .homekey⟩ true),
        ("GATE-001", .event ⟨none, 1, .mqtt⟩ true)] := by
    rw [history_start]
    simp [reports]
  have news := (third "GATE-001" ⟨none, 0, .homekey⟩ true
    (by rw [report_run]; exact lockReport_unstampedEvent _ _) rfl rfl
    (by rw [history]; decide)).1
  rw [view, history] at news
  exact news rfl

end Observed

end HomeKeyHousehold
