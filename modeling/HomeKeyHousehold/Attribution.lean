import HomeKeyHousehold.Library.Run
import HomeKeyHousehold.LockView

/-!
# Attribution over whole runs

A coordinator is observed together with the lock reports it accepted.  In every
state of a run its views are those of an announcer that was told the same
reports, and its logbook holds no announcement the announcer did not make.
-/

namespace HomeKeyHousehold

open Library

/-- A message, and the world at the moment it arrives. -/
structure Delivery where
  env : Env
  message : HomeKeyMessage

/-- The reports about one node, oldest first. -/
def reportsOf (nodeId : String) (history : List (String × LockReport)) : List LockReport :=
  history.filterMap fun entry => if entry.1 = nodeId then some entry.2 else none

/-- The causes announced for one node, oldest first. -/
def causesOf (nodeId : String) (logbook : List LogbookEntry) : List LockChangeKey :=
  (logbook.filter fun entry => entry.nodeId = nodeId).map LogbookEntry.cause

@[simp]
theorem reportsOf_nil (nodeId : String) : reportsOf nodeId [] = [] := rfl

@[simp]
theorem reportsOf_append (nodeId : String) (first second : List (String × LockReport)) :
    reportsOf nodeId (first ++ second) = reportsOf nodeId first ++ reportsOf nodeId second :=
  List.filterMap_append

@[simp]
theorem reportsOf_singleton_self (nodeId : String) (report : LockReport) :
    reportsOf nodeId [(nodeId, report)] = [report] := by
  simp [reportsOf]

theorem reportsOf_singleton_of_ne {nodeId other : String} (report : LockReport)
    (apart : other ≠ nodeId) : reportsOf other [(nodeId, report)] = [] := by
  simp [reportsOf, apart.symm]

@[simp]
theorem causesOf_append (nodeId : String) (first second : List LogbookEntry) :
    causesOf nodeId (first ++ second) = causesOf nodeId first ++ causesOf nodeId second := by
  simp [causesOf]

/-- New entries are about their node only. -/
theorem causesOf_newEntries (env : Env) (node : Node) (context : Nat)
    (made : Option LockChangeKey) (nodeId : String) :
    causesOf nodeId (Coordinator.newEntries env node context made) =
      if env.logbookWorks = true ∧ node.nodeId = nodeId then made.toList else [] := by
  unfold Coordinator.newEntries
  by_cases works : env.logbookWorks = true
  · cases made with
    | none => simp [causesOf]
    | some cause =>
        by_cases here : node.nodeId = nodeId
        · simp [causesOf, works, here, Coordinator.lockCauseEntry]
        · simp [causesOf, works, here, Coordinator.lockCauseEntry]
  · simp [works, causesOf]

/-- What an announcer makes of the reports about a node. -/
abbrev announcerOf (nodeId : String) (history : List (String × LockReport)) : LockView :=
  Announcer.after eventValue isReportable (reportsOf nodeId history)

/-- What an announcer announces in the course of the reports about a node. -/
abbrev announcementsOf (nodeId : String) (history : List (String × LockReport)) :
    List LockChangeKey :=
  Announcer.announcements eventValue isReportable (reportsOf nodeId history)

theorem Coordinator.Effect.householdId {env : Env} {before after : Coordinator}
    {made : Option (String × LockReport)} (effect : Effect env before after made) :
    after.householdId = before.householdId := by
  cases made with
  | none => exact SameView.householdId effect
  | some report => exact Reported.householdId effect

/-- One message keeps the views those of the announcers. -/
theorem Coordinator.Effect.view {env : Env} {before after : Coordinator}
    {made : Option (String × LockReport)} {history : List (String × LockReport)}
    (effect : Effect env before after made)
    (view : ∀ nodeId, before.lockView nodeId = announcerOf nodeId history) (nodeId : String) :
    after.lockView nodeId = announcerOf nodeId (history ++ made.toList) := by
  cases made with
  | none =>
      rw [Option.toList_none, List.append_nil, ← view]
      exact SameView.view effect nodeId
  | some report =>
      obtain ⟨named, report⟩ := report
      have reported : Reported env before after named report := effect
      rw [Option.toList_some, announcerOf, reportsOf_append]
      by_cases here : nodeId = named
      · subst here
        rw [reportsOf_singleton_self, Announcer.after_append, reported.view, view]
      · rw [reportsOf_singleton_of_ne report here, List.append_nil, reported.others nodeId here,
          view]

/-- One message adds to the causes of a node what its announcer announces, if the
logbook works. -/
theorem Coordinator.Effect.causes {env : Env} {before after : Coordinator}
    {made : Option (String × LockReport)} {history : List (String × LockReport)}
    (effect : Effect env before after made)
    (view : ∀ nodeId, before.lockView nodeId = announcerOf nodeId history) (nodeId : String) :
    ∃ announced, announcementsOf nodeId (history ++ made.toList) =
        announcementsOf nodeId history ++ announced ∧
      causesOf nodeId after.logbook = causesOf nodeId before.logbook ++
        if env.logbookWorks then announced else [] := by
  cases made with
  | none =>
      refine ⟨[], ?_, ?_⟩
      · rw [Option.toList_none, List.append_nil, List.append_nil]
      · rw [ite_self, List.append_nil, SameView.logbook effect]
  | some report =>
      obtain ⟨named, report⟩ := report
      obtain ⟨node, described, logbook⟩ := Reported.logbook effect
      rw [Option.toList_some, announcementsOf, announcementsOf, reportsOf_append, logbook,
        causesOf_append, causesOf_newEntries, described.named]
      by_cases here : nodeId = named
      · subst here
        refine ⟨((announcerOf nodeId history).announces eventValue isReportable report).toList,
          ?_, ?_⟩
        · rw [reportsOf_singleton_self, Announcer.announcements_append]
        · simp [view]
      · refine ⟨[], ?_, ?_⟩
        · rw [reportsOf_singleton_of_ne report here, List.append_nil, List.append_nil]
        · have apart : ¬ named = nodeId := fun equal => here equal.symm
          simp [apart]

/-- A coordinator with the lock reports it accepted, oldest first. -/
structure Observed where
  coordinator : Coordinator
  history : List (String × LockReport)
  view : ∀ nodeId, coordinator.lockView nodeId = announcerOf nodeId history
  logged : ∀ nodeId,
    (causesOf nodeId coordinator.logbook).Sublist (announcementsOf nodeId history)

namespace Observed

variable {state : Observed} {delivery : Delivery}

/-- A new coordinator has accepted no report. -/
def start (householdId : String) : Observed where
  coordinator := Coordinator.new householdId
  history := []
  view := fun _ => rfl
  logged := fun _ => List.Sublist.refl _

/-- The report a delivery makes, and the node it is about. -/
def report (state : Observed) (delivery : Delivery) : Option (String × LockReport) :=
  Coordinator.lockReport delivery.env state.coordinator.householdId delivery.message

/-- Hand a message to the coordinator. -/
def receive (state : Observed) (delivery : Delivery) : Observed where
  coordinator :=
    (state.coordinator.asyncHandleMessage delivery.env delivery.message).coordinator
  history := state.history ++ (state.report delivery).toList
  view := (Coordinator.effect_asyncHandleMessage delivery.env state.coordinator
    delivery.message).view state.view
  logged := by
    intro nodeId
    obtain ⟨announced, made, causes⟩ := (Coordinator.effect_asyncHandleMessage delivery.env
      state.coordinator delivery.message).causes state.view nodeId
    rw [report, made, causes]
    refine (state.logged nodeId).append ?_
    split
    · exact List.Sublist.refl _
    · exact List.nil_sublist _

/-- The entries a delivery adds to the logbook. -/
def written (state : Observed) (delivery : Delivery) : List LogbookEntry :=
  (state.receive delivery).coordinator.logbook.drop state.coordinator.logbook.length

theorem logbook_receive (state : Observed) (delivery : Delivery) :
    (state.receive delivery).coordinator.logbook =
        state.coordinator.logbook ++ state.written delivery ∧
      match state.report delivery with
      | none => state.written delivery = []
      | some (nodeId, report) => ∃ node : Node, Coordinator.Described state.coordinator nodeId node ∧
          state.written delivery = Coordinator.newEntries delivery.env node
            state.coordinator.contexts
            ((state.coordinator.lockView nodeId).announces eventValue isReportable report) := by
  have effect := Coordinator.effect_asyncHandleMessage delivery.env state.coordinator
    delivery.message
  change Coordinator.Effect delivery.env state.coordinator (state.receive delivery).coordinator
    (state.report delivery) at effect
  unfold written
  cases made : state.report delivery with
  | none =>
      rw [made] at effect
      rw [Coordinator.SameView.logbook effect]
      simp
  | some report =>
      obtain ⟨nodeId, report⟩ := report
      rw [made] at effect
      obtain ⟨node, described, logbook⟩ := Coordinator.Reported.logbook effect
      rw [logbook, List.drop_left]
      exact ⟨rfl, node, described, rfl⟩

/-- An entry is written for an announcement about its node, from what is on record
for that node. -/
theorem entry_of_mem_written {entry : LogbookEntry} (member : entry ∈ state.written delivery) :
    ∃ report node, state.report delivery = some (entry.nodeId, report) ∧
      (state.coordinator.lockView entry.nodeId).announces eventValue isReportable report =
        some entry.cause ∧
      delivery.env.logbookWorks = true ∧
      Coordinator.Described state.coordinator entry.nodeId node ∧
      entry = Coordinator.lockCauseEntry delivery.env node entry.cause
        state.coordinator.contexts := by
  have added := (logbook_receive state delivery).2
  cases made : state.report delivery with
  | none =>
      rw [made] at added
      rw [added] at member
      cases member
  | some report =>
      obtain ⟨nodeId, report⟩ := report
      rw [made] at added
      obtain ⟨node, described, added⟩ := added
      obtain rfl := described.named
      rw [added, Coordinator.newEntries] at member
      split at member
      · next works =>
          obtain ⟨cause, announced, rfl⟩ := List.mem_map.mp member
          exact ⟨report, node, rfl, Option.mem_toList.mp announced, works, described, rfl⟩
      · cases member

theorem of_mem_written {entry : LogbookEntry} (member : entry ∈ state.written delivery) :
    ∃ report, state.report delivery = some (entry.nodeId, report) ∧
      (state.coordinator.lockView entry.nodeId).announces eventValue isReportable report =
        some entry.cause ∧ delivery.env.logbookWorks = true := by
  obtain ⟨report, node, made, announced, works, -⟩ := entry_of_mem_written member
  exact ⟨report, made, announced, works⟩

/-- An announcement about a node is written, if the logbook works. -/
theorem exists_written {nodeId : String} {report : LockReport} {cause : LockChangeKey}
    (made : state.report delivery = some (nodeId, report))
    (announced : (state.coordinator.lockView nodeId).announces eventValue isReportable report =
      some cause)
    (works : delivery.env.logbookWorks = true) :
    ∃ entry ∈ state.written delivery, entry.nodeId = nodeId ∧ entry.cause = cause := by
  have added := (logbook_receive state delivery).2
  rw [made] at added
  obtain ⟨node, described, added⟩ := added
  obtain rfl := described.named
  rw [added, announced, Coordinator.newEntries, if_pos works]
  exact ⟨_, List.mem_singleton_self _, rfl, rfl⟩

/-! ## Runs -/

@[simp]
theorem householdId_receive (state : Observed) (delivery : Delivery) :
    (state.receive delivery).coordinator.householdId = state.coordinator.householdId :=
  (Coordinator.effect_asyncHandleMessage delivery.env state.coordinator
    delivery.message).householdId

theorem history_receive (state : Observed) (delivery : Delivery) :
    (state.receive delivery).history = state.history ++ (state.report delivery).toList := rfl

/-- The reports a run of deliveries makes to a household. -/
def reports (householdId : String) (deliveries : List Delivery) : List (String × LockReport) :=
  deliveries.filterMap fun delivery =>
    Coordinator.lockReport delivery.env householdId delivery.message

theorem history_run (state : Observed) (deliveries : List Delivery) :
    (run receive state deliveries).history =
      state.history ++ reports state.coordinator.householdId deliveries := by
  induction deliveries generalizing state with
  | nil => exact (List.append_nil _).symm
  | cons delivery rest ih =>
      rw [run_cons, ih, householdId_receive, reports, reports, List.filterMap_cons]
      change state.history ++ (Coordinator.lockReport delivery.env
        state.coordinator.householdId delivery.message).toList ++ _ = _
      split
      · next silent => rw [silent, Option.toList_none, List.append_nil]
      · next report made => rw [made, Option.toList_some, List.append_assoc, List.singleton_append]

theorem history_start (householdId : String) (deliveries : List Delivery) :
    (run receive (start householdId) deliveries).history = reports householdId deliveries :=
  history_run (start householdId) deliveries

@[simp]
theorem householdId_run (state : Observed) (deliveries : List Delivery) :
    (run receive state deliveries).coordinator.householdId = state.coordinator.householdId := by
  induction deliveries generalizing state with
  | nil => rfl
  | cons delivery rest ih => rw [run_cons, ih, householdId_receive]

theorem report_run (householdId : String) (deliveries : List Delivery) (delivery : Delivery) :
    (run receive (start householdId) deliveries).report delivery =
      Coordinator.lockReport delivery.env householdId delivery.message := by
  rw [report, householdId_run]
  rfl

/-- A condition on what a node reports is met in a run when the reports meet it, one after
the other. -/
theorem along_reports_iff {nodeId householdId : String}
    {Allowed : List LockReport → LockReport → Prop} (deliveries : List Delivery) :
    Along receive (fun state delivery => ∀ report,
        state.report delivery = some (nodeId, report) →
          Allowed (reportsOf nodeId state.history) report) (start householdId) deliveries ↔
      Along (fun told report => told ++ [report]) Allowed []
        (reportsOf nodeId (reports householdId deliveries)) := by
  induction deliveries using List.reverseRecOn with
  | nil => exact Iff.rfl
  | append_singleton earlier last ih =>
      have split : reports householdId (earlier ++ [last]) = reports householdId earlier ++
          (Coordinator.lockReport last.env householdId last.message).toList := by
        rw [← history_start, run_concat, history_receive, history_start, report_run]
      rw [along_append, ih, split, reportsOf_append, along_append, Along, Along, report_run,
        history_start, run_appended, List.nil_append]
      cases made : Coordinator.lockReport last.env householdId last.message with
      | none => simp [Along]
      | some entry =>
          obtain ⟨named, report⟩ := entry
          by_cases here : nodeId = named
          · subst here
            simp [Along]
          · simp [Along, reportsOf_singleton_of_ne report here, Ne.symm here]

/-- The logbook holds every announcement about a node. -/
def Complete (nodeId : String) (state : Observed) : Prop :=
  causesOf nodeId state.coordinator.logbook = announcementsOf nodeId state.history

theorem complete_receive {nodeId : String} (state : Observed) (delivery : Delivery)
    (complete : Complete nodeId state) (works : delivery.env.logbookWorks = true) :
    Complete nodeId (state.receive delivery) := by
  obtain ⟨announced, made, causes⟩ := (Coordinator.effect_asyncHandleMessage delivery.env
    state.coordinator delivery.message).causes state.view nodeId
  rw [if_pos works, complete] at causes
  exact causes.trans made.symm

/-- While the logbook works, it holds every announcement. -/
theorem causes_run {householdId : String} {deliveries : List Delivery}
    (works : ∀ delivery ∈ deliveries, delivery.env.logbookWorks = true) (nodeId : String) :
    causesOf nodeId (run receive (start householdId) deliveries).coordinator.logbook =
      announcementsOf nodeId (reports householdId deliveries) := by
  have complete : Complete nodeId (run receive (start householdId) deliveries) :=
    run_invariant complete_receive rfl (along_of_forall works _)
  rw [complete, history_start]

end Observed

end HomeKeyHousehold
