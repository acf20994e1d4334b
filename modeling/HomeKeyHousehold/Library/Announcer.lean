import Mathlib.Data.List.DropRight
import Mathlib.Data.List.Induction
import Mathlib.Data.List.Nodup

/-!
# Announcing the causes of changes

A quantity is described by two kinds of report: events, which say what it became
and why, and snapshots, which only show its value on a cadence.  An announcer
names the cause of a change once: when its event arrives, or when a snapshot
shows a change that the last event explains.  Only an announcement on arrival
is remembered.
-/

namespace Library

/-- What is known of the quantity. -/
structure Announcer (σ κ : Type) where
  /-- The value in the last snapshot. -/
  reading : Option σ
  /-- The last event. -/
  event : Option κ
  /-- Whether that event is newer than the last snapshot. -/
  fresh : Bool
  /-- The last event announced on arrival. -/
  announced : Option κ
  deriving DecidableEq

/-- A report: a snapshot, or an event with whether it is recent enough. -/
inductive Report (σ κ : Type) where
  | snapshot (reading : Option σ)
  | event (event : κ) (timely : Bool)
  deriving DecidableEq

namespace Announcer

variable {σ κ : Type}

/-! ## Histories -/

/-- The events of a history, oldest first. -/
def events (history : List (Report σ κ)) : List κ :=
  history.filterMap fun
    | .event event _ => some event
    | .snapshot _ => none

/-- The events that came after the last snapshot. -/
def sinceSnapshot (history : List (Report σ κ)) : List κ :=
  events (history.rtakeWhile fun
    | .event _ _ => true
    | .snapshot _ => false)

@[simp]
theorem events_append_event (history : List (Report σ κ)) (event : κ) (timely : Bool) :
    events (history ++ [.event event timely]) = events history ++ [event] := by
  simp [events]

@[simp]
theorem events_append_snapshot (history : List (Report σ κ)) (reading : Option σ) :
    events (history ++ [.snapshot reading]) = events history := by
  simp [events]

@[simp]
theorem sinceSnapshot_append_event (history : List (Report σ κ)) (event : κ) (timely : Bool) :
    sinceSnapshot (history ++ [.event event timely]) = sinceSnapshot history ++ [event] := by
  rw [sinceSnapshot, List.rtakeWhile_concat_pos _ _ _ rfl]
  exact events_append_event _ event timely

@[simp]
theorem sinceSnapshot_append_snapshot (history : List (Report σ κ)) (reading : Option σ) :
    sinceSnapshot (history ++ [.snapshot reading]) = [] := by
  rw [sinceSnapshot, List.rtakeWhile_concat_neg _ _ _ Bool.false_ne_true]
  rfl

/-! ## Announcing -/

variable [DecidableEq σ] [DecidableEq κ] (value : κ → σ) (reportable : κ → Bool)

/-- Nothing is known yet. -/
def initial : Announcer σ κ := ⟨none, none, false, none⟩

/-- The event a report makes the announcer name. -/
def announces (known : Announcer σ κ) : Report σ κ → Option κ
  | .event event timely =>
      if reportable event ∧ known.announced ≠ some event ∧ timely then some event else none
  | .snapshot reading =>
      match known.reading, reading, known.event with
      | some previous, some current, some event =>
          if current ≠ previous ∧ value event = current ∧ known.announced ≠ some event ∧
              reportable event then
            some event
          else none
      | _, _, _ => none

/-- What is known after a report. -/
def next (known : Announcer σ κ) : Report σ κ → Announcer σ κ
  | .snapshot reading => { known with reading, fresh := false }
  | .event event timely =>
      { known with
        event := some event
        fresh := true
        announced :=
          if (known.announces value reportable (.event event timely)).isSome then some event
          else known.announced }

/-- What is known after a history of reports. -/
def after (history : List (Report σ κ)) : Announcer σ κ :=
  history.foldl (next value reportable) initial

/-- One more report, and the announcement it leads to. -/
def record (state : Announcer σ κ × List κ) (report : Report σ κ) : Announcer σ κ × List κ :=
  (state.1.next value reportable report,
    state.2 ++ (state.1.announces value reportable report).toList)

/-- The announcements made in the course of a history. -/
def announcements (history : List (Report σ κ)) : List κ :=
  (history.foldl (record value reportable) (initial, [])).2

variable {value : κ → σ} {reportable : κ → Bool}

@[simp]
theorem after_append (history : List (Report σ κ)) (report : Report σ κ) :
    after value reportable (history ++ [report]) =
      (after value reportable history).next value reportable report := by
  rw [after, List.foldl_append]
  rfl

theorem record_fst (history : List (Report σ κ)) :
    (history.foldl (record value reportable) (initial, [])).1 =
      after value reportable history := by
  induction history using List.reverseRecOn with
  | nil => rfl
  | append_singleton earlier report ih =>
      rw [List.foldl_append, after_append, ← ih]
      rfl

@[simp]
theorem announcements_append (history : List (Report σ κ)) (report : Report σ κ) :
    announcements value reportable (history ++ [report]) =
      announcements value reportable history ++
        ((after value reportable history).announces value reportable report).toList := by
  rw [announcements, List.foldl_append, ← record_fst]
  rfl

/-- The recorded event is fresh exactly when it came after the last snapshot;
when it is not, none did. -/
theorem sinceSnapshot_of_fresh (history : List (Report σ κ)) :
    ((after value reportable history).fresh = true →
      (sinceSnapshot history).getLast? = (after value reportable history).event ∧
        sinceSnapshot history ≠ []) ∧
    ((after value reportable history).fresh = false → sinceSnapshot history = []) := by
  induction history using List.reverseRecOn with
  | nil => exact ⟨fun fresh => absurd fresh Bool.false_ne_true, fun _ => rfl⟩
  | append_singleton earlier report ih =>
      cases report with
      | snapshot reading =>
          rw [after_append, sinceSnapshot_append_snapshot]
          exact ⟨fun fresh => absurd fresh Bool.false_ne_true, fun _ => rfl⟩
      | event event timely =>
          rw [after_append, sinceSnapshot_append_event, List.getLast?_concat]
          exact ⟨fun _ => ⟨rfl, List.append_ne_nil_of_right_ne_nil _ (List.cons_ne_nil _ _)⟩,
            fun stale => absurd stale.symm Bool.false_ne_true⟩

/-- An event explains a change that a snapshot shows if it came after the
snapshot before. -/
theorem mem_sinceSnapshot_iff {history : List (Report σ κ)} {event : κ}
    (recorded : (after value reportable history).event = some event) :
    event ∈ sinceSnapshot history ↔ (after value reportable history).fresh = true := by
  obtain ⟨whenFresh, whenStale⟩ := @sinceSnapshot_of_fresh _ _ _ _ value reportable history
  cases fresh : (after value reportable history).fresh with
  | false =>
      rw [whenStale fresh]
      simp
  | true =>
      refine iff_of_true ?_ rfl
      have last := (whenFresh fresh).1
      rw [recorded] at last
      exact List.mem_of_getLast? last

/-! ## Announcing once -/

/-- A delivery of an event repeats the last one or brings a new one. -/
def Redelivers (history : List (Report σ κ)) : Report σ κ → Prop
  | .event event _ => (events history).getLast? = some event ∨ event ∉ events history
  | .snapshot _ => True

instance decidableRedelivers (history : List (Report σ κ)) :
    ∀ report, Decidable (Redelivers history report)
  | .event event _ =>
      inferInstanceAs (Decidable ((events history).getLast? = some event ∨ event ∉ events history))
  | .snapshot _ => .isTrue trivial

/-- A snapshot leads to no announcement. -/
def Quiet (value : κ → σ) (reportable : κ → Bool) (known : Announcer σ κ) :
    Report σ κ → Prop
  | .snapshot reading => known.announces value reportable (.snapshot reading) = none
  | .event _ _ => True

instance decidableQuiet (value : κ → σ) (reportable : κ → Bool)
    (known : Announcer σ κ) : ∀ report, Decidable (Quiet value reportable known report)
  | .snapshot reading =>
      inferInstanceAs (Decidable (known.announces value reportable (.snapshot reading) = none))
  | .event _ _ => .isTrue trivial

/-- What is announced was delivered, once, and is remembered while it is the
last event. -/
structure Settled (value : κ → σ) (reportable : κ → Bool) (history : List (Report σ κ)) :
    Prop where
  distinct : (announcements value reportable history).Nodup
  delivered : announcements value reportable history ⊆ events history
  remembered : ∀ event ∈ announcements value reportable history,
    (events history).getLast? = some event →
      (after value reportable history).announced = some event

theorem settled_nil : Settled value reportable ([] : List (Report σ κ)) where
  distinct := List.nodup_nil
  delivered := List.nil_subset _
  remembered := by
    intro event absent
    cases absent

theorem announces_event_eq_some {known : Announcer σ κ} {event made : κ} {timely : Bool}
    (announced : known.announces value reportable (.event event timely) = some made) :
    made = event ∧ reportable event = true ∧ known.announced ≠ some event ∧ timely = true := by
  rw [announces] at announced
  split at announced
  · next allowed => exact ⟨(Option.some.inj announced).symm, allowed⟩
  · cases announced

theorem announces_snapshot_eq_some {known : Announcer σ κ} {reading : Option σ} {made : κ}
    (announced : known.announces value reportable (.snapshot reading) = some made) :
    known.event = some made ∧ known.reading ≠ reading ∧ some (value made) = reading ∧
      known.announced ≠ some made ∧ reportable made = true := by
  unfold announces at announced
  dsimp only at announced
  split at announced
  · next previous current event before recorded =>
      split at announced
      · next allowed =>
          obtain ⟨changed, explains, unannounced, reports⟩ := allowed
          cases announced
          refine ⟨recorded, ?_, congrArg some explains, unannounced, reports⟩
          rw [before]
          exact fun same => changed (Option.some.inj same).symm
      · cases announced
  · cases announced

theorem Settled.append {history : List (Report σ κ)} {report : Report σ κ}
    (settled : Settled value reportable history) (redelivers : Redelivers history report)
    (quiet : Quiet value reportable (after value reportable history) report) :
    Settled value reportable (history ++ [report]) := by
  cases report with
  | snapshot reading =>
      have silent : announcements value reportable (history ++ [.snapshot reading]) =
          announcements value reportable history := by
        rw [announcements_append]
        have none_made : (after value reportable history).announces value reportable
          (.snapshot reading) = none := quiet
        rw [none_made]
        exact List.append_nil _
      refine ⟨silent ▸ settled.distinct, ?_, ?_⟩
      · rw [silent, events_append_snapshot]
        exact settled.delivered
      · rw [silent, events_append_snapshot, after_append]
        exact settled.remembered
  | event event timely =>
      cases made : (after value reportable history).announces value reportable
          (.event event timely) with
      | none =>
          have silent : announcements value reportable (history ++ [.event event timely]) =
              announcements value reportable history := by
            rw [announcements_append, made]
            exact List.append_nil _
          have kept : (after value reportable (history ++ [.event event timely])).announced =
              (after value reportable history).announced := by
            rw [after_append, next, made]
            rfl
          refine ⟨silent ▸ settled.distinct, ?_, ?_⟩
          · rw [silent, events_append_event]
            exact fun _ member => List.mem_append_left _ (settled.delivered member)
          · intro old member last
            rw [silent] at member
            rw [events_append_event, List.getLast?_concat, Option.some.injEq] at last
            subst last
            rw [kept]
            rcases redelivers with repeated | brandNew
            · exact settled.remembered event member repeated
            · exact absurd (settled.delivered member) brandNew
      | some named =>
          obtain ⟨rfl, -, unannounced, -⟩ := announces_event_eq_some made
          have added : announcements value reportable (history ++ [.event named timely]) =
              announcements value reportable history ++ [named] := by
            rw [announcements_append, made]
            rfl
          have unmade : named ∉ announcements value reportable history := by
            intro member
            rcases redelivers with repeated | brandNew
            · exact unannounced (settled.remembered named member repeated)
            · exact brandNew (settled.delivered member)
          have remembered :
              (after value reportable (history ++ [.event named timely])).announced =
                some named := by
            rw [after_append, next, made]
            rfl
          refine ⟨?_, ?_, ?_⟩
          · rw [added, List.nodup_append]
            refine ⟨settled.distinct, List.nodup_singleton _, ?_⟩
            rintro old member other single rfl
            rw [List.mem_singleton.mp single] at member
            exact unmade member
          · rw [added, events_append_event]
            intro old member
            rcases List.mem_append.mp member with before | now
            · exact List.mem_append_left _ (settled.delivered before)
            · exact List.mem_append_right _ now
          · intro old member last
            rw [events_append_event, List.getLast?_concat] at last
            rw [remembered, last]

end Announcer

end Library
