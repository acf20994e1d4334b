import HomeKeyHousehold.BackupSensor
import HomeKeyHousehold.Library.Binary64
import HomeKeyHousehold.TopicIdentity

/-!
# What is shown of the guest tags

The entities of a node and its diagnostics compute dates and days from the
integers of a guest document, which the parser takes as they come.
-/

namespace HomeKeyHousehold

open Library

/-! ## Dates and days -/

/-- A second that `datetime` can represent. -/
def InCalendar (seconds : Int) : Prop :=
  minInstant ≤ seconds * microsPerSecond ∧ seconds * microsPerSecond < endInstant

instance (seconds : Int) : Decidable (InCalendar seconds) := instDecidableAnd

/-- `datetime.fromtimestamp(seconds, tz=UTC).isoformat()`. -/
def isoOfTimestamp (seconds : Int) : Except Raised String :=
  if InCalendar seconds then .ok (isoformat (seconds * microsPerSecond)) else .error .other

/-- `GuestTag.expires`. -/
def GuestTag.expires (tag : GuestTag) : Except Raised (Option String) :=
  if tag.validUntil = 0 then .ok none else (isoOfTimestamp tag.validUntil).map some

/-- A float, unless its computation overflowed. -/
def finiteOr (value : Option Binary64) : Except Raised Binary64 :=
  match value with
  | some value => .ok value
  | none => .error .other

namespace GuestState

/-- `has_wall_clock`. -/
def hasWallClock (guest : GuestState) : Bool := 0 < guest.wallClock

/-- `default_validity_days`. -/
def defaultValidityDays (guest : GuestState) : Except Raised Binary64 :=
  finiteOr (Binary64.trueDivide guest.defaultValiditySeconds guestSecondsPerDay)

/-- `round(guest.default_validity_days, 2)`. -/
def shownValidityDays (guest : GuestState) : Except Raised Binary64 := do
  let days ← guest.defaultValidityDays
  finiteOr (days.roundTo 2)

end GuestState

/-! ## Views -/

/-- An optional value, `None` when absent. -/
def ofOptional {α : Type} (wrap : α → Json) (value : Option α) : Json :=
  (value.map wrap).getD .null

def ofBinary64 (value : Binary64) : Json := .float (.finite value)

/-- One tag as the sensor and the diagnostics list it. -/
def GuestTag.view (tag : GuestTag) : Except Raised Json := do
  let expires ← tag.expires
  pure (.obj [("tag_id", .str tag.tagId), ("label", .str tag.label), ("uid", .str tag.uid),
    ("enabled", .bool tag.enabled), ("expires", ofOptional .str expires),
    ("last_used_at", if tag.lastUsedAt = 0 then .null else .int tag.lastUsedAt),
    ("use_count", .int tag.useCount)])

/-- The attributes every entity has, none for an unknown node. -/
def baseAttributes (node : Option Node) : Dict :=
  match node with
  | none => []
  | some node =>
      let attributes := nodeAttributes node
      [("household_id", .str attributes.householdId), ("node_id", .str attributes.nodeId),
        ("node_role", .str attributes.nodeRole), ("node_state", .str attributes.nodeState),
        ("last_seen", ofOptional .str attributes.lastSeen)]

/-- The guest state of a node that is known and has reported one. -/
def guestOf (node : Option Node) : Option GuestState := node.bind Node.guest

/-- The attributes of an entity that adds to them what it has of a guest state. -/
def guestAttributes (added : GuestState → Except Raised Dict) (node : Option Node) :
    Except Raised Json :=
  match guestOf node with
  | none => .ok (.obj (baseAttributes node))
  | some guest => do
      let more ← added guest
      pure (.obj (baseAttributes node ++ more))

namespace HomeKeyGuestTagsSensor

def nativeValue (node : Option Node) : Option Int := (guestOf node).map GuestState.count

def addedAttributes (guest : GuestState) : Except Raised Dict := do
  let tags ← guest.tags.mapM GuestTag.view
  let days ← guest.shownValidityDays
  pure [("tags", .arr tags), ("capacity", .int guest.capacity),
    ("default_validity_days", ofBinary64 days), ("write_armed", .bool guest.writeArmed),
    ("write_supported", ofOptional .bool guest.canWrite),
    ("last_write_result", ofOptional .str guest.lastWriteResult),
    ("last_write_message", ofOptional .str guest.lastWriteMessage),
    ("node_has_wall_clock", .bool guest.hasWallClock)]

def extraStateAttributes (node : Option Node) : Except Raised Json :=
  guestAttributes addedAttributes node

end HomeKeyGuestTagsSensor

namespace HomeKeyGuestAccessSwitch

def isOn (node : Option Node) : Option Bool := (guestOf node).map GuestState.enabled

def addedAttributes (guest : GuestState) : Except Raised Dict := do
  let days ← guest.shownValidityDays
  pure [("tags", .int guest.count), ("capacity", .int guest.capacity),
    ("default_validity_days", ofBinary64 days),
    ("node_has_wall_clock", .bool guest.hasWallClock)]

def extraStateAttributes (node : Option Node) : Except Raised Json :=
  guestAttributes addedAttributes node

end HomeKeyGuestAccessSwitch

/-- `HomeKeyGuestValidityNumber.native_value`. -/
def HomeKeyGuestValidityNumber.nativeValue (node : Option Node) :
    Except Raised (Option Binary64) :=
  match guestOf node with
  | none => .ok none
  | some guest => guest.defaultValidityDays.map some

/-- The guest block of a node's diagnostics. -/
def guestDiagnostics (guest : Option GuestState) : Except Raised Json :=
  match guest with
  | none => .ok .null
  | some guest => do
      let days ← guest.shownValidityDays
      let tags ← guest.tags.mapM GuestTag.view
      pure (.obj [("enabled", .bool guest.enabled), ("count", .int guest.count),
        ("capacity", .int guest.capacity), ("default_validity_days", ofBinary64 days),
        ("node_has_wall_clock", .bool guest.hasWallClock), ("tags", .arr tags),
        ("write", .obj [("armed", .bool guest.writeArmed),
          ("supported", ofOptional .bool guest.canWrite),
          ("last_result", ofOptional .str guest.lastWriteResult),
          ("last_message", ofOptional .str guest.lastWriteMessage)])])

/-- The places that show something of a node's guest state. -/
inductive GuestView where
  | sensorValue
  | sensorAttributes
  | switchState
  | switchAttributes
  | validityNumber
  | diagnostics
  deriving DecidableEq, Repr

/-- What a place computes, or raises. -/
def GuestView.compute (view : GuestView) (node : Option Node) : Except Raised Json :=
  match view with
  | .sensorValue => .ok (ofOptional .int (HomeKeyGuestTagsSensor.nativeValue node))
  | .sensorAttributes => HomeKeyGuestTagsSensor.extraStateAttributes node
  | .switchState => .ok (ofOptional .bool (HomeKeyGuestAccessSwitch.isOn node))
  | .switchAttributes => HomeKeyGuestAccessSwitch.extraStateAttributes node
  | .validityNumber => (HomeKeyGuestValidityNumber.nativeValue node).map (ofOptional ofBinary64)
  | .diagnostics => guestDiagnostics (guestOf node)

/-! ## When the views are defined -/

/-- A number of seconds whose days are a finite float. -/
def DaysFit (seconds : Int) : Prop :=
  seconds.natAbs + 2 ^ 970 * guestSecondsPerDay < 2 ^ 1024 * guestSecondsPerDay

/-- Every date is in the calendar, and the days are finite. -/
structure GuestState.Fits (guest : GuestState) : Prop where
  dates : ∀ tag ∈ guest.tags, InCalendar tag.validUntil
  days : DaysFit guest.defaultValiditySeconds

theorem exists_map_ok {ε α β : Type} {result : Except ε α} {change : α → β} :
    (∃ value, result.map change = .ok value) ↔ ∃ value, result = .ok value := by
  cases result with
  | error reason => simp [Except.map]
  | ok value => simp [Except.map]

theorem expires_ok_iff {tag : GuestTag} :
    (∃ date, tag.expires = .ok date) ↔ InCalendar tag.validUntil := by
  rw [GuestTag.expires]
  split
  · next never =>
      rw [never]
      exact iff_of_true ⟨none, rfl⟩ (by decide)
  · rw [exists_map_ok, isoOfTimestamp]
    split
    · next inside => exact iff_of_true ⟨_, rfl⟩ inside
    · next outside => exact iff_of_false (by simp) outside

theorem view_ok_iff {tag : GuestTag} :
    (∃ shown, tag.view = .ok shown) ↔ InCalendar tag.validUntil := by
  rw [GuestTag.view, exists_bind_ok, ← expires_ok_iff]
  simp only [exists_pure_ok, and_true]

theorem finiteOr_ok_iff {value : Option Binary64} :
    (∃ finite, finiteOr value = .ok finite) ↔ value.isSome := by
  cases value with
  | none => simp [finiteOr]
  | some value => simp [finiteOr]

section

variable {guest : GuestState}

theorem defaultValidityDays_ok_iff :
    (∃ days, guest.defaultValidityDays = .ok days) ↔ DaysFit guest.defaultValiditySeconds := by
  rw [GuestState.defaultValidityDays, finiteOr_ok_iff, Binary64.trueDivide,
    Binary64.ofQuotient_isSome_iff (by decide), DaysFit]

/-- Rounding the days adds no way to fail. -/
theorem shownValidityDays_ok_iff :
    (∃ days, guest.shownValidityDays = .ok days) ↔ DaysFit guest.defaultValiditySeconds := by
  rw [GuestState.shownValidityDays, exists_bind_ok, ← defaultValidityDays_ok_iff]
  simp only [finiteOr_ok_iff, Binary64.roundTo_isSome, and_true]

theorem tagViews_ok_iff :
    (∃ shown, guest.tags.mapM GuestTag.view = .ok shown) ↔
      ∀ tag ∈ guest.tags, InCalendar tag.validUntil := by
  simp only [mapM_ok_iff, view_ok_iff]

/-- The list of tags is the view that needs all of a guest state to fit. -/
theorem sensorAttributes_ok_iff :
    (∃ added, HomeKeyGuestTagsSensor.addedAttributes guest = .ok added) ↔ guest.Fits := by
  rw [HomeKeyGuestTagsSensor.addedAttributes]
  simp only [exists_bind_ok, exists_pure_ok, and_true, exists_and_right, tagViews_ok_iff,
    shownValidityDays_ok_iff]
  exact ⟨fun both => ⟨both.1, both.2⟩, fun fits => ⟨fits.dates, fits.days⟩⟩

theorem switchAttributes_ok_iff :
    (∃ added, HomeKeyGuestAccessSwitch.addedAttributes guest = .ok added) ↔
      DaysFit guest.defaultValiditySeconds := by
  rw [HomeKeyGuestAccessSwitch.addedAttributes]
  simp only [exists_bind_ok, exists_pure_ok, and_true, shownValidityDays_ok_iff]

theorem guestDiagnostics_ok_iff :
    (∃ shown, guestDiagnostics (some guest) = .ok shown) ↔ guest.Fits := by
  rw [guestDiagnostics]
  simp only [exists_bind_ok, exists_pure_ok, and_true, exists_and_right, tagViews_ok_iff,
    shownValidityDays_ok_iff]
  exact ⟨fun both => ⟨both.2, both.1⟩, fun fits => ⟨fits.days, fits.dates⟩⟩

variable {node : Option Node}

theorem guestAttributes_ok_iff {added : GuestState → Except Raised Dict}
    (reported : guestOf node = some guest) :
    (∃ shown, guestAttributes added node = .ok shown) ↔ ∃ more, added guest = .ok more := by
  rw [guestAttributes, reported]
  simp only [exists_bind_ok, exists_pure_ok, and_true]

/-- Every view of a guest state is defined exactly when the state fits. -/
theorem views_ok_iff (reported : guestOf node = some guest) :
    (∀ view : GuestView, ∃ shown, view.compute node = .ok shown) ↔ guest.Fits := by
  constructor
  · intro shown
    have attributes := shown .sensorAttributes
    exact sensorAttributes_ok_iff.mp ((guestAttributes_ok_iff reported).mp attributes)
  · intro fits view
    cases view with
    | sensorValue | switchState => exact ⟨_, rfl⟩
    | sensorAttributes =>
        exact (guestAttributes_ok_iff reported).mpr (sensorAttributes_ok_iff.mpr fits)
    | switchAttributes =>
        exact (guestAttributes_ok_iff reported).mpr (switchAttributes_ok_iff.mpr fits.days)
    | validityNumber =>
        rw [GuestView.compute, exists_map_ok, HomeKeyGuestValidityNumber.nativeValue, reported,
          exists_map_ok, defaultValidityDays_ok_iff]
        exact fits.days
    | diagnostics =>
        rw [GuestView.compute, reported]
        exact guestDiagnostics_ok_iff.mpr fits

end

/-! ## What a document has to say -/

/-- A field of a document, null unless it is an object that has it. -/
def fieldAt (payload : Json) (key : String) : Json :=
  match payload with
  | .obj members => Json.get members key
  | _ => .null

/-- An integer field, zero unless it is one. -/
def numberAt (payload : Json) (key : String) : Int :=
  match fieldAt payload key with
  | .int number => number
  | _ => 0

/-- The tags a document lists. -/
def listedTags (payload : Json) : List Json :=
  match fieldAt payload "tags" with
  | .arr items => items
  | _ => []

/-- Every expiry is in the calendar, and the default validity has finite days. -/
structure TimesFit (payload : Json) : Prop where
  dates : ∀ item ∈ listedTags payload, InCalendar (numberAt item "valid_until")
  days : DaysFit (numberAt payload "default_validity_seconds")

theorem numberAt_of_optionalInt {members : Dict} {key : String} {number : Option Int}
    (read : optionalInt members key = .ok number) :
    number.getD 0 = numberAt (.obj members) key := by
  rw [numberAt, fieldAt]
  unfold optionalInt at read
  cases field : Json.get members key with
  | null =>
      rw [field] at read
      cases read
      rfl
  | int value =>
      rw [field] at read
      cases read
      rfl
  | bool _ | float _ | str _ | arr _ | obj _ =>
      rw [field] at read
      cases read

theorem object_of_requireDict {payload : Json} {place : String} {members : Dict}
    (object : requireDict payload place = .ok members) : payload = .obj members := by
  cases payload with
  | obj _ => exact congrArg Json.obj (Except.ok.inj object)
  | null | bool _ | int _ | float _ | str _ | arr _ => cases object

theorem validUntil_of_fromDict {item : Json} {tag : GuestTag}
    (parsed : GuestTag.fromDict item = .ok tag) :
    tag.validUntil = numberAt item "valid_until" := by
  rw [GuestTag.fromDict] at parsed
  simp only [bind_eq_ok] at parsed
  obtain ⟨members, object, _, _, _, _, _, _, _, _, _, _, validUntil, read, _, _, _, _, made⟩ :=
    parsed
  rw [object_of_requireDict object, ← numberAt_of_optionalInt read, ← Except.ok.inj made]

/-- The tags and the default validity of a guest state are read from its
document. -/
theorem read_of_fromDict {payload : Json} {guest : GuestState}
    (parsed : GuestState.fromDict payload = .ok guest) :
    (listedTags payload).mapM GuestTag.fromDict = .ok guest.tags ∧
      guest.defaultValiditySeconds = numberAt payload "default_validity_seconds" := by
  rw [GuestState.fromDict] at parsed
  simp only [bind_eq_ok] at parsed
  obtain ⟨members, object, tags, listed, _, _, _, _, validity, read, _, _, _, _, _, _, _, _, _, _,
    _, _, made⟩ := parsed
  rw [object_of_requireDict object, ← numberAt_of_optionalInt read, ← Except.ok.inj made]
  refine ⟨?_, rfl⟩
  rw [listedTags, fieldAt]
  unfold guestTags at listed
  cases field : Json.get members "tags" with
  | null =>
      rw [field] at listed
      exact listed
  | arr items =>
      rw [field] at listed
      exact listed
  | bool _ | int _ | float _ | str _ | obj _ =>
      rw [field] at listed
      cases listed

/-- What is read of each item holds of what is read of the list. -/
theorem forall_mapM_iff {ε α β : Type} {read : α → Except ε β} {fits : α → Prop}
    {holds : β → Prop}
    (each : ∀ item value, read item = .ok value → (holds value ↔ fits item)) {items : List α}
    {values : List β} (all : items.mapM read = .ok values) :
    (∀ value ∈ values, holds value) ↔ ∀ item ∈ items, fits item := by
  induction items generalizing values with
  | nil =>
      cases all
      simp
  | cons item rest ih =>
      simp only [List.mapM_cons, bind_eq_ok] at all
      obtain ⟨value, first, others, later, made⟩ := all
      cases made
      rw [List.forall_mem_cons, List.forall_mem_cons, each item value first, ih later]

theorem fits_iff_of_fromDict {payload : Json} {guest : GuestState}
    (parsed : GuestState.fromDict payload = .ok guest) : guest.Fits ↔ TimesFit payload := by
  obtain ⟨tags, validity⟩ := read_of_fromDict parsed
  have dates : (∀ tag ∈ guest.tags, InCalendar tag.validUntil) ↔
      ∀ item ∈ listedTags payload, InCalendar (numberAt item "valid_until") :=
    forall_mapM_iff (fun _ _ made => by rw [validUntil_of_fromDict made]) tags
  constructor
  · intro fits
    exact ⟨dates.mp fits.dates, validity ▸ fits.days⟩
  · intro fits
    exact ⟨dates.mpr fits.dates, validity ▸ fits.days⟩

/-- The views of an accepted document are defined exactly when every expiry it
lists is in the calendar and its default validity has finite days. -/
theorem guestViews_defined_iff {payload : Json} {guest : GuestState} {node : Node}
    (parsed : GuestState.fromDict payload = .ok guest) :
    ((∀ view : GuestView, ∃ shown,
          view.compute (some { node with guest := some guest }) = .ok shown) ∧
        ∀ tag ∈ guest.tags, ∃ date, tag.expires = .ok date) ↔
      TimesFit payload := by
  rw [views_ok_iff rfl, ← fits_iff_of_fromDict parsed]
  simp only [expires_ok_iff]
  exact ⟨fun both => both.1, fun fits => ⟨fits, fits.dates⟩⟩

/-- Two tags, the second with the given expiry. -/
def twoTags (validUntil : Int) : Json :=
  .obj [("enabled", .bool true), ("default_validity_seconds", .int 604800),
    ("tags", .arr [.obj [("tag_id", .str "1"), ("valid_until", .int 1700000000)],
      .obj [("tag_id", .str "2"), ("valid_until", .int validUntil)]])]

/-- The guest state read from two tags. -/
def twoTagsState (validUntil : Int) : GuestState :=
  { enabled := true
    defaultValiditySeconds := 604800
    capacity := 0
    count := 0
    wallClock := 0
    tags := [
      { tagId := "1", uid := "", label := "", enabled := true, validFrom := 0,
        validUntil := 1700000000, lastUsedAt := 0, useCount := 0 },
      { tagId := "2", uid := "", label := "", enabled := true, validFrom := 0,
        validUntil, lastUsedAt := 0, useCount := 0 }]
    writeArmed := false
    canWrite := none
    lastWriteResult := none
    lastWriteMessage := none }

theorem twoTags_accepted (validUntil : Int) :
    GuestState.fromDict (twoTags validUntil) = .ok (twoTagsState validUntil) := by
  rfl

theorem daysFit_week : DaysFit 604800 := by
  rw [DaysFit]
  decide +kernel

theorem permanentTag_shown :
    (∀ view : GuestView, ∃ shown, view.compute
        (some { Node.ofId "HOME001" "GATE-001" with guest := some (twoTagsState 0) }) =
          .ok shown) ∧
      ∀ tag ∈ (twoTagsState 0).tags, ∃ date, tag.expires = .ok date :=
  (guestViews_defined_iff (twoTags_accepted 0)).mpr ⟨by decide, daysFit_week⟩

/-- An expiry in milliseconds is accepted, and then raises wherever the tags are
listed. -/
theorem millisecondTag_raises :
    GuestState.fromDict (twoTags 1700000000000) = .ok (twoTagsState 1700000000000) ∧
      ¬ ((∀ view : GuestView, ∃ shown, view.compute (some { Node.ofId "HOME001" "GATE-001" with
            guest := some (twoTagsState 1700000000000) }) = .ok shown) ∧
          ∀ tag ∈ (twoTagsState 1700000000000).tags, ∃ date, tag.expires = .ok date) := by
  refine ⟨twoTags_accepted _, fun defined => ?_⟩
  have fits := (views_ok_iff rfl).mp defined.1
  have inside := fits.dates _ (List.mem_cons_of_mem _ (List.mem_singleton_self _))
  exact absurd inside (by decide)

end HomeKeyHousehold
