import HomeKeyHousehold.Library.CalendarText
import HomeKeyHousehold.Naming

/-!
# Stamps that are compared as text

A node stamps an event and the authorisation that led to it with one reading of its
clock, and both stamps are kept as ISO 8601 text.  Equal texts are shown to be equal
readings, so what is compared is the instant and not how it was written.
-/

namespace HomeKeyHousehold

open Library

/-- The instant of a stamp that is given as a number of seconds. -/
def stampInstant : Json → Option Int
  | .int seconds => some (seconds * microsPerSecond)
  | .float (.finite seconds) => some (timestampMicros seconds)
  | _ => none

variable {stamp : Json} {instant other : Int} {place otherPlace : String}
variable {text otherText : Option String}

/-- A number becomes the text of its instant. -/
theorem normaliseTimestamp_of_instant (numeric : stampInstant stamp = some instant)
    (place : String) : normaliseTimestamp stamp place = isoOfInstant instant place := by
  cases stamp with
  | int seconds =>
      cases numeric
      rfl
  | float value =>
      cases value with
      | finite seconds =>
          cases numeric
          rfl
      | infinity | nan => cases numeric
  | null | bool | str | arr | obj => cases numeric

theorem isoOfInstant_eq_ok_iff :
    isoOfInstant instant place = .ok text ↔
      (minInstant ≤ instant ∧ instant < endInstant) ∧ text = some (isoformat instant) := by
  unfold isoOfInstant
  split
  · next fits =>
      constructor
      · intro made
        cases made
        exact ⟨fits, rfl⟩
      · rintro ⟨-, rfl⟩
        rfl
  · next outside =>
      constructor
      · intro made
        cases made
      · rintro ⟨fits, -⟩
        exact absurd fits outside

/-- The texts of two instants are equal when the instants are. -/
theorem isoOfInstant_agree (made : isoOfInstant instant place = .ok text)
    (otherMade : isoOfInstant other otherPlace = .ok otherText) :
    text = otherText ↔ instant = other := by
  obtain ⟨⟨begun, ends⟩, rfl⟩ := isoOfInstant_eq_ok_iff.mp made
  obtain ⟨⟨otherBegun, otherEnds⟩, rfl⟩ := isoOfInstant_eq_ok_iff.mp otherMade
  constructor
  · intro same
    exact isoformat_injective begun ends otherBegun otherEnds (Option.some.inj same)
  · rintro rfl
    rfl

/-! ## Documents -/

/-- An accepted event of a lock that bears a number as its stamp. -/
structure StampedEvent (householdId nodeId : String) (change : LockChange) (instant : Int) :
    Prop where
  parsed : ∃ data, LockChange.fromDict (.obj data) householdId nodeId = .ok change ∧
    stampInstant (Json.get data "timestamp") = some instant

/-- An accepted authorisation that bears a number as its stamp. -/
structure StampedAuth (householdId nodeId : String) (auth : LastAuth) (instant : Int) :
    Prop where
  parsed : ∃ data, LastAuth.fromDict (.obj data) householdId nodeId = .ok auth ∧
    stampInstant (Json.get data "timestamp") = some instant

variable {householdId nodeId : String} {data : Dict} {change repeated : LockChange}
variable {auth : LastAuth}

theorem LockChange.timestamp_of_fromDict
    (parsed : LockChange.fromDict (.obj data) householdId nodeId = .ok change) :
    normaliseTimestamp (Json.get data "timestamp") "lock/last.timestamp" =
      .ok change.timestamp := by
  rw [LockChange.fromDict] at parsed
  obtain ⟨members, object, parsed⟩ := bind_eq_ok.mp parsed
  cases object
  obtain ⟨-, -, parsed⟩ := bind_eq_ok.mp parsed
  obtain ⟨current, -, parsed⟩ := bind_eq_ok.mp parsed
  cases current with
  | none => cases parsed
  | some current =>
      obtain ⟨source, -, parsed⟩ := bind_eq_ok.mp parsed
      split at parsed
      · cases parsed
      · obtain ⟨target, -, parsed⟩ := bind_eq_ok.mp parsed
        obtain ⟨timestamp, stamped, parsed⟩ := bind_eq_ok.mp parsed
        cases parsed
        exact stamped

theorem LastAuth.timestamp_of_fromDict
    (parsed : LastAuth.fromDict (.obj data) householdId nodeId = .ok auth) :
    normaliseTimestamp (Json.get data "timestamp") "last_auth.timestamp" = .ok auth.timestamp := by
  rw [LastAuth.fromDict] at parsed
  obtain ⟨members, object, parsed⟩ := bind_eq_ok.mp parsed
  cases object
  obtain ⟨-, -, parsed⟩ := bind_eq_ok.mp parsed
  obtain ⟨result, -, parsed⟩ := bind_eq_ok.mp parsed
  split at parsed
  · cases parsed
  · obtain ⟨authType, -, parsed⟩ := bind_eq_ok.mp parsed
    obtain ⟨timestamp, stamped, parsed⟩ := bind_eq_ok.mp parsed
    obtain ⟨issuer, -, parsed⟩ := bind_eq_ok.mp parsed
    cases parsed
    exact stamped

/-- What is on record as the stamp of an accepted event is the text of its instant. -/
theorem StampedEvent.made (event : StampedEvent householdId nodeId change instant) :
    isoOfInstant instant "lock/last.timestamp" = .ok change.timestamp := by
  obtain ⟨data, parsed, stamped⟩ := event.parsed
  rw [← normaliseTimestamp_of_instant stamped]
  exact LockChange.timestamp_of_fromDict parsed

theorem StampedAuth.made (authorised : StampedAuth householdId nodeId auth instant) :
    isoOfInstant instant "last_auth.timestamp" = .ok auth.timestamp := by
  obtain ⟨data, parsed, stamped⟩ := authorised.parsed
  rw [← normaliseTimestamp_of_instant stamped]
  exact LastAuth.timestamp_of_fromDict parsed

/-- Two accepted events are the same news exactly when they tell of the same change from
the same source at the same instant, and a tap is attributed to the person of the
authorisation on record exactly when that was stamped at the instant of the tap. -/
theorem stamps_tell_instants {tapped retapped opened : Int} {node : Node}
    (event : StampedEvent householdId nodeId change tapped)
    (again : StampedEvent householdId nodeId repeated retapped)
    (authorised : StampedAuth householdId nodeId auth opened)
    (known : node.lastAuth = some auth) :
    (change.key = repeated.key ↔
        tapped = retapped ∧ change.current = repeated.current ∧
          change.source = repeated.source) ∧
      Coordinator.actorFor node .homekey change.timestamp =
        if tapped = opened then orDefault auth.issuer LockSource.homekey.label
        else LockSource.homekey.label := by
  have texts := isoOfInstant_agree event.made again.made
  have shared := isoOfInstant_agree event.made authorised.made
  obtain ⟨-, stamped⟩ := isoOfInstant_eq_ok_iff.mp authorised.made
  constructor
  · rw [LockChange.key, LockChange.key, LockChangeKey.mk.injEq, texts]
  · rw [Coordinator.actorFor_homekey, known, Option.bind_some, LastAuth.personAt]
    rw [stamped] at shared ⊢
    cases auth.issuer with
    | none => exact (ite_self _).symm
    | some issuer =>
        dsimp only [orDefault]
        by_cases same : tapped = opened
        · have stamps := shared.mpr same
          by_cases blank : issuer = ""
          · simp [same, blank]
          · simp [same, blank, stamps]
        · have apart := mt shared.mp same
          simp [same, apart]

/-! ### Two taps -/

/-- An event of a tap a number of seconds after the sample tap. -/
def tapAfter (seconds : Int) : Dict :=
  [("current", .int 0), ("source", .str "homekey"), ("timestamp", .int (1700000000 + seconds))]

/-- What opened the sample tap. -/
def stampedGrant : Dict :=
  [("result", .str "SUCCESS"), ("timestamp", .int 1700000000), ("issuer", .str "Artur")]

def sampleTap : LockChange := ⟨0, .homekey, none, some tapStamp⟩

def sampleGrant : LastAuth := ⟨"HomeKey", .success, some tapStamp, some "Artur"⟩

theorem sampleTap_stamped :
    StampedEvent "HOME001" "GATE-001" sampleTap (1700000000 * microsPerSecond) :=
  ⟨tapAfter 0, by decide, rfl⟩

theorem nextTap_stamped :
    StampedEvent "HOME001" "GATE-001" ⟨0, .homekey, none, some "2023-11-14T22:13:21+00:00"⟩
      (1700000001 * microsPerSecond) :=
  ⟨tapAfter 1, by decide, rfl⟩

theorem sampleGrant_stamped :
    StampedAuth "HOME001" "GATE-001" sampleGrant (1700000000 * microsPerSecond) :=
  ⟨stampedGrant, by decide, rfl⟩

/-- The tap is attributed to its person, and the next one is other news. -/
theorem sampleTap_told :
    sampleTap.key ≠ LockChange.key ⟨0, .homekey, none, some "2023-11-14T22:13:21+00:00"⟩ ∧
      Coordinator.actorFor
          { Node.ofId "HOME001" "GATE-001" with lastAuth := some sampleGrant }
          .homekey sampleTap.timestamp = "Artur" := by
  have told := @stamps_tell_instants _ _ _ _ _ _ _ _
    { Node.ofId "HOME001" "GATE-001" with lastAuth := some sampleGrant } sampleTap_stamped
    nextTap_stamped sampleGrant_stamped rfl
  refine ⟨fun same => ?_, told.2.trans (if_pos rfl)⟩
  exact absurd (told.1.mp same).1 (by decide)

end HomeKeyHousehold
