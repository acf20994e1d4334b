import HomeKeyHousehold.Library.Text
import HomeKeyHousehold.OptionsFlow

/-!
# The options form as it is shown

The form shows the stored options, and before there are any what the entry and the
defaults say.  Submitting it as it is shown is compared with not submitting it,
and the stored password, which is never shown, with the ones that were submitted.
-/

namespace HomeKeyHousehold

open Library

def defaultWebUsername : String := "admin"

/-- The defaults of the schema of `async_step_init`: what is submitted when nothing
in the form is touched. -/
def shownOptions (entry : ConfigEntry) (options : Option EntryOptions) : OptionsInput :=
  { legacyClientIdPrefix :=
      some ((options.map EntryOptions.legacyClientIdPrefix).getD defaultLegacyClientIdPrefix)
    commandControl := some ((options.map EntryOptions.commandControl).getD true)
    host := some ((options.map EntryOptions.host).getD (entry.host.getD ""))
    port := some ((options.map EntryOptions.port).getD (entry.port.getD defaultHttpsPort))
    username :=
      some ((options.map EntryOptions.username).getD (entry.username.getD defaultWebUsername))
    fingerprint := some ((options.map EntryOptions.fingerprint).getD (entry.fingerprint.getD ""))
    includeCredentials := some ((options.map EntryOptions.includeCredentials).getD false) }

namespace LoadedEntry

/-- The form as it is shown now. -/
def shown (state : LoadedEntry) : OptionsInput := shownOptions state.entry state.options

/-- The password of a form that is kept, unless it is blank. -/
def givenPassword (blake2b : Blake2b) (state : LoadedEntry) : EntryEvent → Option String
  | .submit input =>
      match submitSecret blake2b state.keys state.entry.householdId input.recoverySecret
        input.salt with
      | .kept _ => unlessBlank input.password
      | .refused => none
      | .failed => none
  | .command .. => none

/-- The passwords of a run, in order. -/
def givenPasswords (blake2b : Blake2b) (hmac : HmacSha256) : LoadedEntry → List EntryEvent →
    List String
  | _, [] => []
  | state, event :: rest =>
      (state.givenPassword blake2b event).toList ++
        givenPasswords blake2b hmac (state.step blake2b hmac event) rest

/-- An entry without a password of its own, whose options are as the form stores
them: addresses without blanks around them, a port, and a password. -/
structure FromForm (made : ConfigEntry) (given : String) (state : LoadedEntry) : Prop where
  entry : state.entry = made
  blank : unlessBlank made.password = none
  host : ∀ options, state.options = some options → strip options.host = options.host
  port : ∀ options, state.options = some options → options.port ≠ 0
  fingerprint : ∀ options, state.options = some options →
    strip options.fingerprint = options.fingerprint
  password : (state.options.map EntryOptions.password).getD "" = given

variable {blake2b : Blake2b} {hmac : HmacSha256} {state : LoadedEntry} {entry : ConfigEntry}
variable {password : String}

theorem strip_strip (text : String) : strip (strip text) = strip text :=
  stripOf_stripOf isWhitespace text

/-- What a kept form leaves is as the form stores it. -/
theorem FromForm.newOptions (stored : FromForm entry password state) (input : OptionsInput)
    {after : LoadedEntry} (same : after.entry = state.entry)
    (kept : after.options = some (newOptions state.entry state.options input)) :
    FromForm entry ((unlessBlank input.password).getD password) after := by
  refine ⟨same.trans stored.entry, stored.blank, ?_, ?_, ?_, ?_⟩
  · intro options found
    cases kept.symm.trans found
    exact strip_strip _
  · intro options found
    cases kept.symm.trans found
    rw [HomeKeyHousehold.newOptions]
    cases given : input.port.filter fun port => port ≠ 0 with
    | none => exact (by decide : defaultHttpsPort ≠ 0)
    | some port => exact of_decide_eq_true (Option.filter_eq_some_iff.mp given).2
  · intro options found
    cases kept.symm.trans found
    exact strip_strip _
  · rw [kept, Option.map_some, Option.getD_some, HomeKeyHousehold.newOptions, stored.entry,
      stored.blank, ← stored.password]
    rfl

theorem fromForm_step (stored : FromForm entry password state) (event : EntryEvent) :
    FromForm entry ((state.givenPassword blake2b event).getD password)
      (state.step blake2b hmac event) := by
  cases event with
  | command nodeId action world => exact ⟨stored.entry, stored.blank, stored.host, stored.port,
      stored.fingerprint, stored.password⟩
  | submit input =>
      rw [step, asyncStepInit, givenPassword]
      cases submitSecret blake2b state.keys state.entry.householdId input.recoverySecret
        input.salt with
      | kept keys => exact stored.newOptions input rfl rfl
      | refused => exact stored
      | failed => exact stored

theorem fromForm_run (stored : FromForm entry password state) (events : List EntryEvent) :
    FromForm entry ((givenPasswords blake2b hmac state events).getLast?.getD password)
      (run (step blake2b hmac) state events) := by
  induction events generalizing state password with
  | nil => exact stored
  | cons event rest ih =>
      have later := ih (@fromForm_step blake2b hmac _ _ _ stored event)
      rw [givenPasswords, List.getLast?_append, Option.getD_or]
      cases given : state.givenPassword blake2b event with
      | none =>
          rw [given] at later
          exact later
      | some text =>
          rw [given] at later
          exact later

/-- Options as the form stores them are stored again when the form is submitted as
it is shown, and nothing else changes. -/
theorem asyncStepInit_shown (stored : FromForm entry password state) {options : EntryOptions}
    (found : state.options = some options) : state.asyncStepInit blake2b state.shown = state := by
  have same : newOptions state.entry state.options state.shown = options := by
    have blank := stored.blank
    rw [← stored.entry] at blank
    have port : (some options.port).filter (fun port => port ≠ 0) = some options.port := by
      rw [Option.filter_some, decide_eq_true (stored.port options found), if_pos rfl]
    rw [newOptions, shown, shownOptions, found]
    dsimp only [Option.map_some, Option.getD_some]
    rw [stored.host options found, stored.fingerprint options found, port, blank]
    rfl
  have kept : submitSecret blake2b state.keys state.entry.householdId state.shown.recoverySecret
      state.shown.salt = .kept state.keys := rfl
  rw [asyncStepInit, kept]
  dsimp only
  rw [same, if_pos found.symm, ← found]
  rfl

/-- The first form submitted as it is shown turns command control on. -/
theorem commandControl_shown (untouched : state.options = none) :
    (newOptions state.entry state.options state.shown).commandControl = true ∧
      (newOptions state.entry state.options state.shown).legacyClientIdPrefix =
        defaultLegacyClientIdPrefix := by
  rw [newOptions, shown, shownOptions, untouched]
  exact ⟨rfl, rfl⟩

/-- So the entry is set up as it would be without the form exactly when it controls
its locks already, or cannot be set up at all. -/
theorem asyncSetupEntry_shown_iff (untouched : state.options = none) {control : Bool}
    (made : state.entry.commandControl = some control) :
    HomeKeyHousehold.asyncSetupEntry state.entry (state.asyncStepInit blake2b state.shown).options
          state.keys =
        HomeKeyHousehold.asyncSetupEntry state.entry none state.keys ↔
      control = true ∨ ∃ reason, CommandKeyStore.asyncLoad state.keys = .error reason := by
  have kept : submitSecret blake2b state.keys state.entry.householdId state.shown.recoverySecret
      state.shown.salt = .kept state.keys := rfl
  obtain ⟨controlled, standing⟩ := commandControl_shown untouched
  rw [asyncStepInit, kept]
  dsimp only
  rw [HomeKeyHousehold.asyncSetupEntry, HomeKeyHousehold.asyncSetupEntry, Option.map_some,
    Option.map_some, controlled, standing, made]
  cases CommandKeyStore.asyncLoad state.keys with
  | error reason => exact iff_of_true rfl (Or.inr ⟨reason, rfl⟩)
  | ok store =>
      cases control with
      | true => exact iff_of_true rfl (Or.inl rfl)
      | false =>
          refine iff_of_false (fun same => ?_) (by simp)
          cases same

/-- The options form of an entry that was added with the form for a household, in
every run of submissions and commands.  The stored password is the last one of a form
that was accepted, however often it was left blank after that.  Once there are options,
submitting the form as it is shown changes nothing; before there are any, it sets
up the entry as it was exactly when the entry was added with command control, or
when it cannot be set up at all. -/
theorem options_form_round_trip (blake2b : Blake2b) (hmac : HmacSha256) (home : HouseholdInput)
    (keys : Option Dict) (events : List EntryEvent) :
    let start := start (householdEntry home) none keys
    let state := run (step blake2b hmac) start events
    (∀ options, state.options = some options →
        options.password = ((givenPasswords blake2b hmac start events).getLast?).getD "" ∧
          state.asyncStepInit blake2b state.shown = state) ∧
      (state.options = none →
        (HomeKeyHousehold.asyncSetupEntry state.entry
              (state.asyncStepInit blake2b state.shown).options state.keys =
            HomeKeyHousehold.asyncSetupEntry state.entry none state.keys ↔
          home.commandControl ≠ some false ∨
            ∃ reason, CommandKeyStore.asyncLoad state.keys = .error reason)) := by
  have fresh : FromForm (householdEntry home) "" (start (householdEntry home) none keys) :=
    ⟨rfl, rfl, by simp [start], by simp [start], by simp [start], rfl⟩
  have stored := @fromForm_run blake2b hmac _ _ _ fresh events
  refine ⟨fun options found => ⟨?_, asyncStepInit_shown stored found⟩, fun untouched => ?_⟩
  · have password := stored.password
    rw [found] at password
    exact password
  · have made : (run (step blake2b hmac) (start (householdEntry home) none keys)
        events).entry.commandControl = some (home.commandControl.getD true) := by
      rw [stored.entry]
      rfl
    rw [asyncSetupEntry_shown_iff untouched made]
    refine or_congr ?_ Iff.rfl
    cases home.commandControl with
    | none => simp
    | some control => cases control <;> simp

end LoadedEntry

end HomeKeyHousehold
