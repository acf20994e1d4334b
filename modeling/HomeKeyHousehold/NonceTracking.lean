import HomeKeyHousehold.Command
import HomeKeyHousehold.Library.Run

/-!
# What a nonce tracker retains

A tracker forgets a whole window at once, when it holds more than two.  Between
two evictions its length moves from one window and one nonce to two windows, so
the last nonces up to a window and one are always there.
-/

namespace HomeKeyHousehold

open Library

/-- `new_nonce`: hex of a positive number of random bytes. -/
def newNonceOfSize (numBytes : Int) (bytes : Vector UInt8 numBytes.toNat) : Validated String :=
  if numBytes ≤ 0 then invalid "nonce size must be positive" else .ok (hexText bytes.toList)

namespace NonceTracker

/-- `NonceTracker(window)`: a window below one counts as one. -/
def ofWindow (window : Int) : NonceTracker := .new window.toNat

theorem ofWindow_window (window : Int) : ((ofWindow window).window : Int) = max 1 window := by
  change ((max 1 window.toNat : Nat) : Int) = max 1 window
  omega

/-- The loop of `fresh_nonce` over the draws it may make: a draw that fails ends
it, a nonce already seen is passed over. -/
def firstUnseen (tracker : NonceTracker) :
    List (Validated String) → NonceTracker × Validated String
  | [] => (tracker, invalid "could not generate a fresh nonce")
  | .error reason :: _ => (tracker, .error reason)
  | .ok nonce :: rest =>
      if nonce ∈ tracker.seen then tracker.firstUnseen rest
      else (tracker.remember nonce, .ok nonce)

/-- `fresh_nonce` for a given number of bytes. -/
def freshNonceOfSize (tracker : NonceTracker) (numBytes : Int)
    (draws : Vector (Vector UInt8 numBytes.toNat) nonceDraws) :
    NonceTracker × Validated String :=
  tracker.firstUnseen (draws.toList.map (newNonceOfSize numBytes))

/-- Everything the loop can do: fail and leave the tracker alone, or remember a
nonce that was not there. -/
theorem firstUnseen_cases (tracker : NonceTracker) (draws : List (Validated String)) :
    (∃ reason, tracker.firstUnseen draws = (tracker, .error reason)) ∨
    ∃ nonce ∉ tracker.seen, tracker.firstUnseen draws = (tracker.remember nonce, .ok nonce) := by
  induction draws with
  | nil => exact Or.inl ⟨_, rfl⟩
  | cons draw rest ih =>
      cases draw with
      | error reason => exact Or.inl ⟨reason, rfl⟩
      | ok nonce =>
          rw [firstUnseen]
          by_cases known : nonce ∈ tracker.seen
          · rw [if_pos known]
            exact ih
          · rw [if_neg known]
            exact Or.inr ⟨nonce, known, rfl⟩

/-- Commands draw nonces of the default size. -/
theorem freshNonceOfSize_default (tracker : NonceTracker)
    (draws : Vector RandomBytes nonceDraws) :
    tracker.freshNonceOfSize commandNonceBytes draws = tracker.freshNonce draws := by
  have drawn : newNonceOfSize commandNonceBytes = fun bytes => .ok (newNonce bytes) := rfl
  rw [freshNonceOfSize, freshNonce, drawn]
  induction draws.toList with
  | nil => rfl
  | cons bytes rest ih =>
      rw [List.map_cons, firstUnseen, firstFresh]
      split
      · exact ih
      · rfl

/-- What one nonce more leaves of the end of a history. -/
theorem retainsEnd_remember {tracker : NonceTracker} {history : List String}
    (retains : RetainsEnd (tracker.window + 1) history tracker.seen) (nonce : String) :
    RetainsEnd (tracker.window + 1) (history ++ [nonce]) (tracker.remember nonce).seen := by
  obtain ⟨forgotten, split, kept⟩ := tracker.remember_split nonce
  exact retains.concat split kept

end NonceTracker

/-! ## Trackers in use -/

/-- A tracker and all nonces it was ever told of, oldest first. -/
structure TrackedNonces where
  tracker : NonceTracker
  history : List String

/-- A nonce to remember, or one to draw. -/
inductive TrackerCall where
  | remember (nonce : String)
  | freshNonce (numBytes : Int) (draws : Vector (Vector UInt8 numBytes.toNat) nonceDraws)

namespace TrackedNonces

/-- A new tracker has no history. -/
def start (window : Int) : TrackedNonces := ⟨.ofWindow window, []⟩

def step (state : TrackedNonces) : TrackerCall → TrackedNonces
  | .remember nonce => ⟨state.tracker.remember nonce, state.history ++ [nonce]⟩
  | .freshNonce numBytes draws =>
      match state.tracker.freshNonceOfSize numBytes draws with
      | (tracker, .ok nonce) => ⟨tracker, state.history ++ [nonce]⟩
      | (tracker, .error _) => ⟨tracker, state.history⟩

/-- A call tells the tracker of one nonce, or changes nothing. -/
theorem step_cases (state : TrackedNonces) (call : TrackerCall) :
    state.step call = state ∨
    ∃ nonce, state.step call = ⟨state.tracker.remember nonce, state.history ++ [nonce]⟩ := by
  cases call with
  | remember nonce => exact Or.inr ⟨nonce, rfl⟩
  | freshNonce numBytes draws =>
      rcases state.tracker.firstUnseen_cases (draws.toList.map (newNonceOfSize numBytes)) with
        ⟨reason, failed⟩ | ⟨nonce, -, taken⟩
      · left
        rw [step, NonceTracker.freshNonceOfSize, failed]
      · right
        refine ⟨nonce, ?_⟩
        rw [step, NonceTracker.freshNonceOfSize, taken]

/-- The tracker keeps its window, and holds the end of its history: all of it, or
more than a window. -/
structure Held (window : Nat) (state : TrackedNonces) : Prop where
  window_eq : state.tracker.window = window
  retains : RetainsEnd (window + 1) state.history state.tracker.seen

theorem held_start (window : Int) :
    Held (NonceTracker.ofWindow window).window (start window) where
  window_eq := rfl
  retains := ⟨[], rfl, Or.inl rfl⟩

theorem Held.step {window : Nat} {state : TrackedNonces} (held : Held window state)
    (call : TrackerCall) : Held window (state.step call) := by
  rcases state.step_cases call with same | ⟨nonce, told⟩
  · rw [same]
    exact held
  · obtain ⟨rfl, retains⟩ := held
    rw [told]
    exact ⟨NonceTracker.remember_window _ _, NonceTracker.retainsEnd_remember retains nonce⟩

theorem held_run (window : Int) (calls : List TrackerCall) :
    Held (NonceTracker.ofWindow window).window (run step (start window) calls) :=
  run_keeps (fun _ call held => held.step call) (held_start window) calls

/-- Whatever it is told and asked, a tracker retains the end of its history: at
most two windows, and the last nonces up to a window and one.  A nonce it draws
is none of these, and a draw that fails changes nothing. -/
theorem tracker_retains_recent (window : Int) (calls : List TrackerCall) :
    let state := run step (start window) calls
    let width := state.tracker.window
    let recent := state.history.rtake (min state.history.length (width + 1))
    (width : Int) = max 1 window ∧
      state.tracker.seen <:+ state.history ∧
      state.tracker.seen.length ≤ 2 * width ∧
      recent <:+ state.tracker.seen ∧
      ∀ numBytes draws,
        match state.tracker.freshNonceOfSize numBytes draws with
        | (_, .ok nonce) => nonce ∉ recent
        | (after, .error _) => after = state.tracker := by
  dsimp only
  obtain ⟨same, retains⟩ := held_run window calls
  generalize run step (start window) calls = state at same retains
  have ending : state.history.rtake (min state.history.length (state.tracker.window + 1)) <:+
      state.tracker.seen :=
    retains.rtake_suffix (same ▸ Nat.min_le_right _ _)
  refine ⟨?_, retains.suffix, state.tracker.bounded, ending, ?_⟩
  · rw [same]
    exact NonceTracker.ofWindow_window window
  · intro numBytes draws
    rcases state.tracker.firstUnseen_cases (draws.toList.map (newNonceOfSize numBytes)) with
      ⟨reason, failed⟩ | ⟨nonce, fresh, taken⟩
    · rw [NonceTracker.freshNonceOfSize, failed]
    · rw [NonceTracker.freshNonceOfSize, taken]
      intro recent
      exact fresh (ending.mem recent)

end TrackedNonces

end HomeKeyHousehold
