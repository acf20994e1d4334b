import HomeKeyHousehold.Household
import HomeKeyHousehold.NonceTracking
import Mathlib.Data.List.Nodup

/-!
# Nonce reuse

One tracker serves all nodes of a household and forgets a whole window at a
time, while each node remembers its own last 32 nonces.  What decides is whether
the tracker still holds what was last published to the node.
-/

namespace HomeKeyHousehold

open Library

namespace Household

variable {hmac : HmacSha256} {state : Household}

/-- Before a command to a node, the tracker still holds the last 32 nonces
published to that node. -/
def Retained (state : Household) : HouseholdEvent → Prop
  | .publish nodeId .. =>
      ∀ nonce ∈ (state.publishedTo nodeId).rtake commandReplayWindow,
        nonce ∈ state.client.nonces.seen
  | .submit .. => True

/-- A command that left joins the history of its own node only. -/
theorem publishedTo_append (state : Household) (client : HomeKeyMqttClient) (issued : Issued)
    (nodeId : String) :
    publishedTo { state with client, issued := state.issued ++ [issued] } nodeId =
      state.publishedTo nodeId ++
        if issued.nodeId = nodeId ∧ issued.sent ≠ [] then [issued.command.nonce] else [] := by
  unfold publishedTo
  rw [List.filter_append, List.map_append]
  by_cases here : issued.nodeId = nodeId ∧ issued.sent ≠ []
  · simp [here]
  · simp [here]

/-- What a publication adds to the history of a node: nothing, or a nonce that
the tracker did not hold, for the node it names. -/
theorem publishedTo_publish (hmac : HmacSha256) (state : Household) (nodeId action : String)
    (ts : Option Int) (world : HomeKeyMqttClient.Circumstances) (other : String) :
    (state.publish hmac nodeId action ts world).publishedTo other = state.publishedTo other ∨
    nodeId = other ∧ ∃ bytes, newNonce bytes ∉ state.client.nonces.seen ∧
      (state.publish hmac nodeId action ts world).publishedTo other =
        state.publishedTo other ++ [newNonce bytes] := by
  rcases publish_cases hmac state nodeId action ts world with
    same | ⟨act, bytes, command, sent, -, -, fresh, made, -, next⟩
  · left
    rw [same]
  · rw [next, publishedTo_append]
    split
    · next here =>
        right
        refine ⟨here.1, bytes, fresh, ?_⟩
        rw [made]
        rfl
    · exact Or.inl (List.append_nil _)

@[simp]
theorem publishedTo_submit (hmac : HmacSha256) (state : Household)
    (nodeId topic payload : String) (now : Option Int) (other : String) :
    (state.submit hmac nodeId topic payload now).publishedTo other = state.publishedTo other := by
  rcases submit_cases hmac state nodeId topic payload now with same | ⟨_, _, -, -, -, next⟩
  · rw [same]
  · rw [next]
    rfl

/-- A step that finds the last 32 nonces retained keeps a history spaced. -/
theorem spaced_step {nodeId : String} (event : HouseholdEvent)
    (spaced : Spaced commandReplayWindow (state.publishedTo nodeId))
    (retained : Retained state event) :
    Spaced commandReplayWindow ((state.step hmac event).publishedTo nodeId) := by
  cases event with
  | submit target topic payload now =>
      rw [step, publishedTo_submit]
      exact spaced
  | publish target action ts world =>
      rcases publishedTo_publish hmac state target action ts world nodeId with
        same | ⟨rfl, bytes, fresh, added⟩
      · rw [step, same]
        exact spaced
      · rw [step, added, spaced_append_singleton]
        refine ⟨spaced, ?_⟩
        intro recent
        exact fresh (retained _ recent)

/-- No nonce is published again to a node whose window may still hold it, in any
run whose publications find the node's last 32 nonces in the tracker. -/
theorem nonce_not_reused_within_window {householdId : String} {key : Bytes}
    {events : List HouseholdEvent}
    (retained : Along (step hmac) Retained (start householdId key) events) (nodeId : String) :
    Spaced commandReplayWindow
      ((run (step hmac) (start householdId key) events).publishedTo nodeId) := by
  have keeps : ∀ (state : Household) (event : HouseholdEvent),
      Spaced commandReplayWindow (state.publishedTo nodeId) → Retained state event →
      Spaced commandReplayWindow ((state.step hmac event).publishedTo nodeId) := by
    intro state event spaced admitted
    exact spaced_step event spaced admitted
  exact run_invariant keeps spaced_nil retained

/-! ## A random source that repeats itself -/

/-- A random source whose draws all come out the same, and a broker that takes
every publication. -/
def steadyWorld (bytes : RandomBytes) : HomeKeyMqttClient.Circumstances :=
  { clock := 1700000000
    entropy := { draws := Vector.replicate _ bytes, uuid := Vector.replicate _ 0 }
    transmission := .accepted }

/-- The only draw of a steady source is published when the tracker does not hold
it, and remembered. -/
theorem publish_steady (hmac : HmacSha256) {state : Household} (keyed : state.key ≠ [])
    (nodeId : String) (action : Action) (ts : Option Int) {bytes : RandomBytes}
    (fresh : newNonce bytes ∉ state.client.nonces.seen) :
    let after := state.publish hmac nodeId action.spelling ts (steadyWorld bytes)
    after.key = state.key ∧
      after.client.nonces = state.client.nonces.remember (newNonce bytes) ∧
      ∀ other, after.publishedTo other =
        state.publishedTo other ++ if nodeId = other then [newNonce bytes] else [] := by
  unfold publish HomeKeyMqttClient.asyncPublishAuthenticatedCommand
  rcases state.client.signCommand_cases hmac keyed action ts (steadyWorld bytes).clock
      (steadyWorld bytes).entropy with ⟨-, all⟩ | ⟨drawn, member, -, signed⟩
  · have known := all bytes (by simp [steadyWorld, nonceDraws])
    exact absurd known fresh
  · have same : drawn = bytes :=
      List.eq_of_mem_replicate (by simpa [steadyWorld] using member)
    rw [signed, same]
    refine ⟨rfl, rfl, ?_⟩
    intro other
    rw [publishedTo_append]
    by_cases here : nodeId = other
    · rw [if_pos ⟨here, List.cons_ne_nil _ _⟩, if_pos here]
      rfl
    · rw [if_neg (fun both => here both.1), if_neg here]

/-- Every published nonce was drawn from the random source. -/
def Drawn (state : Household) : Prop :=
  ∀ nodeId, ∀ nonce ∈ state.publishedTo nodeId, ∃ bytes, newNonce bytes = nonce

theorem drawn_step (event : HouseholdEvent) (drawn : Drawn state) :
    Drawn (state.step hmac event) := by
  intro nodeId nonce published
  cases event with
  | submit target topic payload now =>
      rw [step, publishedTo_submit] at published
      exact drawn nodeId nonce published
  | publish target action ts world =>
      rcases publishedTo_publish hmac state target action ts world nodeId with
        same | ⟨-, bytes, -, added⟩
      · rw [step, same] at published
        exact drawn nodeId nonce published
      · rw [step, added] at published
        rcases List.mem_append.mp published with old | new
        · exact drawn nodeId nonce old
        · exact ⟨bytes, (List.mem_singleton.mp new).symm⟩

/-- The condition is exact: where the tracker has forgotten one of the last 32
nonces of a node, a random source that returns it makes the client reuse it. -/
theorem spaced_publish_iff (keyed : state.key ≠ []) (drawn : Drawn state) {nodeId : String}
    (spaced : Spaced commandReplayWindow (state.publishedTo nodeId)) :
    (∀ action ts world, Spaced commandReplayWindow
      ((state.publish hmac nodeId action ts world).publishedTo nodeId)) ↔
      ∀ nonce ∈ (state.publishedTo nodeId).rtake commandReplayWindow,
        nonce ∈ state.client.nonces.seen := by
  constructor
  · intro always nonce recent
    by_contra forgotten
    obtain ⟨bytes, rfl⟩ := drawn nodeId nonce (List.mem_of_mem_drop recent)
    obtain ⟨-, -, history⟩ := publish_steady hmac keyed nodeId .lock none forgotten
    have repeated := always Action.lock.spelling none (steadyWorld bytes)
    rw [history, if_pos rfl, spaced_append_singleton] at repeated
    exact repeated.2 recent
  · intro retained action ts world
    exact spaced_step (.publish nodeId action ts world) spaced retained

/-- Lock commands to one node, each under its own draw. -/
def steadyEvents (nodeId : String) (draws : List RandomBytes) : List HouseholdEvent :=
  draws.map fun bytes => .publish nodeId Action.lock.spelling none (steadyWorld bytes)

theorem run_steadyEvents_singleton (hmac : HmacSha256) (state : Household) (nodeId : String)
    (bytes : RandomBytes) :
    run (step hmac) state (steadyEvents nodeId [bytes]) =
      state.publish hmac nodeId Action.lock.spelling none (steadyWorld bytes) := by
  rw [steadyEvents, List.map_singleton, run_cons, run_nil, step]

/-- Commands under distinct draws fill the tracker while there is room, and are
published to their node alone. -/
theorem run_steadyEvents (hmac : HmacSha256) {nodeId : String} {draws : List RandomBytes}
    {state : Household} (keyed : state.key ≠ [])
    (distinct : (state.client.nonces.seen ++ draws.map newNonce).Nodup)
    (room : state.client.nonces.seen.length + draws.length ≤ state.client.nonces.window * 2) :
    let final := run (step hmac) state (steadyEvents nodeId draws)
    final.key = state.key ∧
      final.client.nonces.window = state.client.nonces.window ∧
      final.client.nonces.seen = state.client.nonces.seen ++ draws.map newNonce ∧
      ∀ other, final.publishedTo other =
        state.publishedTo other ++ if nodeId = other then draws.map newNonce else [] := by
  induction draws generalizing state with
  | nil => simp [steadyEvents]
  | cons bytes rest ih =>
      have fresh : newNonce bytes ∉ state.client.nonces.seen := by
        intro known
        exact (List.nodup_append.mp distinct).2.2 _ known _ List.mem_cons_self rfl
      obtain ⟨key, tracker, history⟩ := publish_steady hmac keyed nodeId .lock none fresh
      have seen : (state.publish hmac nodeId Action.lock.spelling none
          (steadyWorld bytes)).client.nonces.seen =
          state.client.nonces.seen ++ [newNonce bytes] := by
        rw [tracker]
        apply NonceTracker.remember_of_room
        rw [List.length_cons] at room
        omega
      have window : (state.publish hmac nodeId Action.lock.spelling none
          (steadyWorld bytes)).client.nonces.window = state.client.nonces.window := by
        rw [tracker, NonceTracker.remember_window]
      obtain ⟨laterKey, laterWindow, laterSeen, laterHistory⟩ := ih (key ▸ keyed)
        (by rw [seen, List.append_assoc]; exact distinct)
        (by
          rw [seen, window, List.length_append, List.length_singleton]
          rw [List.length_cons] at room
          omega)
      rw [steadyEvents, List.map_cons, run_cons, step]
      rw [steadyEvents] at laterKey laterWindow laterSeen laterHistory
      refine ⟨laterKey.trans key, laterWindow.trans window, ?_, ?_⟩
      · rw [laterSeen, seen, List.append_assoc]
        rfl
      · intro other
        rw [laterHistory, history, List.append_assoc]
        split <;> rfl

def sampleDraw (value : Nat) : RandomBytes := Vector.replicate _ (UInt8.ofNat value)

theorem sampleDraw_inj {first second : Nat} (firstSmall : first < 256) (secondSmall : second < 256)
    (equal : sampleDraw first = sampleDraw second) : first = second := by
  have bytes : UInt8.ofNat first = UInt8.ofNat second := by
    have lists := congrArg (fun draw : RandomBytes => draw.toList.head?) equal
    simpa [sampleDraw, commandNonceBytes] using lists
  have values := congrArg UInt8.toNat bytes
  rw [UInt8.toNat_ofNat', UInt8.toNat_ofNat'] at values
  omega

/-- The draws between the first and the last of the sample run. -/
def middleDraws : List RandomBytes := (List.range 63).map fun value => sampleDraw (value + 1)

theorem sampleDraws_nodup :
    (newNonce (sampleDraw 0) :: (middleDraws.map newNonce ++ [newNonce (sampleDraw 64)])).Nodup := by
  have all : (((List.range 65).map sampleDraw).map newNonce).Nodup := by
    apply List.Nodup.map newNonce_injective
    apply List.Nodup.map_on _ List.nodup_range
    intro first firstMember second secondMember equal
    rw [List.mem_range] at firstMember secondMember
    exact sampleDraw_inj (by omega) (by omega) equal
  have values : List.range 65 = 0 :: ((List.range 63).map (· + 1) ++ [64]) := by decide
  simpa only [values, middleDraws, List.map_cons, List.map_append, List.map_map, List.map_nil,
    Function.comp_def] using all

def reusingEvents : List HouseholdEvent :=
  steadyEvents "GATE-001" [sampleDraw 0] ++ (steadyEvents "GATE-002" middleDraws ++
    (steadyEvents "GATE-002" [sampleDraw 64] ++ steadyEvents "GATE-001" [sampleDraw 0]))

/-- After one command to a node and 64 to another the tracker has forgotten the
first nonce, and its draw is published to the first node again. -/
theorem publishedTo_reusingEvents (hmac : HmacSha256) :
    (run (step hmac) (start "HOME001" [1]) reusingEvents).publishedTo "GATE-001" =
      [newNonce (sampleDraw 0), newNonce (sampleDraw 0)] := by
  have apart : "GATE-002" ≠ "GATE-001" := by decide
  have distinct := sampleDraws_nodup
  obtain ⟨firstUnseen, -⟩ := List.nodup_cons.mp distinct
  rw [← List.cons_append] at distinct
  obtain ⟨early, -, lastApart⟩ := List.nodup_append.mp distinct
  rw [reusingEvents, run_append, run_append, run_append]
  -- the tracker fills up to its two windows
  obtain ⟨key₁, window₁, seen₁, history₁⟩ := @run_steadyEvents hmac "GATE-001" [sampleDraw 0]
    (start "HOME001" [1]) (List.cons_ne_nil _ _) (List.nodup_singleton _) (by decide)
  generalize run (step hmac) (start "HOME001" [1]) (steadyEvents "GATE-001" [sampleDraw 0]) =
    once at key₁ window₁ seen₁ history₁ ⊢
  have keyed₁ : once.key ≠ [] := by
    rw [key₁]
    exact List.cons_ne_nil _ _
  obtain ⟨key₂, window₂, seen₂, history₂⟩ := @run_steadyEvents hmac "GATE-002" middleDraws
    once keyed₁ (by rw [seen₁]; exact early) (by rw [seen₁, window₁]; decide)
  generalize run (step hmac) once (steadyEvents "GATE-002" middleDraws) = filled
    at key₂ window₂ seen₂ history₂ ⊢
  rw [seen₁] at seen₂
  -- one command more evicts the oldest window
  have lastUnseen : newNonce (sampleDraw 64) ∉ filled.client.nonces.seen := by
    intro seen
    rw [seen₂] at seen
    exact lastApart _ seen _ (List.mem_singleton_self _) rfl
  obtain ⟨key₃, tracker₃, history₃⟩ := publish_steady hmac (key₂ ▸ keyed₁) "GATE-002" .lock none
    lastUnseen
  have seen₃ : (filled.publish hmac "GATE-002" Action.lock.spelling none
      (steadyWorld (sampleDraw 64))).client.nonces.seen =
      (middleDraws.map newNonce ++ [newNonce (sampleDraw 64)]).drop 31 := by
    rw [tracker₃, NonceTracker.remember_of_full _ (by rw [window₂, window₁, seen₂]; decide),
      window₂, window₁, seen₂]
    rfl
  have forgotten : newNonce (sampleDraw 0) ∉ (filled.publish hmac "GATE-002"
      Action.lock.spelling none (steadyWorld (sampleDraw 64))).client.nonces.seen := by
    intro kept
    rw [seen₃] at kept
    exact firstUnseen (List.mem_of_mem_drop kept)
  -- so the first draw is published again
  obtain ⟨-, -, history₄⟩ := publish_steady hmac (key₃ ▸ key₂ ▸ keyed₁) "GATE-001" .lock none
    forgotten
  have reused := history₄ "GATE-001"
  rw [if_pos rfl, history₃, if_neg apart, List.append_nil, history₂, if_neg apart,
    List.append_nil, history₁, if_pos rfl] at reused
  rw [run_steadyEvents_singleton, run_steadyEvents_singleton, reused]
  rfl

/-- Whatever the MAC, some household reuses a nonce inside a node's window. -/
theorem nonce_reused_within_window :
    ¬ ∃ hmac : HmacSha256, ∀ (householdId : String) (key : Bytes)
        (events : List HouseholdEvent) (nodeId : String),
      Spaced commandReplayWindow
        ((run (step hmac) (start householdId key) events).publishedTo nodeId) := by
  rintro ⟨hmac, never⟩
  have spaced := never "HOME001" [1] reusingEvents "GATE-001"
  rw [publishedTo_reusingEvents] at spaced
  exact spaced [_] _ List.prefix_rfl (List.mem_singleton_self _)

end Household

/-! ## Trackers that hold the end of a history -/

/-- A tracker holds the end of a history: all of it, or more than a window. -/
structure NonceTracker.HoldsEnd (tracker : NonceTracker) (history : List String) : Prop where
  window : tracker.window = commandReplayWindow
  suffix : ∃ forgotten, history = forgotten ++ tracker.seen ∧
    (forgotten = [] ∨ commandReplayWindow < tracker.seen.length)

namespace NonceTracker.HoldsEnd

variable {tracker : NonceTracker} {history : List String}

theorem retainsEnd (holds : tracker.HoldsEnd history) :
    RetainsEnd (tracker.window + 1) history tracker.seen := by
  obtain ⟨window, forgotten, whole, held⟩ := holds
  refine ⟨forgotten, whole, ?_⟩
  rw [window]
  exact held

/-- What is remembered is the new end. -/
theorem remember (holds : tracker.HoldsEnd history) (nonce : String) :
    (tracker.remember nonce).HoldsEnd (history ++ [nonce]) := by
  have retained := NonceTracker.retainsEnd_remember holds.retainsEnd nonce
  rw [holds.window] at retained
  exact ⟨(NonceTracker.remember_window _ _).trans holds.window, retained⟩

/-- The last window of the history is held. -/
theorem mem_seen (holds : tracker.HoldsEnd history) {nonce : String}
    (recent : nonce ∈ history.rtake commandReplayWindow) : nonce ∈ tracker.seen := by
  have within : commandReplayWindow ≤ tracker.window + 1 := by
    rw [holds.window]
    exact Nat.le_succ _
  exact (holds.retainsEnd.rtake_suffix within).mem recent

end NonceTracker.HoldsEnd

namespace Household

variable {hmac : HmacSha256} {state : Household}

/-! ## Households of one node -/

/-- A command, if it is one, that leaves for the one node. -/
def LeavesFor (nodeId : String) : HouseholdEvent → Prop
  | .publish target _ _ world => target = nodeId ∧ world.transmission.leaves = true
  | .submit .. => True

/-- The tracker holds the end of what the node was sent. -/
def Recalls (nodeId : String) (state : Household) : Prop :=
  state.client.nonces.HoldsEnd (state.publishedTo nodeId)

theorem recalls_start (nodeId householdId : String) (key : Bytes) :
    Recalls nodeId (start householdId key) where
  window := rfl
  suffix := ⟨[], rfl, Or.inl rfl⟩

theorem Recalls.step {nodeId : String} (recalls : Recalls nodeId state)
    {event : HouseholdEvent} (leaves : LeavesFor nodeId event) :
    Recalls nodeId (state.step hmac event) := by
  cases event with
  | submit target topic payload now =>
      rcases submit_cases hmac state target topic payload now with
        same | ⟨_, _, -, -, -, next⟩
      · rw [Household.step, same]
        exact recalls
      · rw [Household.step, next]
        exact ⟨recalls.window, recalls.suffix⟩
  | publish target action ts world =>
      obtain ⟨rfl, left⟩ := leaves
      rcases publish_cases hmac state target action ts world with
        same | ⟨act, bytes, command, sent, -, -, -, made, published, next⟩
      · rw [Household.step, same]
        exact recalls
      · rw [Household.step, next]
        have sentOne : sent ≠ [] := by
          rw [published, if_pos left]
          exact List.cons_ne_nil _ _
        have remembered := recalls.remember (newNonce bytes)
        refine ⟨remembered.window, ?_⟩
        rw [publishedTo_append, if_pos ⟨rfl, sentOne⟩, made]
        exact remembered.suffix

theorem Recalls.retained {nodeId : String} (recalls : Recalls nodeId state)
    {event : HouseholdEvent} (leaves : LeavesFor nodeId event) : Retained state event := by
  cases event with
  | submit target topic payload now => trivial
  | publish target action ts world =>
      obtain ⟨rfl, -⟩ := leaves
      intro nonce recent
      exact recalls.mem_seen recent

/-- In a household of one node, where every command leaves, the tracker always
holds what the node may still refuse. -/
theorem retained_of_one_node {nodeId householdId : String} {key : Bytes}
    {events : List HouseholdEvent} (leaves : ∀ event ∈ events, LeavesFor nodeId event) :
    Along (step hmac) Retained (start householdId key) events := by
  have along : ∀ (state : Household), Along (step hmac) (fun _ => LeavesFor nodeId) state events := by
    induction events with
    | nil => exact fun _ => trivial
    | cons event rest ih =>
        intro state
        exact ⟨leaves event List.mem_cons_self,
          ih (fun later member => leaves later (List.mem_cons_of_mem _ member)) _⟩
  exact Along.of_invariant (fun _ _ recalls admitted => recalls.step admitted)
    (fun _ _ recalls admitted => recalls.retained admitted)
    (recalls_start nodeId householdId key) (along _)

theorem nonce_not_reused_by_two_commands :
    Spaced commandReplayWindow
      ((run (step fun _ text => text) (start "HOME001" [1])
        (steadyEvents "GATE-001" [sampleDraw 0, sampleDraw 1])).publishedTo "GATE-001") := by
  apply nonce_not_reused_within_window
  refine @retained_of_one_node _ "GATE-001" _ _ _ ?_
  intro event member
  rcases List.mem_pair.mp member with rfl | rfl
  · exact ⟨rfl, rfl⟩
  · exact ⟨rfl, rfl⟩

end Household

end HomeKeyHousehold
