import HomeKeyHousehold.NonceReuse
import HomeKeyHousehold.Replay

/-!
# The command channel of one node

One client publishes commands to one node.  The broker delivers them in the order they
were published, and any of them again at any later time.  The node accepts what it gets
for the first time, with the action that was asked for, as long as the client does not
come back to a nonce that the node still remembers.
-/

namespace HomeKeyHousehold

open Library

/-- A digest is ASCII text. -/
def WritesAscii (hmac : HmacSha256) : Prop :=
  ∀ key text, ∀ ch ∈ (hmac key text).toList, ch.toNat < 128

/-- A command that left the client. -/
structure Dispatch where
  action : Action
  command : AuthenticatedCommand
  publication : Publication
  deriving DecidableEq

/-- What the node made of one delivery, with the nonces it remembered before. -/
structure Verdict where
  dispatch : Dispatch
  first : Bool
  window : List String
  result : Except Reject Action

/-- A first delivery is accepted with the action that was asked for, and a duplicate is
rejected as long as its nonce is remembered. -/
def Verdict.AcceptedOnce (verdict : Verdict) : Prop :=
  if verdict.first then verdict.result = .ok verdict.dispatch.action
  else verdict.dispatch.command.nonce ∈ verdict.window → ∃ reject, verdict.result = .error reject

/-- The time of a command against the clock of the node. -/
abbrev Skew : Type := { offset : Int // -maxSkewSeconds ≤ offset ∧ offset ≤ maxSkewSeconds }

/-- The client, the memory of the node and the commands between them. -/
structure CommandChannel where
  householdId : String
  nodeId : String
  key : Bytes
  client : HomeKeyMqttClient
  seenNonces : List String
  pending : List Dispatch
  delivered : List Dispatch
  verdicts : List Verdict

/-- A command is published, the oldest one that waits is delivered for the first time, at a
clock that agrees with it or is not set, or one that was delivered is delivered again. -/
inductive ChannelEvent where
  | publish (action : Action) (ts : Option Int) (world : HomeKeyMqttClient.Circumstances)
  | deliver (skew : Option Skew)
  | redeliver (index : Nat) (now : Option Int)

namespace CommandChannel

/-- A new client, and a node that has accepted nothing. -/
def start (householdId nodeId : String) (key : Bytes) : CommandChannel :=
  { householdId
    nodeId
    key
    client := .new householdId
    seenNonces := []
    pending := []
    delivered := []
    verdicts := [] }

/-- The node verifies a delivery. -/
def receive (hmac : HmacSha256) (channel : CommandChannel) (dispatch : Dispatch) (first : Bool)
    (now : Option Int) : CommandChannel :=
  let verified := FirmwareVerifier.verify hmac ⟨channel.key, now, channel.seenNonces⟩
    (nodeBase channel.householdId channel.nodeId) dispatch.publication.topic
    dispatch.publication.payload
  { channel with
    seenNonces := verified.1.seenNonces
    verdicts := channel.verdicts ++
      [{ dispatch, first, window := channel.seenNonces, result := verified.2 }] }

def publish (hmac : HmacSha256) (channel : CommandChannel) (action : Action) (ts : Option Int)
    (world : HomeKeyMqttClient.Circumstances) : CommandChannel :=
  let outcome := channel.client.asyncPublishAuthenticatedCommand hmac channel.householdId
    channel.nodeId channel.key action.spelling ts world
  match (channel.client.signCommand hmac channel.key action.spelling ts world.clock
      world.entropy).2 with
  | .error _ => { channel with client := outcome.client }
  | .ok command =>
      { channel with
        client := outcome.client
        pending := channel.pending ++
          outcome.sent.map fun publication => { action, command, publication } }

def step (hmac : HmacSha256) (channel : CommandChannel) : ChannelEvent → CommandChannel
  | .publish action ts world => channel.publish hmac action ts world
  | .deliver skew =>
      match channel.pending with
      | [] => channel
      | dispatch :: rest =>
          let now := skew.map fun skew => dispatch.command.ts - skew.val
          { channel.receive hmac dispatch true now with
            pending := rest
            delivered := channel.delivered ++ [dispatch] }
  | .redeliver index now =>
      match channel.delivered[index]? with
      | some dispatch => channel.receive hmac dispatch false now
      | none => channel

/-- The node does not remember the nonce of a command that it gets for the first time. -/
def Unused (channel : CommandChannel) : ChannelEvent → Prop
  | .deliver _ => ∀ dispatch ∈ channel.pending.head?, dispatch.command.nonce ∉ channel.seenNonces
  | _ => True

variable {hmac : HmacSha256} {channel : CommandChannel} {dispatch : Dispatch}

/-! ## One delivery -/

/-- A command that the client signed for the node and published on its topic. -/
def Genuine (hmac : HmacSha256) (channel : CommandChannel) (dispatch : Dispatch) : Prop :=
  (∃ ts bytes uuid, dispatch.command =
    HomeKeyMqttClient.commandOf hmac channel.key dispatch.action ts bytes uuid) ∧
  dispatch.publication = HomeKeyMqttClient.commandPublication channel.householdId channel.nodeId
    dispatch.action.spelling dispatch.command

theorem topic_commandPublication (householdId nodeId : String) (action : Action)
    (command : AuthenticatedCommand) :
    (HomeKeyMqttClient.commandPublication householdId nodeId action.spelling command).topic =
      nodeBase householdId nodeId ++ "/" ++ action.subtopic := by
  cases action with
  | lock => rfl
  | unlock => rfl

/-- What it takes for the node to accept a command of the client: time and nonce. -/
theorem check_commandOf (ascii : WritesAscii hmac) (verifier : FirmwareVerifier) (action : Action)
    (ts : Int) (bytes uuid : RandomBytes) :
    let command := HomeKeyMqttClient.commandOf hmac verifier.key action ts bytes uuid
    verifier.check hmac action command = .ok () ↔
      verifier.inTime command.ts = true ∧ command.nonce ∉ verifier.seenNonces := by
  intro command
  have written : isAscii command.mac = true :=
    List.all_eq_true.mpr fun ch member => decide_eq_true (ascii _ _ ch member)
  have signed : command.mac =
      expectedMac hmac verifier.key command.ts command.nonce command.reqId action := rfl
  rw [FirmwareVerifier.check_ok_iff]
  exact ⟨fun passed => passed.2.2, fun passed => ⟨written, signed, passed⟩⟩

/-- A delivery is accepted with the action of the command, and its nonce remembered, when
the clock and the memory of the node admit it; otherwise it is rejected without a trace. -/
theorem verify_genuine (ascii : WritesAscii hmac) (genuine : Genuine hmac channel dispatch)
    (now : Option Int) :
    let verifier : FirmwareVerifier := ⟨channel.key, now, channel.seenNonces⟩
    if verifier.inTime dispatch.command.ts = true ∧
        dispatch.command.nonce ∉ channel.seenNonces then
      verifier.verify hmac (nodeBase channel.householdId channel.nodeId)
          dispatch.publication.topic dispatch.publication.payload =
        (verifier.remember dispatch.command.nonce, .ok dispatch.action)
    else
      ∃ reject, verifier.verify hmac (nodeBase channel.householdId channel.nodeId)
          dispatch.publication.topic dispatch.publication.payload =
        (verifier, .error reject) := by
  intro verifier
  obtain ⟨⟨ts, bytes, uuid, signed⟩, published⟩ := genuine
  have passes := check_commandOf ascii verifier dispatch.action ts bytes uuid
  dsimp only at passes
  rw [← signed] at passes
  have payload : dispatch.publication.payload = dumpsCommand dispatch.command := by
    rw [published]
    rfl
  rw [published, topic_commandPublication, ← published, payload, FirmwareVerifier.verify,
    actionForTopic_subtopic, commandFields_dumpsCommand]
  dsimp only
  split
  · next admitted => rw [passes.mpr admitted]
  · next refused =>
      cases checked : verifier.check hmac dispatch.action dispatch.command with
      | ok passed => exact absurd (passes.mp checked) refused
      | error reject => exact ⟨reject, rfl⟩

/-- A clock that a command agrees with finds it in time. -/
theorem inTime_skew (key : Bytes) (seenNonces : List String) (ts : Int) (skew : Option Skew) :
    FirmwareVerifier.inTime ⟨key, skew.map fun offset : Skew => ts - offset.val, seenNonces⟩ ts =
      true := by
  cases skew with
  | none => rfl
  | some skew =>
      obtain ⟨offset, late, early⟩ := skew
      have back : ts - (ts - offset) = offset := by omega
      rw [FirmwareVerifier.inTime, Option.map_some]
      dsimp only
      rw [back, decide_eq_true late, decide_eq_true early]
      rfl

/-- What the node makes of a delivery. -/
def verdict (hmac : HmacSha256) (channel : CommandChannel) (dispatch : Dispatch) (first : Bool)
    (now : Option Int) : Verdict :=
  { dispatch
    first
    window := channel.seenNonces
    result := (FirmwareVerifier.verify hmac ⟨channel.key, now, channel.seenNonces⟩
      (nodeBase channel.householdId channel.nodeId) dispatch.publication.topic
      dispatch.publication.payload).2 }

theorem verdicts_receive (hmac : HmacSha256) (channel : CommandChannel) (dispatch : Dispatch)
    (first : Bool) (now : Option Int) :
    (channel.receive hmac dispatch first now).verdicts =
      channel.verdicts ++ [channel.verdict hmac dispatch first now] := rfl

/-- A first delivery is accepted, with its action, exactly when the node does not remember
the nonce. -/
theorem acceptedOnce_first_iff (ascii : WritesAscii hmac) (genuine : Genuine hmac channel dispatch)
    (skew : Option Skew) :
    (channel.verdict hmac dispatch true
        (skew.map fun skew => dispatch.command.ts - skew.val)).AcceptedOnce ↔
      dispatch.command.nonce ∉ channel.seenNonces := by
  have verified := verify_genuine ascii genuine
    (skew.map fun skew => dispatch.command.ts - skew.val)
  dsimp only at verified
  rw [inTime_skew] at verified
  rw [Verdict.AcceptedOnce, verdict, if_pos rfl]
  dsimp only
  split at verified
  · next admitted =>
      rw [verified]
      exact iff_of_true rfl admitted.2
  · next refused =>
      obtain ⟨reject, rejected⟩ := verified
      rw [rejected]
      exact iff_of_false (fun same => by cases same) fun unused => refused ⟨rfl, unused⟩

/-- A duplicate whose nonce the node remembers is rejected, at any time. -/
theorem acceptedOnce_duplicate (ascii : WritesAscii hmac) (genuine : Genuine hmac channel dispatch)
    (now : Option Int) : (channel.verdict hmac dispatch false now).AcceptedOnce := by
  rw [Verdict.AcceptedOnce, if_neg (by exact Bool.false_ne_true)]
  intro remembered
  have verified := verify_genuine ascii genuine now
  dsimp only at verified
  rw [if_neg fun admitted => admitted.2 remembered] at verified
  obtain ⟨reject, rejected⟩ := verified
  exact ⟨reject, congrArg Prod.snd rejected⟩

/-- An accepted first delivery is remembered. -/
theorem seenNonces_receive_first (ascii : WritesAscii hmac)
    (genuine : Genuine hmac channel dispatch) (skew : Option Skew)
    (unused : dispatch.command.nonce ∉ channel.seenNonces) :
    (channel.receive hmac dispatch true
        (skew.map fun skew => dispatch.command.ts - skew.val)).seenNonces =
      if replayWindow < (channel.seenNonces ++ [dispatch.command.nonce]).length then
        (channel.seenNonces ++ [dispatch.command.nonce]).drop 1
      else channel.seenNonces ++ [dispatch.command.nonce] := by
  have verified := verify_genuine ascii genuine
    (skew.map fun skew => dispatch.command.ts - skew.val)
  dsimp only at verified
  rw [inTime_skew, if_pos ⟨rfl, unused⟩] at verified
  rw [receive, verified]
  rfl

/-- A duplicate whose nonce is remembered leaves the memory as it is. -/
theorem seenNonces_receive_duplicate (ascii : WritesAscii hmac)
    (genuine : Genuine hmac channel dispatch) (now : Option Int)
    (remembered : dispatch.command.nonce ∈ channel.seenNonces) :
    (channel.receive hmac dispatch false now).seenNonces = channel.seenNonces := by
  have verified := verify_genuine ascii genuine now
  dsimp only at verified
  rw [if_neg fun admitted => admitted.2 remembered] at verified
  obtain ⟨reject, rejected⟩ := verified
  rw [receive, rejected]

/-! ## Runs -/

/-- Everything a publication can do: nothing, or sign under a nonce the tracker did not
hold. -/
theorem publish_cases (hmac : HmacSha256) (channel : CommandChannel) (action : Action)
    (ts : Option Int) (world : HomeKeyMqttClient.Circumstances) :
    channel.publish hmac action ts world = channel ∨
    ∃ bytes command, newNonce bytes ∉ channel.client.nonces.seen ∧
      command = HomeKeyMqttClient.commandOf hmac channel.key action (ts.getD world.clock) bytes
        world.entropy.uuid ∧
      channel.publish hmac action ts world =
        { channel with
          client :=
            { channel.client with nonces := channel.client.nonces.remember (newNonce bytes) }
          pending := channel.pending ++
            if world.transmission.leaves then
              [{ action, command,
                 publication := HomeKeyMqttClient.commandPublication channel.householdId
                   channel.nodeId action.spelling command }]
            else [] } := by
  unfold publish HomeKeyMqttClient.asyncPublishAuthenticatedCommand
  rcases signing : channel.client.signCommand hmac channel.key action.spelling ts world.clock
      world.entropy with ⟨after, outcome⟩
  cases outcome with
  | error reason =>
      left
      rw [HomeKeyMqttClient.client_of_signCommand_error signing]
  | ok command =>
      right
      obtain ⟨-, act, bytes, spelled, -, fresh, remembered, made⟩ :=
        HomeKeyMqttClient.signCommand_ok signing
      obtain rfl : action = act :=
        Option.some.inj (((Action.ofString?_spelling action).symm.trans
          (congrArg Action.ofString? spelled)).trans (Action.ofString?_spelling act))
      refine ⟨bytes, command, fresh, made, ?_⟩
      rw [remembered]
      dsimp only
      split <;> rfl

/-- Every command between the client and the node is genuine. -/
def Sound (hmac : HmacSha256) (channel : CommandChannel) : Prop :=
  ∀ dispatch ∈ channel.pending ++ channel.delivered, Genuine hmac channel dispatch

theorem Sound.step (sound : Sound hmac channel) (event : ChannelEvent) :
    Sound hmac (channel.step hmac event) := by
  cases event with
  | publish action ts world =>
      rw [CommandChannel.step]
      rcases publish_cases hmac channel action ts world with
        same | ⟨bytes, command, -, made, next⟩
      · rw [same]
        exact sound
      · rw [next]
        intro dispatch member
        rw [List.append_assoc, List.mem_append, List.mem_append] at member
        rcases member with waiting | added | delivered
        · exact sound dispatch (List.mem_append_left _ waiting)
        · split at added
          · cases List.mem_singleton.mp added
            exact ⟨⟨_, _, _, made⟩, rfl⟩
          · cases added
        · exact sound dispatch (List.mem_append_right _ delivered)
  | deliver skew =>
      rw [CommandChannel.step]
      cases waiting : channel.pending with
      | nil => exact sound
      | cons dispatch rest =>
          intro other member
          refine sound other ?_
          rw [waiting]
          dsimp only at member
          rw [List.mem_append, List.mem_append, List.mem_singleton] at member
          rw [List.mem_append, List.mem_cons]
          tauto
  | redeliver index now =>
      rw [CommandChannel.step]
      cases channel.delivered[index]? with
      | none => exact sound
      | some dispatch => exact sound

/-- A step accepts every command once exactly when the node does not remember the nonce of a
first delivery. -/
theorem verdicts_step_iff (ascii : WritesAscii hmac) (sound : Sound hmac channel)
    (event : ChannelEvent) (before : ∀ verdict ∈ channel.verdicts, verdict.AcceptedOnce) :
    (∀ verdict ∈ (channel.step hmac event).verdicts, verdict.AcceptedOnce) ↔
      Unused channel event := by
  cases event with
  | publish action ts world =>
      refine iff_of_true ?_ trivial
      rw [step]
      rcases publish_cases hmac channel action ts world with same | ⟨bytes, command, -, -, next⟩
      · rw [same]
        exact before
      · rw [next]
        exact before
  | deliver skew =>
      rw [step, Unused]
      cases waiting : channel.pending with
      | nil => exact iff_of_true before (by simp)
      | cons dispatch rest =>
          have genuine := sound dispatch (by rw [waiting]; exact List.mem_cons_self)
          dsimp only
          rw [verdicts_receive, List.forall_mem_append, List.forall_mem_singleton,
            and_iff_right before, acceptedOnce_first_iff ascii genuine]
          simp
  | redeliver index now =>
      refine iff_of_true ?_ trivial
      rw [step]
      cases found : channel.delivered[index]? with
      | none => exact before
      | some dispatch =>
          have genuine := sound dispatch
            (List.mem_append_right _ (List.mem_of_getElem? found))
          rw [verdicts_receive, List.forall_mem_append, List.forall_mem_singleton]
          exact ⟨before, acceptedOnce_duplicate ascii genuine now⟩

/-- A step adds verdicts and takes none back. -/
theorem verdicts_step (hmac : HmacSha256) (channel : CommandChannel) (event : ChannelEvent) :
    ∃ more, (channel.step hmac event).verdicts = channel.verdicts ++ more := by
  cases event with
  | publish action ts world =>
      refine ⟨[], ?_⟩
      rw [step, List.append_nil]
      rcases publish_cases hmac channel action ts world with same | ⟨bytes, command, -, -, next⟩
      · rw [same]
      · rw [next]
  | deliver skew =>
      rw [step]
      cases channel.pending with
      | nil => exact ⟨[], (List.append_nil _).symm⟩
      | cons dispatch rest => exact ⟨_, rfl⟩
  | redeliver index now =>
      rw [step]
      cases channel.delivered[index]? with
      | none => exact ⟨[], (List.append_nil _).symm⟩
      | some dispatch => exact ⟨_, rfl⟩

/-- From any sound state every command is accepted once exactly when no first delivery finds
its nonce remembered. -/
theorem verdicts_run_iff (ascii : WritesAscii hmac) (sound : Sound hmac channel)
    (before : ∀ verdict ∈ channel.verdicts, verdict.AcceptedOnce) (events : List ChannelEvent) :
    (∀ verdict ∈ (run (step hmac) channel events).verdicts, verdict.AcceptedOnce) ↔
      Along (step hmac) Unused channel events := by
  refine @run_iff_along _ _ (step hmac) Unused (Sound hmac)
    (fun channel => ∀ verdict ∈ channel.verdicts, verdict.AcceptedOnce)
    (fun _ event sound => sound.step event) (fun channel event after verdict member => ?_)
    (fun _ event sound before => verdicts_step_iff ascii sound event before) channel events sound
    before
  obtain ⟨more, grown⟩ := verdicts_step hmac channel event
  exact after verdict (grown ▸ List.mem_append_left more member)

theorem Sound.run (sound : Sound hmac channel) (events : List ChannelEvent) :
    Sound hmac (Library.run (CommandChannel.step hmac) channel events) :=
  @run_keeps _ _ (CommandChannel.step hmac) (Sound hmac)
    (fun _ event sound => Sound.step sound event) channel sound events

theorem sound_start (hmac : HmacSha256) (householdId nodeId : String) (key : Bytes) :
    Sound hmac (start householdId nodeId key) := by
  rintro _ ⟨⟩

/-- Every command is accepted when it is delivered for the first time, with the action that
was asked for, and every duplicate rejected whose nonce is remembered, exactly in the runs
in which no first delivery finds its nonce remembered. -/
theorem delivered_as_published_iff (ascii : WritesAscii hmac) (householdId nodeId : String)
    (key : Bytes) (events : List ChannelEvent) :
    (∀ verdict ∈ (run (step hmac) (start householdId nodeId key) events).verdicts,
        verdict.AcceptedOnce) ↔
      Along (step hmac) Unused (start householdId nodeId key) events :=
  verdicts_run_iff ascii (sound_start hmac householdId nodeId key) (fun _ none => by cases none)
    events

/-! ## Nonces that the tracker holds -/

/-- The nonces of the commands that left and were not delivered yet, oldest first. -/
def waiting (channel : CommandChannel) : List String :=
  channel.pending.map fun dispatch => dispatch.command.nonce

/-- Before a publication the tracker holds what the node will remember when everything that
waits has been delivered, and a duplicate that the node has forgotten bears no nonce of the
next commands that wait. -/
def Retaining (channel : CommandChannel) : ChannelEvent → Prop
  | .publish .. =>
      ∀ nonce ∈ (channel.seenNonces ++ channel.waiting).rtake replayWindow,
        nonce ∈ channel.client.nonces.seen
  | .deliver _ => True
  | .redeliver index _ =>
      ∀ dispatch ∈ channel.delivered[index]?, dispatch.command.nonce ∉ channel.seenNonces →
        dispatch.command.nonce ∉ channel.waiting.take replayWindow

/-- No command that waits bears a nonce that the node remembers, or will remember when the
ones before it have been delivered. -/
structure Apart (hmac : HmacSha256) (channel : CommandChannel) : Prop where
  sound : Sound hmac channel
  bounded : channel.seenNonces.length ≤ replayWindow
  spaced : Spaced replayWindow (channel.seenNonces ++ channel.waiting)

theorem apart_start (hmac : HmacSha256) (householdId nodeId : String) (key : Bytes) :
    Apart hmac (start householdId nodeId key) where
  sound := sound_start hmac householdId nodeId key
  bounded := Nat.zero_le _
  spaced := spaced_nil

/-- The node remembers no more than its window. -/
theorem rtake_of_bounded {seenNonces : List String} (bounded : seenNonces.length ≤ replayWindow) :
    seenNonces.rtake replayWindow = seenNonces := by
  rw [List.rtake, Nat.sub_eq_zero_of_le bounded, List.drop_zero]

theorem Apart.unused (apart : Apart hmac channel) (event : ChannelEvent) :
    Unused channel event := by
  cases event with
  | publish action ts world => trivial
  | redeliver index now => trivial
  | deliver skew =>
      intro dispatch oldest
      obtain ⟨rest, pending⟩ := List.head?_eq_some_iff.mp oldest
      have fresh := apart.spaced channel.seenNonces dispatch.command.nonce (by
        rw [waiting, pending, List.map_cons]
        exact ⟨rest.map fun later => later.command.nonce, by rw [List.append_assoc]; rfl⟩)
      rwa [rtake_of_bounded apart.bounded] at fresh

/-- What the node remembers after it accepted a nonce, before what waits. -/
theorem slide_spaced {seenNonces later : List String} {nonce : String}
    (bounded : seenNonces.length ≤ replayWindow)
    (spaced : Spaced replayWindow (seenNonces ++ nonce :: later)) :
    let slid := if replayWindow < (seenNonces ++ [nonce]).length then
      (seenNonces ++ [nonce]).drop 1 else seenNonces ++ [nonce]
    slid.length ≤ replayWindow ∧ Spaced replayWindow (slid ++ later) := by
  intro slid
  have length : (seenNonces ++ [nonce]).length = seenNonces.length + 1 := List.length_append
  have ends : slid <:+ seenNonces ++ [nonce] := by
    unfold slid
    split
    · exact List.drop_suffix _ _
    · exact List.suffix_rfl
  constructor
  · unfold slid
    split
    · rw [List.length_drop]
      omega
    · omega
  · refine spaced.suffix ?_
    rw [List.append_cons]
    obtain ⟨forgotten, whole⟩ := ends
    exact ⟨forgotten, by rw [← List.append_assoc, whole]⟩

/-- A nonce that is drawn is none that the node will remember. -/
theorem Apart.publish (apart : Apart hmac channel) (action : Action) (ts : Option Int)
    (world : HomeKeyMqttClient.Circumstances)
    (retaining : Retaining channel (.publish action ts world)) :
    Apart hmac (channel.publish hmac action ts world) := by
  have sound := apart.sound.step (.publish action ts world)
  rw [CommandChannel.step] at sound
  rcases publish_cases hmac channel action ts world with
    same | ⟨bytes, command, fresh, made, next⟩
  · rw [same]
    exact apart
  · rw [next] at sound ⊢
    refine ⟨sound, apart.bounded, ?_⟩
    rw [waiting, List.map_append, ← List.append_assoc]
    split
    · have nonce : command.nonce = newNonce bytes := congrArg AuthenticatedCommand.nonce made
      rw [List.map_singleton, spaced_append_singleton, nonce]
      exact ⟨apart.spaced, fun recent => fresh (retaining _ recent)⟩
    · rw [List.map_nil, List.append_nil]
      exact apart.spaced

theorem Apart.deliver (ascii : WritesAscii hmac) (apart : Apart hmac channel)
    (skew : Option Skew) : Apart hmac (channel.step hmac (.deliver skew)) := by
  have sound := apart.sound.step (.deliver skew)
  have unused := apart.unused (.deliver skew)
  rw [Unused] at unused
  rw [CommandChannel.step] at sound ⊢
  cases pending : channel.pending with
  | nil => exact apart
  | cons dispatch rest =>
      rw [pending] at sound unused
      have genuine := apart.sound dispatch (by rw [pending]; exact List.mem_cons_self)
      have remembered := seenNonces_receive_first ascii genuine skew (unused dispatch rfl)
      have spaced := apart.spaced
      rw [waiting, pending, List.map_cons] at spaced
      obtain ⟨bounded, spaced⟩ := slide_spaced apart.bounded spaced
      rw [← remembered] at bounded spaced
      exact ⟨sound, bounded, spaced⟩

/-- What a duplicate leaves the node with: nothing new, or its nonce again. -/
theorem seenNonces_redeliver (ascii : WritesAscii hmac) (genuine : Genuine hmac channel dispatch)
    (now : Option Int) :
    (channel.receive hmac dispatch false now).seenNonces = channel.seenNonces ∨
    dispatch.command.nonce ∉ channel.seenNonces ∧
      (channel.receive hmac dispatch false now).seenNonces =
        if replayWindow < (channel.seenNonces ++ [dispatch.command.nonce]).length then
          (channel.seenNonces ++ [dispatch.command.nonce]).drop 1
        else channel.seenNonces ++ [dispatch.command.nonce] := by
  have verified := verify_genuine ascii genuine now
  dsimp only at verified
  split at verified
  · next admitted =>
      right
      refine ⟨admitted.2, ?_⟩
      rw [receive, verified]
      rfl
  · next refused =>
      left
      obtain ⟨reject, rejected⟩ := verified
      rw [receive, rejected]

theorem Apart.redeliver (ascii : WritesAscii hmac) (apart : Apart hmac channel) {index : Nat}
    (now : Option Int) (retaining : Retaining channel (.redeliver index now)) :
    Apart hmac (channel.step hmac (.redeliver index now)) := by
  have sound := apart.sound.step (.redeliver index now)
  rw [CommandChannel.step] at sound ⊢
  rw [Retaining] at retaining
  cases found : channel.delivered[index]? with
  | none => exact apart
  | some dispatch =>
      rw [found] at sound retaining
      have genuine := apart.sound dispatch
        (List.mem_append_right _ (List.mem_of_getElem? found))
      rcases seenNonces_redeliver ascii genuine now with same | ⟨forgotten, remembered⟩
      · refine ⟨sound, ?_, ?_⟩
        · exact same.symm ▸ apart.bounded
        · exact same.symm ▸ apart.spaced
      · have unheld : dispatch.command.nonce ∉ channel.seenNonces.rtake replayWindow := by
          rw [rtake_of_bounded apart.bounded]
          exact forgotten
        have inserted := apart.spaced.insert unheld (retaining dispatch rfl forgotten)
        obtain ⟨bounded, spaced⟩ := slide_spaced apart.bounded inserted
        rw [← remembered] at bounded spaced
        exact ⟨sound, bounded, spaced⟩

theorem Apart.step (ascii : WritesAscii hmac) (apart : Apart hmac channel)
    (event : ChannelEvent) (retaining : Retaining channel event) :
    Apart hmac (channel.step hmac event) := by
  cases event with
  | publish action ts world => exact apart.publish action ts world retaining
  | deliver skew => exact apart.deliver ascii skew
  | redeliver index now => exact apart.redeliver ascii now retaining

/-- In every run in which the tracker holds what the node will remember, and a duplicate that
the node has forgotten comes ahead of no command under its nonce, every command is accepted
when it is delivered for the first time, with the action that was asked for, and every
duplicate rejected whose nonce is remembered. -/
theorem delivered_as_published (ascii : WritesAscii hmac) {householdId nodeId : String}
    {key : Bytes} {events : List ChannelEvent}
    (retaining : Along (step hmac) Retaining (start householdId nodeId key) events) :
    ∀ verdict ∈ (run (step hmac) (start householdId nodeId key) events).verdicts,
      verdict.AcceptedOnce := by
  have unused : Along (step hmac) Unused (start householdId nodeId key) events :=
    Along.of_invariant (fun _ event apart retaining => Apart.step ascii apart event retaining)
      (fun _ event apart _ => Apart.unused apart event)
      (apart_start hmac householdId nodeId key) retaining
  exact (verdicts_run_iff ascii (sound_start hmac householdId nodeId key)
    (fun _ none => by cases none) events).mpr unused

/-! ## Regular runs -/

/-- An event of a regular run: every publication leaves, and duplicates come while their
nonce is remembered. -/
def Prompt (channel : CommandChannel) : ChannelEvent → Prop
  | .publish _ _ world => world.transmission.leaves = true
  | .deliver _ => True
  | .redeliver index _ =>
      ∀ dispatch ∈ channel.delivered[index]?, dispatch.command.nonce ∈ channel.seenNonces

/-- The nonces of the commands that left, in order. -/
def history (channel : CommandChannel) : List String :=
  (channel.delivered ++ channel.pending).map fun dispatch => dispatch.command.nonce

/-- The tracker holds the end of what left, and the node the end of what it got. -/
structure Regular (hmac : HmacSha256) (channel : CommandChannel) : Prop where
  sound : Sound hmac channel
  tracker : channel.client.nonces.HoldsEnd channel.history
  spaced : Spaced commandReplayWindow channel.history
  window : channel.seenNonces =
    (channel.delivered.map fun dispatch => dispatch.command.nonce).rtake replayWindow

theorem regular_start (hmac : HmacSha256) (householdId nodeId : String) (key : Bytes) :
    Regular hmac (start householdId nodeId key) where
  sound := sound_start hmac householdId nodeId key
  tracker := ⟨rfl, [], rfl, Or.inl rfl⟩
  spaced := spaced_nil
  window := rfl

/-- In a regular run no first delivery finds its nonce remembered. -/
theorem Regular.unused (regular : Regular hmac channel) (event : ChannelEvent) :
    Unused channel event := by
  cases event with
  | publish action ts world => trivial
  | redeliver index now => trivial
  | deliver skew =>
      intro dispatch oldest
      obtain ⟨rest, waiting⟩ := List.head?_eq_some_iff.mp oldest
      rw [regular.window]
      refine regular.spaced _ _ ⟨rest.map fun later => later.command.nonce, ?_⟩
      rw [history, waiting, List.map_append, List.map_cons, List.append_assoc,
        List.singleton_append]

/-- What is published joins the history. -/
theorem history_append (channel : CommandChannel) (client : HomeKeyMqttClient)
    (more : List Dispatch) :
    history { channel with client, pending := channel.pending ++ more } =
      channel.history ++ more.map fun dispatch => dispatch.command.nonce := by
  simp [history]

/-- A nonce that is drawn is none of the last that left. -/
theorem Regular.publish (regular : Regular hmac channel) (action : Action) (ts : Option Int)
    (world : HomeKeyMqttClient.Circumstances) (left : world.transmission.leaves = true) :
    Regular hmac (channel.publish hmac action ts world) := by
  have sound := regular.sound.step (.publish action ts world)
  rw [CommandChannel.step] at sound
  rcases publish_cases hmac channel action ts world with
    same | ⟨bytes, command, fresh, made, next⟩
  · rw [same]
    exact regular
  · rw [next] at sound ⊢
    have grown := history_append channel
      { channel.client with nonces := channel.client.nonces.remember (newNonce bytes) }
      (if world.transmission.leaves then
        [{ action, command,
           publication := HomeKeyMqttClient.commandPublication channel.householdId
             channel.nodeId action.spelling command }]
      else [])
    have nonce : command.nonce = newNonce bytes := congrArg AuthenticatedCommand.nonce made
    rw [if_pos left, List.map_singleton, nonce] at grown
    rw [if_pos left] at sound ⊢
    exact
      { sound
        tracker := grown ▸ regular.tracker.remember (newNonce bytes)
        spaced := grown ▸ (spaced_append_singleton _).mpr
          ⟨regular.spaced, fun recent => fresh (regular.tracker.mem_seen recent)⟩
        window := regular.window }

/-- What is delivered goes from what waits to what was delivered, so that the history stays. -/
theorem Regular.deliver (ascii : WritesAscii hmac) (regular : Regular hmac channel)
    (skew : Option Skew) : Regular hmac (channel.step hmac (.deliver skew)) := by
  have sound := regular.sound.step (.deliver skew)
  have unused := regular.unused (.deliver skew)
  rw [Unused] at unused
  rw [CommandChannel.step] at sound ⊢
  cases waiting : channel.pending with
  | nil => exact regular
  | cons dispatch rest =>
      rw [waiting] at sound unused
      have genuine := regular.sound dispatch (by rw [waiting]; exact List.mem_cons_self)
      have remembered := seenNonces_receive_first ascii genuine skew (unused dispatch rfl)
      have kept : (channel.delivered ++ [dispatch] ++ rest).map
          (fun dispatch => dispatch.command.nonce) = channel.history := by
        rw [history, waiting, List.append_assoc, List.singleton_append]
      refine ⟨sound, ?_, ?_, ?_⟩
      · exact (congrArg channel.client.nonces.HoldsEnd kept).mpr regular.tracker
      · exact (congrArg (Spaced commandReplayWindow) kept).mpr regular.spaced
      · rw [regular.window, rtake_slide] at remembered
        refine remembered.trans ?_
        rw [List.map_append]
        rfl

theorem Regular.redeliver (ascii : WritesAscii hmac) (regular : Regular hmac channel) {index : Nat}
    (now : Option Int) (prompt : Prompt channel (.redeliver index now)) :
    Regular hmac (channel.step hmac (.redeliver index now)) := by
  have sound := regular.sound.step (.redeliver index now)
  rw [CommandChannel.step] at sound ⊢
  rw [Prompt] at prompt
  cases found : channel.delivered[index]? with
  | none => exact regular
  | some dispatch =>
      rw [found] at sound prompt
      have genuine := regular.sound dispatch
        (List.mem_append_right _ (List.mem_of_getElem? found))
      have same := seenNonces_receive_duplicate ascii genuine now (prompt dispatch rfl)
      exact ⟨sound, regular.tracker, regular.spaced, same.trans regular.window⟩

theorem Regular.step (ascii : WritesAscii hmac) (regular : Regular hmac channel)
    (event : ChannelEvent) (prompt : Prompt channel event) :
    Regular hmac (channel.step hmac event) := by
  cases event with
  | publish action ts world => exact regular.publish action ts world prompt
  | deliver skew => exact regular.deliver ascii skew
  | redeliver index now => exact regular.redeliver ascii now prompt

/-- In a run whose publications all leave, and whose duplicates come while their nonce is
remembered, no first delivery finds its nonce remembered. -/
theorem unused_of_prompt (ascii : WritesAscii hmac) {householdId nodeId : String} {key : Bytes}
    {events : List ChannelEvent}
    (prompt : Along (step hmac) Prompt (start householdId nodeId key) events) :
    Along (step hmac) Unused (start householdId nodeId key) events :=
  Along.of_invariant (fun _ event regular prompt => Regular.step ascii regular event prompt)
    (fun _ event regular _ => Regular.unused regular event)
    (regular_start hmac householdId nodeId key) prompt

/-- Nor does the tracker forget in such a run what the node will remember. -/
theorem Regular.retaining (regular : Regular hmac channel) (event : ChannelEvent)
    (prompt : Prompt channel event) : Retaining channel event := by
  cases event with
  | deliver skew => trivial
  | redeliver index now =>
      intro dispatch found forgotten
      exact absurd (prompt dispatch found) forgotten
  | publish action ts world =>
      intro nonce recent
      refine regular.tracker.mem_seen ?_
      rw [regular.window, rtake_rtake_append, waiting, ← List.map_append] at recent
      exact recent

theorem retaining_of_prompt (ascii : WritesAscii hmac) {householdId nodeId : String} {key : Bytes}
    {events : List ChannelEvent}
    (prompt : Along (step hmac) Prompt (start householdId nodeId key) events) :
    Along (step hmac) Retaining (start householdId nodeId key) events :=
  Along.of_invariant (fun _ event regular prompt => Regular.step ascii regular event prompt)
    (fun _ event regular prompt => Regular.retaining regular event prompt)
    (regular_start hmac householdId nodeId key) prompt

/-! ### A late duplicate -/

open Household (sampleDraws_nodup sampleDraw middleDraws steadyWorld sampleLockHmac
  ideal_sampleLockHmac sampleKey)

/-- A command under a nonce that neither the tracker nor the node holds, delivered at once. -/
def exchange (bytes : RandomBytes) : List ChannelEvent :=
  [.publish .lock none (steadyWorld bytes), .deliver none]

/-- The command that a steady source gives. -/
def steadyDispatch (hmac : HmacSha256) (channel : CommandChannel) (bytes : RandomBytes) :
    Dispatch :=
  let command := HomeKeyMqttClient.commandOf hmac channel.key .lock
    (steadyWorld bytes).clock bytes (steadyWorld bytes).entropy.uuid
  { action := .lock
    command
    publication := HomeKeyMqttClient.commandPublication channel.householdId channel.nodeId
      Action.lock.spelling command }

theorem nonce_steadyDispatch (hmac : HmacSha256) (channel : CommandChannel)
    (bytes : RandomBytes) : (channel.steadyDispatch hmac bytes).command.nonce = newNonce bytes :=
  rfl

theorem publish_steady (hmac : HmacSha256) (keyed : channel.key ≠ []) {bytes : RandomBytes}
    (fresh : newNonce bytes ∉ channel.client.nonces.seen) :
    channel.publish hmac .lock none (steadyWorld bytes) =
      { channel with
        client := { channel.client with nonces := channel.client.nonces.remember (newNonce bytes) }
        pending := channel.pending ++ [channel.steadyDispatch hmac bytes] } := by
  unfold publish HomeKeyMqttClient.asyncPublishAuthenticatedCommand
  rcases channel.client.signCommand_cases hmac keyed .lock none
      (steadyWorld bytes).clock (steadyWorld bytes).entropy with
    ⟨-, all⟩ | ⟨drawn, member, -, signed⟩
  · have known := all bytes (by simp [steadyWorld, nonceDraws])
    exact absurd known fresh
  · have same : drawn = bytes :=
      List.eq_of_mem_replicate (by simpa [steadyWorld] using member)
    rw [signed, same]
    rfl

/-- The node got everything that left, and remembers the end of it. -/
structure CaughtUp (hmac : HmacSha256) (channel : CommandChannel) (past : List String) :
    Prop where
  sound : Sound hmac channel
  keyed : channel.key ≠ []
  idle : channel.pending = []
  memory : channel.seenNonces = past.rtake replayWindow

theorem caughtUp_start (hmac : HmacSha256) (householdId nodeId : String) {key : Bytes}
    (keyed : key ≠ []) : CaughtUp hmac (start householdId nodeId key) [] where
  sound := sound_start hmac householdId nodeId key
  keyed := keyed
  idle := rfl
  memory := rfl

/-- What an exchange leaves behind. -/
theorem CaughtUp.exchange (ascii : WritesAscii hmac) {past : List String}
    (caught : CaughtUp hmac channel past) {bytes : RandomBytes}
    (fresh : newNonce bytes ∉ channel.client.nonces.seen)
    (unused : newNonce bytes ∉ channel.seenNonces) :
    let after := run (step hmac) channel (exchange bytes)
    CaughtUp hmac after (past ++ [newNonce bytes]) ∧
      after.client.nonces = channel.client.nonces.remember (newNonce bytes) ∧
      after.delivered = channel.delivered ++ [channel.steadyDispatch hmac bytes] ∧
      after.steadyDispatch hmac = channel.steadyDispatch hmac := by
  have sound := caught.sound.run (CommandChannel.exchange bytes)
  rw [CommandChannel.exchange, run_cons, CommandChannel.step, publish_steady hmac caught.keyed fresh,
    caught.idle, List.nil_append, run_cons, run_nil, CommandChannel.step] at sound ⊢
  have genuine : Genuine hmac
      { channel with
        client := { channel.client with nonces := channel.client.nonces.remember (newNonce bytes) }
        pending := [channel.steadyDispatch hmac bytes] }
      (channel.steadyDispatch hmac bytes) := ⟨⟨_, _, _, rfl⟩, rfl⟩
  have remembered := seenNonces_receive_first ascii genuine none
    (by rw [nonce_steadyDispatch]; exact unused)
  refine ⟨⟨sound, caught.keyed, rfl, remembered.trans ?_⟩, rfl, rfl, rfl⟩
  dsimp only
  rw [nonce_steadyDispatch, caught.memory, rtake_slide]

/-- Exchanges under distinct draws fill the tracker while there is room. -/
theorem CaughtUp.exchanges (ascii : WritesAscii hmac) {draws : List RandomBytes}
    (caught : CaughtUp hmac channel channel.client.nonces.seen)
    (distinct : (channel.client.nonces.seen ++ draws.map newNonce).Nodup)
    (room : channel.client.nonces.seen.length + draws.length ≤
      channel.client.nonces.window * 2) :
    let after := run (step hmac) channel (draws.flatMap CommandChannel.exchange)
    CaughtUp hmac after after.client.nonces.seen ∧
      after.client.nonces.window = channel.client.nonces.window ∧
      after.client.nonces.seen = channel.client.nonces.seen ++ draws.map newNonce ∧
      after.delivered = channel.delivered ++ draws.map (channel.steadyDispatch hmac) := by
  induction draws generalizing channel with
  | nil => exact ⟨caught, rfl, (List.append_nil _).symm, (List.append_nil _).symm⟩
  | cons bytes rest ih =>
      have fresh : newNonce bytes ∉ channel.client.nonces.seen := by
        intro known
        exact (List.nodup_append.mp distinct).2.2 _ known _ List.mem_cons_self rfl
      have unused : newNonce bytes ∉ channel.seenNonces := by
        rw [caught.memory]
        exact fun remembered => fresh (List.mem_of_mem_drop remembered)
      obtain ⟨next, tracker, delivered, dispatched⟩ := caught.exchange ascii fresh unused
      rw [List.flatMap_cons, run_append]
      generalize run (step hmac) channel (CommandChannel.exchange bytes) = after
        at next tracker delivered dispatched ⊢
      rw [List.length_cons] at room
      have seen : after.client.nonces.seen = channel.client.nonces.seen ++ [newNonce bytes] := by
        rw [tracker]
        exact NonceTracker.remember_of_room _ (by omega)
      have window : after.client.nonces.window = channel.client.nonces.window := by
        rw [tracker, NonceTracker.remember_window]
      obtain ⟨later, laterWindow, laterSeen, laterDelivered⟩ := @ih after (seen ▸ next)
        (by rw [seen, List.append_assoc]; exact distinct)
        (by rw [seen, window, List.length_append, List.length_singleton]; omega)
      refine ⟨later, laterWindow.trans window, ?_, ?_⟩
      · rw [laterSeen, seen, List.append_assoc]
        rfl
      · rw [laterDelivered, delivered, dispatched, List.append_assoc]
        rfl

/-- One command, 64 others, the first again as a duplicate, and its nonce for a new one. -/
def lateDuplicate : List ChannelEvent :=
  exchange (sampleDraw 0) ++ (middleDraws.flatMap exchange ++
    (exchange (sampleDraw 64) ++
      ([.redeliver 0 none, .publish .lock none (steadyWorld (sampleDraw 0))] ++
        [.deliver none])))

/-- A duplicate that the node has forgotten is accepted and remembered again. -/
theorem CaughtUp.redeliver (ascii : WritesAscii hmac) {past : List String}
    (caught : CaughtUp hmac channel past) {index : Nat}
    (found : channel.delivered[index]? = some dispatch)
    (forgotten : dispatch.command.nonce ∉ channel.seenNonces) :
    let after := channel.step hmac (.redeliver index none)
    CaughtUp hmac after (past ++ [dispatch.command.nonce]) ∧ after.client = channel.client := by
  have sound := caught.sound.step (.redeliver index none)
  have genuine := caught.sound dispatch (List.mem_append_right _ (List.mem_of_getElem? found))
  have remembered := seenNonces_receive_first ascii genuine none forgotten
  rw [caught.memory, rtake_slide] at remembered
  rw [step, found] at sound ⊢
  exact ⟨⟨sound, caught.keyed, caught.idle, remembered⟩, rfl⟩

theorem mem_rtake_append_singleton (past : List String) (nonce : String) :
    nonce ∈ (past ++ [nonce]).rtake replayWindow := by
  rw [List.rtake, List.length_append, List.length_singleton, List.drop_append_of_le_length]
  · exact List.mem_append_right _ (List.mem_singleton_self _)
  · rw [replayWindow]
    omega

/-- A command under a nonce that the tracker has forgotten and the node remembers. -/
theorem CaughtUp.publish_remembered {past : List String} (caught : CaughtUp hmac channel past)
    {bytes : RandomBytes} (fresh : newNonce bytes ∉ channel.client.nonces.seen)
    (held : newNonce bytes ∈ channel.seenNonces) {skew : Option Skew} :
    ¬ Unused (channel.step hmac (.publish .lock none (steadyWorld bytes))) (.deliver skew) := by
  rw [step, publish_steady hmac caught.keyed fresh, caught.idle, List.nil_append, Unused]
  intro unused
  exact unused (channel.steadyDispatch hmac bytes) List.head?_cons held

/-- When the new command is delivered, the node remembers its nonce from the duplicate. -/
theorem lateDuplicate_used (ascii : WritesAscii hmac) :
    ¬ Along (step hmac) Unused (start "HOME001" "GATE-001" [1]) lateDuplicate := by
  have distinct := sampleDraws_nodup
  obtain ⟨firstUnseen, -⟩ := List.nodup_cons.mp distinct
  rw [← List.cons_append] at distinct
  obtain ⟨early, -, lastApart⟩ := List.nodup_append.mp distinct
  rw [lateDuplicate, ← List.append_assoc, ← List.flatMap_cons, along_append, along_append,
    along_append]
  rintro ⟨-, -, -, last, -⟩
  -- the tracker fills up to its two windows
  obtain ⟨caught, window, seen, delivered⟩ := @CaughtUp.exchanges hmac _ ascii
    (sampleDraw 0 :: middleDraws)
    (caughtUp_start hmac "HOME001" "GATE-001" (List.cons_ne_nil 1 [])) early (by decide)
  generalize run (step hmac) (start "HOME001" "GATE-001" [1])
    ((sampleDraw 0 :: middleDraws).flatMap exchange) = filled at last caught window seen delivered
  -- one command more evicts the oldest window
  have lastUnseen : newNonce (sampleDraw 64) ∉ filled.client.nonces.seen := by
    intro known
    rw [seen] at known
    exact lastApart _ known _ (List.mem_singleton_self _) rfl
  obtain ⟨evicts, tracker, joined, -⟩ := caught.exchange ascii lastUnseen
    (by rw [caught.memory]; exact fun recent => lastUnseen (List.mem_of_mem_drop recent))
  generalize run (step hmac) filled (exchange (sampleDraw 64)) = evicted
    at last evicts tracker joined
  have forgotten : newNonce (sampleDraw 0) ∉ evicted.client.nonces.seen := by
    rw [tracker, NonceTracker.remember_of_full _ (by rw [window, seen]; decide), window, seen]
    exact fun kept => firstUnseen (List.mem_of_mem_drop (i := 31) kept)
  have unheld : newNonce (sampleDraw 0) ∉ evicted.seenNonces := by
    rw [evicts.memory, seen]
    exact fun kept => firstUnseen (List.mem_of_mem_drop (i := 32) kept)
  -- the duplicate comes when the node has forgotten it too
  have found : evicted.delivered[0]? = some
      (steadyDispatch hmac (start "HOME001" "GATE-001" [1]) (sampleDraw 0)) := by
    rw [joined, delivered]
    rfl
  obtain ⟨recalls, client⟩ := evicts.redeliver ascii found unheld
  rw [run_cons, run_cons, run_nil] at last
  generalize evicted.step hmac (.redeliver 0 none) = recalled at last recalls client
  exact recalls.publish_remembered (client ▸ forgotten)
    (recalls.memory ▸ mem_rtake_append_singleton _ _) last

/-- Whatever the digest, some command is rejected when it is delivered for the first time. -/
theorem lateDuplicate_rejects :
    ¬ ∃ hmac, WritesAscii hmac ∧ ∀ (householdId nodeId : String) (key : Bytes)
        (events : List ChannelEvent), key ≠ [] →
      ∀ verdict ∈ (run (step hmac) (start householdId nodeId key) events).verdicts,
        verdict.AcceptedOnce := by
  rintro ⟨hmac, ascii, claimed⟩
  exact lateDuplicate_used ascii ((verdicts_run_iff ascii
    (sound_start hmac "HOME001" "GATE-001" [1]) (fun _ none => by cases none) lateDuplicate).mp
      (claimed "HOME001" "GATE-001" [1] lateDuplicate (List.cons_ne_nil _ _)))

/-! ### A late duplicate that does no harm -/

/-- Commands that are delivered one by one make a regular run. -/
theorem prompt_exchanges (hmac : HmacSha256) (channel : CommandChannel)
    (draws : List RandomBytes) :
    Along (step hmac) Prompt channel (draws.flatMap CommandChannel.exchange) := by
  induction draws generalizing channel with
  | nil => trivial
  | cons bytes rest ih =>
      rw [List.flatMap_cons, along_append]
      exact ⟨⟨rfl, trivial, trivial⟩, ih _⟩

/-- Of 34 commands the first is delivered again, when the node has forgotten it and the
tracker has not, and another command follows. -/
def toleratedDuplicate : List ChannelEvent :=
  (sampleDraw 0 :: middleDraws.take 33).flatMap exchange ++
    ([.redeliver 0 none] ++ exchange (sampleDraw 64))

theorem toleratedDuplicate_retaining :
    Along (step sampleLockHmac) Retaining (start "HOME001" "GATE-001" sampleKey)
      toleratedDuplicate := by
  have ascii := ideal_sampleLockHmac.ascii
  have keyed : sampleKey ≠ [] := by decide
  have distinct : ((sampleDraw 0 :: middleDraws.take 33).map newNonce).Nodup := by
    have all := sampleDraws_nodup
    rw [← List.cons_append, ← List.map_cons] at all
    have fewer : (sampleDraw 0 :: middleDraws.take 33).Sublist (sampleDraw 0 :: middleDraws) :=
      (List.take_sublist 33 middleDraws).cons_cons _
    exact (List.nodup_append.mp all).1.sublist (fewer.map newNonce)
  obtain ⟨firstUnseen, -⟩ := List.nodup_cons.mp distinct
  have room : 0 + (sampleDraw 0 :: middleDraws.take 33).length ≤ replayWindow * 2 := by decide
  have begun := caughtUp_start sampleLockHmac "HOME001" "GATE-001" keyed
  obtain ⟨caught, -, seen, delivered⟩ := @CaughtUp.exchanges sampleLockHmac _ ascii
    (sampleDraw 0 :: middleDraws.take 33) begun distinct room
  have early := retaining_of_prompt ascii (prompt_exchanges sampleLockHmac
    (start "HOME001" "GATE-001" sampleKey) (sampleDraw 0 :: middleDraws.take 33))
  rw [toleratedDuplicate, along_append]
  refine ⟨early, ?_⟩
  generalize run (step sampleLockHmac) (start "HOME001" "GATE-001" sampleKey)
    ((sampleDraw 0 :: middleDraws.take 33).flatMap exchange) = filled
    at caught seen delivered ⊢
  -- the node has forgotten the first command, and accepts it again
  have forgotten : newNonce (sampleDraw 0) ∉ filled.seenNonces := by
    rw [caught.memory, seen]
    exact fun kept => firstUnseen (List.mem_of_mem_drop (i := 1) kept)
  have found : filled.delivered[0]? = some
      (steadyDispatch sampleLockHmac (start "HOME001" "GATE-001" sampleKey) (sampleDraw 0)) := by
    rw [delivered]
    rfl
  obtain ⟨recalls, client⟩ := caught.redeliver ascii found forgotten
  refine ⟨?_, ?_, trivial, trivial⟩
  · intro dispatch member
    rw [waiting, caught.idle]
    exact fun _ waits => by cases waits
  · -- the tracker still holds it
    intro nonce recent
    rw [client, seen]
    rw [waiting, recalls.idle, recalls.memory, List.map_nil, List.append_nil, seen] at recent
    have told := List.mem_of_mem_drop (List.mem_of_mem_drop recent)
    rcases List.mem_append.mp told with old | again
    · exact old
    · rw [List.mem_singleton.mp again]
      exact List.mem_cons_self

theorem toleratedDuplicate_delivered :
    Along (step sampleLockHmac) Retaining (start "HOME001" "GATE-001" sampleKey)
        toleratedDuplicate ∧
      ∀ verdict ∈ (run (step sampleLockHmac) (start "HOME001" "GATE-001" sampleKey)
        toleratedDuplicate).verdicts, verdict.AcceptedOnce :=
  ⟨toleratedDuplicate_retaining,
    delivered_as_published ideal_sampleLockHmac.ascii toleratedDuplicate_retaining⟩

end CommandChannel

end HomeKeyHousehold
