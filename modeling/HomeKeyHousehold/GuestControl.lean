import HomeKeyHousehold.DeliveryOrder
import HomeKeyHousehold.GuestViews
import HomeKeyHousehold.Library.Binary64Product
import HomeKeyHousehold.Replacement
import HomeKeyHousehold.RestoreTargets

/-!
# Controlling guest tags

The controls of a node and three services write to its guest tags.  A service names an
entry, or there has to be one entry only; the node is the one that entry polls.  Days are
what a person sets and is shown, and seconds are what the node keeps.
-/

namespace HomeKeyHousehold

open Library

/-! ## One write -/

/-- `int(round(value))`, which fails for an infinite value. -/
def roundedOr (value : Option Binary64) : Except Unit Int :=
  match value with
  | some value => .ok value.roundInt
  | none => .error ()

/-- `int(round(default_validity_days * GUEST_SECONDS_PER_DAY))`. -/
def secondsOfDays (days : Binary64) : Except Unit Int := roundedOr (days.times guestSecondsPerDay)

/-- What a control or a service raises: a message of its own, one that quotes the exception
of the write, or an exception that is passed on. -/
inductive GuestFailure where
  | refused (message : String)
  | quoted (before : String) (raised : Raised)
  | passed (raised : Raised)
  deriving DecidableEq

/-- What is said of a write that fails. -/
def GuestCommand.failure : GuestCommand → String
  | .setAccess (some true) _ => "Could not enable guest access: "
  | .setAccess (some false) _ => "Could not disable guest access: "
  | .setAccess none _ => "Could not set the default guest validity: "
  | .teach .. => "Could not arm the card write: "
  | .revoke tagId => "Could not revoke " ++ tagId ++ ": "
  | .cancel => "Could not cancel the card write: "

/-- What one write leaves behind. -/
structure GuestWrite where
  runtime : Runtime
  posted : List Request
  result : Except Raised Answer

namespace Runtime

/-- The coordinator of an entry, with its transport. -/
def asEntry (runtime : Runtime) : Entry :=
  { coordinator := runtime.coordinator
    commandKeyProvider := none
    mqtt :=
      match runtime.transport with
      | .mqtt client => some client
      | .direct _ => none
    direct :=
      match runtime.transport with
      | .mqtt _ => none
      | .direct poller => some poller }

/-- A guest command of the coordinator of an entry. -/
def asyncGuestCommand (runtime : Runtime) (nodeId : String) (command : GuestCommand)
    (reply : Reply) (refresh : PollWorld) : GuestWrite :=
  let commanded := runtime.asEntry.asyncGuestCommand nodeId command reply refresh
  { runtime :=
      { runtime with
        coordinator := commanded.entry.coordinator
        transport := (commanded.entry.direct.map Transport.direct).getD runtime.transport }
    posted := commanded.posted
    result := commanded.result }

/-- `guest_manageable`. -/
def guestManageable (runtime : Runtime) : Bool := runtime.asEntry.direct.isSome

end Runtime

/-! ## The controls of a node -/

/-- The guest controls of a node, each with what it is set to. -/
inductive GuestControl where
  | turnOn
  | turnOff
  | setNativeValue (days : Binary64)
  | teach
  | cancel

namespace GuestControl

/-- What using a control asks of the coordinator. -/
def command : GuestControl → GuestCommand
  | turnOn => .setAccess (some true) none
  | turnOff => .setAccess (some false) none
  | setNativeValue days => .setAccess none (some (secondsOfDays days))
  | teach => .teach none none
  | cancel => .cancel

/-- `available` of the guest controls: the node is online, the transport can manage guest
tags, and the node has reported some. -/
def available (runtime : Runtime) (nodeId : String) : Bool :=
  let node := runtime.coordinator.getNode nodeId
  node.any Node.available && runtime.guestManageable && (guestOf node).isSome

/-- Using a control: the write, and what is raised. -/
def use (runtime : Runtime) (nodeId : String) (control : GuestControl) (reply : Reply)
    (refresh : PollWorld) : GuestWrite × Option GuestFailure :=
  let write := runtime.asyncGuestCommand nodeId control.command reply refresh
  (write,
    match write.result with
    | .ok _ => none
    | .error raised => some (.quoted control.command.failure raised))

end GuestControl

/-! ## The services -/

inductive GuestService where
  | teach
  | revoke
  | cancel
  deriving DecidableEq, Repr

/-- `_runtime_for`: a key that is no text is the id of no entry, or cannot be one. -/
def runtimeFor (runtimes : Keyed Runtime.entryId) (data : Dict) : Except GuestFailure Runtime :=
  match runtimes.entries with
  | [] => .error (.refused "No HomeKey Household entry is set up")
  | first :: others =>
      let requested := Json.get data "config_entry_id"
      if requested.truthy then
        match requested with
        | .arr _ | .obj _ => .error (.passed .other)
        | .str entryId =>
            match runtimes.get? entryId with
            | some runtime => .ok runtime
            | none => .error (.refused ("Unknown HomeKey config entry: " ++ entryId))
        | _ => .error (.refused ("Unknown HomeKey config entry: " ++ requested.text))
      else if others = [] then .ok first
      else
        .error (.refused
          "Several HomeKey entries are set up; choose one with config_entry_id")

/-- `_node_id_for`. -/
def nodeIdFor (runtime : Runtime) : Except GuestFailure String :=
  match runtime.transport with
  | .mqtt _ =>
      .error (.refused
        "Managing guest tags needs the direct (TLS) transport; this entry uses MQTT")
  | .direct poller =>
      match unlessBlank poller.nodeId with
      | some nodeId => .ok nodeId
      | none =>
          .error (.refused
            "The node has not answered a poll yet, so there is no reader to teach")

/-- `str(call.data.get(key) or "").strip()`. -/
def strippedText (data : Dict) (key : String) : String :=
  strip ((Json.get data key).orElse (.str "")).text

/-- The days a card is valid for, by Python's conversion to a float. -/
def validDaysOf (toFloat : Json → Except Raised Json) (data : Dict) :
    Except GuestFailure (Option Json) :=
  match Json.get data "valid_days" with
  | .null => .ok none
  | days => ((toFloat days).map some).mapError GuestFailure.passed

/-- The command a call asks for. -/
def GuestService.command (toFloat : Json → Except Raised Json) (service : GuestService)
    (data : Dict) : Except GuestFailure GuestCommand :=
  match service with
  | .teach =>
      (validDaysOf toFloat data).map (.teach (unlessBlank (strippedText data "label")))
  | .revoke =>
      let tagId := strippedText data "tag_id"
      if tagId = "" then .error (.refused "A tag_id is required to revoke a guest tag")
      else .ok (.revoke tagId)
  | .cancel => .ok .cancel

/-- What one call leaves behind; a request is recorded with its entry. -/
structure GuestServed where
  runtimes : Keyed Runtime.entryId
  posted : List (String × Request)
  failure : Option GuestFailure

/-- What a call has decided when it writes. -/
def GuestService.resolve (toFloat : Json → Except Raised Json) (service : GuestService)
    (runtimes : Keyed Runtime.entryId) (data : Dict) :
    Except GuestFailure (Runtime × String × GuestCommand) := do
  let runtime ← runtimeFor runtimes data
  let nodeId ← nodeIdFor runtime
  let command ← service.command toFloat data
  pure (runtime, nodeId, command)

/-- `_teach`, `_revoke` and `_cancel`. -/
def GuestService.call (toFloat : Json → Except Raised Json) (service : GuestService)
    (runtimes : Keyed Runtime.entryId) (data : Dict) (reply : Reply) (refresh : PollWorld) :
    GuestServed :=
  match service.resolve toFloat runtimes data with
  | .error failure => ⟨runtimes, [], some failure⟩
  | .ok (runtime, nodeId, command) =>
      let write := runtime.asyncGuestCommand nodeId command reply refresh
      { runtimes := runtimes.put write.runtime
        posted := write.posted.map (runtime.entryId, ·)
        failure :=
          match write.result with
          | .ok _ => none
          | .error raised => some (.quoted command.failure raised) }

/-! ## What one write does -/

/-- The endpoint of a command. -/
def GuestCommand.path : GuestCommand → String
  | .setAccess .. => "/api/ha/guest/config"
  | .teach .. => "/api/ha/guest/teach"
  | .revoke _ => "/api/ha/guest/revoke"
  | .cancel => "/api/ha/guest/cancel"

section

variable {runtime : Runtime} {poller : DirectPoller} {nodeId entryId : String}
variable {command : GuestCommand} {reply : Reply} {refresh : PollWorld}

/-- A command is refused without a request, or posted to its endpoint. -/
theorem postGuest_cases (poller : DirectPoller) (command : GuestCommand) (reply : Reply) :
    (command.isRequest = false ∧ (poller.postGuest command reply).sent = [] ∧
      ∃ raised, (poller.postGuest command reply).result = .error raised) ∨
    (command.isRequest = true ∧
      ∃ body, poller.postGuest command reply = poller.client.post command.path body reply) := by
  cases command with
  | setAccess enabled validity =>
      cases validity with
      | none =>
          cases enabled with
          | none => exact Or.inl ⟨rfl, rfl, _, rfl⟩
          | some value => exact Or.inr ⟨rfl, _, rfl⟩
      | some rounded =>
          cases rounded with
          | error raised => exact Or.inl ⟨rfl, rfl, _, rfl⟩
          | ok seconds =>
              cases enabled with
              | none => exact Or.inr ⟨rfl, _, rfl⟩
              | some value => exact Or.inr ⟨rfl, _, rfl⟩
  | teach label validDays => exact Or.inr ⟨rfl, _, rfl⟩
  | revoke tagId =>
      rw [DirectPoller.postGuest, DirectClient.asyncGuestRevoke]
      by_cases blank : tagId = ""
      · rw [if_pos blank]
        exact Or.inl ⟨by simp [GuestCommand.isRequest, blank], rfl, _, rfl⟩
      · rw [if_neg blank]
        exact Or.inr ⟨by simp [GuestCommand.isRequest, blank], _, rfl⟩
  | cancel => exact Or.inr ⟨rfl, _, rfl⟩

/-- What a write sends goes to the endpoint of its command, and is one request. -/
theorem mem_postGuest {request : Request} (sent : request ∈ (poller.postGuest command reply).sent) :
    request.path = command.path ∧ (poller.postGuest command reply).sent = [request] := by
  rcases postGuest_cases poller command reply with ⟨-, nothing, -⟩ | ⟨-, body, posted⟩
  · rw [nothing] at sent
    cases sent
  · rw [posted, DirectClient.post] at sent ⊢
    dsimp only at sent ⊢
    split at sent
    · rw [List.mem_singleton.mp sent, if_pos ‹_›]
      exact ⟨rfl, rfl⟩
    · cases sent

/-- A write that is answered has sent its request. -/
theorem sent_of_answered {answer : Json}
    (answered : (poller.postGuest command reply).result = .ok answer) :
    ∃ request, (poller.postGuest command reply).sent = [request] := by
  rcases postGuest_cases poller command reply with ⟨-, -, raised, refused⟩ | ⟨-, body, posted⟩
  · rw [refused] at answered
    cases answered
  · rw [posted, DirectClient.post] at answered ⊢
    dsimp only at answered ⊢
    cases leaves : reply.leaves with
    | true => exact ⟨_, if_pos rfl⟩
    | false =>
        obtain ⟨raised, unanswered⟩ := request_of_stays poller.client command.path leaves
        rw [unanswered] at answered
        cases answered

namespace Runtime

/-- On a direct entry a guest command is a post, and a poll if that is answered. -/
theorem asyncGuestCommand_direct (direct : runtime.transport = .direct poller) :
    runtime.asyncGuestCommand nodeId command reply refresh =
      let sent := poller.refreshed runtime.coordinator (poller.postGuest command reply) refresh
      { runtime :=
          { runtime with coordinator := sent.coordinator, transport := .direct sent.poller }
        posted := sent.posted
        result := sent.result.map .posted } := by
  have connected : runtime.asEntry.direct = some poller := by rw [asEntry, direct]
  unfold asyncGuestCommand Entry.asyncGuestCommand
  rw [connected]
  rfl

/-- Over MQTT a guest command is refused. -/
theorem asyncGuestCommand_mqtt {client : HomeKeyMqttClient}
    (indirect : runtime.transport = .mqtt client) :
    (runtime.asyncGuestCommand nodeId command reply refresh).runtime = runtime ∧
      (runtime.asyncGuestCommand nodeId command reply refresh).posted = [] ∧
      ∃ raised, (runtime.asyncGuestCommand nodeId command reply refresh).result =
        .error raised := by
  have unconnected : runtime.asEntry.direct = none := by rw [asEntry, indirect]
  unfold asyncGuestCommand Entry.asyncGuestCommand
  rw [unconnected]
  dsimp only [Entry.refuse]
  rw [unconnected]
  exact ⟨rfl, rfl, _, rfl⟩

/-- A guest command that raises leaves its entry as it was. -/
theorem asyncGuestCommand_of_error {raised : Raised}
    (failed : (runtime.asyncGuestCommand nodeId command reply refresh).result = .error raised) :
    (runtime.asyncGuestCommand nodeId command reply refresh).runtime = runtime := by
  cases transport : runtime.transport with
  | mqtt client => exact (asyncGuestCommand_mqtt transport).1
  | direct poller =>
      rw [asyncGuestCommand_direct transport, DirectPoller.refreshed] at failed ⊢
      cases answered : (poller.postGuest command reply).result with
      | ok value =>
          rw [answered] at failed
          cases failed
      | error reason =>
          dsimp only
          rw [← transport]

end Runtime

/-! ## Which node a service reaches -/

/-- A call is for an entry: it names that entry, or none where there is no other. -/
def Selects (runtimes : Keyed Runtime.entryId) (data : Dict) (entryId : String) : Prop :=
  (Json.get data "config_entry_id" = .str entryId ∧ entryId ≠ "") ∨
    ((Json.get data "config_entry_id").truthy = false ∧ runtimes.keys = [entryId])

/-- A call gets to write: it is for an entry of the direct transport, whose node has
answered, and asks for something. -/
structure Resolves (toFloat : Json → Except Raised Json) (service : GuestService)
    (runtimes : Keyed Runtime.entryId) (data : Dict) (runtime : Runtime) (poller : DirectPoller)
    (command : GuestCommand) : Prop where
  running : runtimes.get? runtime.entryId = some runtime
  selected : Selects runtimes data runtime.entryId
  direct : runtime.transport = .direct poller
  answered : (unlessBlank poller.nodeId).isSome = true
  asked : service.command toFloat data = .ok command

variable {runtimes : Keyed Runtime.entryId} {data : Dict} {toFloat : Json → Except Raised Json}
variable {service : GuestService}

/-- The entry that is found is running, and the call is for it. -/
theorem runtimeFor_eq_ok_iff :
    runtimeFor runtimes data = .ok runtime ↔
      runtimes.get? runtime.entryId = some runtime ∧
        Selects runtimes data runtime.entryId := by
  have filled {entryId : String} (named : entryId ≠ "") : (Json.str entryId).truthy = true :=
    decide_eq_true named
  unfold runtimeFor Selects
  cases listed : runtimes.entries with
  | nil =>
      have nothing (wanted : String) : runtimes.get? wanted = none := by
        rw [Keyed.get?, listed]
        rfl
      dsimp only
      rw [nothing]
      simp
  | cons first others =>
      have head : runtimes.get? first.entryId = some first :=
        Keyed.get?_of_mem (listed ▸ List.mem_cons_self)
      have keys : runtimes.keys = first.entryId :: others.map Runtime.entryId := by
        rw [Keyed.keys, listed, List.map_cons]
      generalize Json.get data "config_entry_id" = requested
      dsimp only
      cases asked : requested.truthy with
      | false =>
          rw [if_neg Bool.false_ne_true, keys]
          constructor
          · intro found
            split at found
            · next alone =>
                cases found
                exact ⟨head, Or.inr ⟨rfl, by rw [alone, List.map_nil]⟩⟩
            · cases found
          · rintro ⟨found, ⟨rfl, named⟩ | ⟨-, only⟩⟩
            · rw [filled named] at asked
              cases asked
            · obtain ⟨same, alone⟩ := List.cons.inj only
              rw [if_pos (List.map_eq_nil_iff.mp alone)]
              rw [same, found] at head
              exact congrArg Except.ok (Option.some.inj head).symm
      | true =>
          rw [if_pos rfl]
          cases requested with
          | str entryId =>
              have named : entryId ≠ "" := of_decide_eq_true asked
              dsimp only
              cases found : runtimes.get? entryId with
              | none =>
                  simp only [reduceCtorEq, false_iff, not_and, Json.str.injEq]
                  rintro running (⟨rfl, -⟩ | ⟨stop, -⟩)
                  · rw [found] at running
                    cases running
                  · cases stop
              | some runtime =>
                  simp only [Except.ok.injEq, Json.str.injEq]
                  constructor
                  · rintro rfl
                    have same := Keyed.key_of_get? found
                    exact ⟨same ▸ found, Or.inl ⟨same.symm, same ▸ named⟩⟩
                  · rintro ⟨running, ⟨rfl, -⟩ | ⟨stop, -⟩⟩
                    · exact Option.some.inj (found.symm.trans running)
                    · cases stop
          | null | bool _ | int _ | float _ | arr _ | obj _ => simp

theorem nodeIdFor_eq_ok_iff :
    nodeIdFor runtime = .ok nodeId ↔
      ∃ poller, runtime.transport = .direct poller ∧ unlessBlank poller.nodeId = some nodeId := by
  unfold nodeIdFor
  cases transport : runtime.transport with
  | mqtt client => simp
  | direct poller =>
      cases answered : unlessBlank poller.nodeId with
      | none => simp [answered]
      | some known => simp [answered]

/-- A call that is resolved is for an entry it selects. -/
theorem resolve_eq_ok
    (resolved : service.resolve toFloat runtimes data = .ok (runtime, nodeId, command)) :
    ∃ poller, Resolves toFloat service runtimes data runtime poller command := by
  unfold GuestService.resolve at resolved
  obtain ⟨found, running, rest⟩ := bind_eq_ok.mp resolved
  obtain ⟨named, answered, rest⟩ := bind_eq_ok.mp rest
  obtain ⟨made, asked, rest⟩ := bind_eq_ok.mp rest
  cases rest
  obtain ⟨running, selected⟩ := runtimeFor_eq_ok_iff.mp running
  obtain ⟨poller, direct, known⟩ := nodeIdFor_eq_ok_iff.mp answered
  exact ⟨poller, running, selected, direct, Option.isSome_iff_exists.mpr ⟨nodeId, known⟩, asked⟩

theorem Resolves.resolve_eq (resolves : Resolves toFloat service runtimes data runtime poller
    command) :
    ∃ nodeId, service.resolve toFloat runtimes data = .ok (runtime, nodeId, command) := by
  obtain ⟨nodeId, known⟩ := Option.isSome_iff_exists.mp resolves.answered
  have found := runtimeFor_eq_ok_iff.mpr ⟨resolves.running, resolves.selected⟩
  have named := nodeIdFor_eq_ok_iff.mpr ⟨poller, resolves.direct, known⟩
  refine ⟨nodeId, ?_⟩
  rw [GuestService.resolve, found]
  change (nodeIdFor runtime >>= fun nodeId => service.command toFloat data >>= fun command =>
    pure (runtime, nodeId, command)) = _
  rw [named]
  change (service.command toFloat data >>= fun command => pure (runtime, nodeId, command)) = _
  rw [resolves.asked]
  rfl

/-- A call is for one entry. -/
theorem Resolves.unique {other : Runtime} {otherPoller : DirectPoller}
    {otherCommand : GuestCommand}
    (first : Resolves toFloat service runtimes data runtime poller command)
    (second : Resolves toFloat service runtimes data other otherPoller otherCommand) :
    runtime = other ∧ poller = otherPoller ∧ command = otherCommand := by
  obtain ⟨nodeId, found⟩ := first.resolve_eq
  obtain ⟨otherId, again⟩ := second.resolve_eq
  rw [found] at again
  cases again
  have same := first.direct.symm.trans second.direct
  cases same
  exact ⟨rfl, rfl, rfl⟩

/-- A call is refused with nothing sent and nothing changed, or is one post of the entry it
is for. -/
theorem call_cases (toFloat : Json → Except Raised Json) (service : GuestService)
    (runtimes : Keyed Runtime.entryId) (data : Dict) (reply : Reply) (refresh : PollWorld) :
    (∃ failure, service.call toFloat runtimes data reply refresh =
        ⟨runtimes, [], some failure⟩ ∧
      ∀ runtime poller command, ¬ Resolves toFloat service runtimes data runtime poller command) ∨
    ∃ runtime poller command, Resolves toFloat service runtimes data runtime poller command ∧
      (service.call toFloat runtimes data reply refresh).posted =
        (poller.postGuest command reply).sent.map (runtime.entryId, ·) ∧
      ((service.call toFloat runtimes data reply refresh).failure = none ↔
        ∃ answer, (poller.postGuest command reply).result = .ok answer) ∧
      ((service.call toFloat runtimes data reply refresh).failure ≠ none →
        (service.call toFloat runtimes data reply refresh).runtimes = runtimes) ∧
      ∀ entryId, entryId ≠ runtime.entryId →
        (service.call toFloat runtimes data reply refresh).runtimes.get? entryId =
          runtimes.get? entryId := by
  unfold GuestService.call
  cases resolved : service.resolve toFloat runtimes data with
  | error failure =>
      refine Or.inl ⟨failure, rfl, fun runtime poller command resolves => ?_⟩
      obtain ⟨nodeId, found⟩ := resolves.resolve_eq
      rw [resolved] at found
      cases found
  | ok decided =>
      obtain ⟨runtime, nodeId, command⟩ := decided
      obtain ⟨poller, resolves⟩ := resolve_eq_ok resolved
      refine Or.inr ⟨runtime, poller, command, resolves, ?_, ?_, ?_, ?_⟩
      · dsimp only
        rw [Runtime.asyncGuestCommand_direct resolves.direct]
        dsimp only
        rw [DirectEntry.posted_refreshed]
      · dsimp only
        rw [Runtime.asyncGuestCommand_direct resolves.direct, DirectPoller.refreshed]
        cases (poller.postGuest command reply).result with
        | ok answer => exact iff_of_true rfl ⟨answer, rfl⟩
        | error raised => exact iff_of_false (by simp [Except.map]) (by simp)
      · dsimp only
        intro failed
        cases answered : (runtime.asyncGuestCommand nodeId command reply refresh).result with
        | ok answer =>
            rw [answered] at failed
            exact absurd rfl failed
        | error raised =>
            rw [Runtime.asyncGuestCommand_of_error answered]
            exact Keyed.put_of_get? resolves.running
      · intro entryId apart
        dsimp only
        exact Keyed.get?_put_of_ne runtimes _ apart

/-- The endpoint of a service. -/
def GuestService.path : GuestService → String
  | .teach => "/api/ha/guest/teach"
  | .revoke => "/api/ha/guest/revoke"
  | .cancel => "/api/ha/guest/cancel"

theorem path_of_command (asked : service.command toFloat data = .ok command) :
    command.path = service.path := by
  cases service with
  | teach =>
      rw [GuestService.command] at asked
      cases read : validDaysOf toFloat data with
      | ok days =>
          rw [read] at asked
          cases asked
          rfl
      | error failure =>
          rw [read] at asked
          cases asked
  | revoke =>
      rw [GuestService.command] at asked
      split at asked
      · cases asked
      · cases asked
        rfl
  | cancel =>
      cases asked
      rfl

/-- A call of a guest service sends one request at most, to the endpoint of the service and
to the node of the entry it is for; whatever the poll after it returns, it succeeds exactly
when that entry is one whose node can be written to, and answers.  A call that raises
changes nothing, and a call changes no entry it is not for. -/
theorem guest_service_reaches_one (toFloat : Json → Except Raised Json) (service : GuestService)
    (runtimes : Keyed Runtime.entryId) (data : Dict) (reply : Reply) (refresh : PollWorld) :
    (service.call toFloat runtimes data reply refresh).posted.length ≤ 1 ∧
      (∀ sent ∈ (service.call toFloat runtimes data reply refresh).posted,
        Selects runtimes data sent.1 ∧ sent.2.path = service.path) ∧
      ((service.call toFloat runtimes data reply refresh).failure = none ↔
        ∃ runtime poller command answer,
          Resolves toFloat service runtimes data runtime poller command ∧
            (poller.postGuest command reply).result = .ok answer) ∧
      ((service.call toFloat runtimes data reply refresh).failure = none →
        (service.call toFloat runtimes data reply refresh).posted.length = 1) ∧
      ((service.call toFloat runtimes data reply refresh).failure ≠ none →
        (service.call toFloat runtimes data reply refresh).runtimes = runtimes) ∧
      ∀ entryId, ¬ Selects runtimes data entryId →
        (service.call toFloat runtimes data reply refresh).runtimes.get? entryId =
          runtimes.get? entryId := by
  rcases call_cases toFloat service runtimes data reply refresh with
    ⟨failure, refused, unresolved⟩ | ⟨runtime, poller, command, resolves, posted, succeeds, kept, others⟩
  · rw [refused]
    refine ⟨Nat.zero_le _, ?_, iff_of_false (by simp) ?_, ?_, fun _ => rfl, fun _ _ => rfl⟩
    · intro sent nothing
      cases nothing
    · rintro ⟨runtime, poller, command, -, resolves, -⟩
      exact unresolved runtime poller command resolves
    · intro success
      cases success
  · rw [posted, List.length_map]
    refine ⟨?_, ?_, ?_, ?_, kept, fun entryId unselected => others entryId ?_⟩
    · cases sent : (poller.postGuest command reply).sent with
      | nil => exact Nat.zero_le _
      | cons request rest =>
          have member : request ∈ (poller.postGuest command reply).sent :=
            sent ▸ List.mem_cons_self
          rw [← sent, (mem_postGuest member).2]
          exact Nat.le_refl _
    · intro sent left
      obtain ⟨request, member, rfl⟩ := List.mem_map.mp left
      exact ⟨resolves.selected, (mem_postGuest member).1.trans (path_of_command resolves.asked)⟩
    · rw [succeeds]
      constructor
      · rintro ⟨answer, answered⟩
        exact ⟨runtime, poller, command, answer, resolves, answered⟩
      · rintro ⟨other, otherPoller, otherCommand, answer, also, answered⟩
        obtain ⟨rfl, rfl, rfl⟩ := also.unique resolves
        exact ⟨answer, answered⟩
    · intro success
      obtain ⟨answer, answered⟩ := succeeds.mp success
      obtain ⟨request, sent⟩ := sent_of_answered answered
      rw [sent]
      rfl
    · rintro rfl
      exact unselected resolves.selected

end

/-! ## The default validity -/

theorem roundedOr_eq_ok {value : Option Binary64} {finite : Binary64} {nearest : Int}
    (found : value = some finite) (rounded : finite.roundInt = nearest) :
    roundedOr value = .ok nearest := by
  rw [found, roundedOr, rounded]

theorem guestSecondsPerDay_pos : 0 < guestSecondsPerDay := by decide

theorem guestSecondsPerDay_le : guestSecondsPerDay ≤ 2 ^ 50 := by decide

/-- The number of days shown for a number of seconds stores that number again. -/
theorem secondsOfDays_trueDivide {seconds : Int} (small : seconds.natAbs ≤ 2 ^ 50) :
    ∃ days, Binary64.trueDivide seconds guestSecondsPerDay = some days ∧
      secondsOfDays days = .ok seconds := by
  obtain ⟨days, product, divided, multiplied, rounded⟩ :=
    Binary64.roundInt_times_trueDivide guestSecondsPerDay_pos guestSecondsPerDay_le
      guestSecondsPerDay_pos small rfl
  exact ⟨days, divided, roundedOr_eq_ok multiplied rounded⟩

/-- A whole number of days stores its seconds, which are shown as that number again. -/
theorem secondsOfDays_whole {days : Int} (small : (days * guestSecondsPerDay).natAbs ≤ 2 ^ 50) :
    ∃ value, Binary64.trueDivide days 1 = some value ∧
      secondsOfDays value = .ok (days * guestSecondsPerDay) ∧
      Binary64.trueDivide (days * guestSecondsPerDay) guestSecondsPerDay = some value := by
  obtain ⟨value, product, divided, multiplied, rounded⟩ :=
    Binary64.roundInt_times_trueDivide Nat.one_pos (by decide) guestSecondsPerDay_pos small
      (by rw [Nat.cast_one, mul_one])
  have again := @Binary64.trueDivide_mul_right 1 days _ guestSecondsPerDay_pos
  rw [Nat.one_mul, divided] at again
  exact ⟨value, divided, roundedOr_eq_ok multiplied rounded, again⟩

/-- The number shows the quotient, when it is finite. -/
theorem nativeValue_of_trueDivide {node : Option Node} {guest : GuestState} {days : Binary64}
    (reported : guestOf node = some guest)
    (divided : Binary64.trueDivide guest.defaultValiditySeconds guestSecondsPerDay = some days) :
    HomeKeyGuestValidityNumber.nativeValue node = .ok (some days) := by
  have finite : guest.defaultValidityDays = .ok days := congrArg finiteOr divided
  rw [HomeKeyGuestValidityNumber.nativeValue, reported]
  exact congrArg (Except.map some) finite

/-- Setting the number asks the node for so many seconds, if the request leaves. -/
def StoresValidity (runtime : Runtime) (nodeId : String) (days : Binary64) (seconds : Int) :
    Prop :=
  ∀ reply refresh,
    ((GuestControl.setNativeValue days).use runtime nodeId reply refresh).1.posted =
      if reply.leaves then
        [⟨"/api/ha/guest/config", .obj [("default_validity_seconds", .int seconds)]⟩]
      else []

/-- On a direct entry using a control sends what its command posts. -/
theorem GuestControl.posted_use {runtime : Runtime} {poller : DirectPoller}
    (direct : runtime.transport = .direct poller) (nodeId : String) (control : GuestControl)
    (reply : Reply) (refresh : PollWorld) :
    (control.use runtime nodeId reply refresh).1.posted =
      (poller.postGuest control.command reply).sent := by
  rw [use, Runtime.asyncGuestCommand_direct direct]
  exact DirectEntry.posted_refreshed runtime.coordinator poller _ refresh

theorem storesValidity {runtime : Runtime} {poller : DirectPoller} {days : Binary64}
    {seconds : Int} (direct : runtime.transport = .direct poller) (nodeId : String)
    (converted : secondsOfDays days = .ok seconds) :
    StoresValidity runtime nodeId days seconds := by
  intro reply refresh
  have command : (GuestControl.setNativeValue days).command =
      .setAccess none (some (.ok seconds)) :=
    congrArg (fun value => GuestCommand.setAccess none (some value)) converted
  rw [GuestControl.posted_use direct, command]
  rfl

/-- What the number shows stores what the node has, and whole days come back as they were
set: the days of a person and the seconds of a node are never out of step, up to `2 ^ 50`
seconds. -/
theorem guestValidity_round_trip (runtime : Runtime) (poller : DirectPoller) (nodeId : String) :
    (∀ node guest, guestOf node = some guest →
        guest.defaultValiditySeconds.natAbs ≤ 2 ^ 50 →
        ∃ days, HomeKeyGuestValidityNumber.nativeValue node = .ok (some days) ∧
          StoresValidity { runtime with transport := .direct poller } nodeId days
            guest.defaultValiditySeconds) ∧
      ∀ days : Int, (days * guestSecondsPerDay).natAbs ≤ 2 ^ 50 →
        ∃ value, Binary64.trueDivide days 1 = some value ∧
          StoresValidity { runtime with transport := .direct poller } nodeId value
            (days * guestSecondsPerDay) ∧
          ∀ node guest, guestOf node = some guest →
            guest.defaultValiditySeconds = days * guestSecondsPerDay →
            HomeKeyGuestValidityNumber.nativeValue node = .ok (some value) := by
  constructor
  · intro node guest reported small
    obtain ⟨days, divided, converted⟩ := secondsOfDays_trueDivide small
    refine ⟨days, ?_, storesValidity rfl nodeId converted⟩
    exact nativeValue_of_trueDivide reported divided
  · intro days small
    obtain ⟨value, divided, converted, again⟩ := secondsOfDays_whole small
    refine ⟨value, divided, storesValidity rfl nodeId converted, fun node guest reported same => ?_⟩
    exact nativeValue_of_trueDivide reported (same ▸ again)

/-! ## When the controls are there -/

namespace Node

/-- The guest state on record is the one that was heard last. -/
theorem guest_note (env : Env) (node : Node) (report : Report) :
    (node.note env report).guest =
      match report with
      | .guestStatus guest => some guest
      | _ => node.guest := by
  cases report with
  | lockLast change => rw [note, withEvent_eq]
  | silence | mention | lastWill | identity | status | health | security | backupStatus
  | backupLast | lastAuth | guestStatus => rfl

theorem guest_hear (householdId nodeId : String) (record : Option Node) (said : Env × Report) :
    (hear householdId nodeId record said).bind guest =
      match said.2 with
      | .guestStatus guest => some guest
      | _ => record.bind guest := by
  obtain ⟨env, report⟩ := said
  cases record with
  | some node => exact guest_note env node report
  | none =>
      rw [hear]
      cases report with
      | silence | lastWill => rfl
      | mention | identity | status | health | lockLast | security | backupStatus | backupLast
      | lastAuth | guestStatus => exact guest_note env (ofId householdId nodeId) _

/-- A guest state is on record once one was accepted, and from then on. -/
theorem isSome_guest_hearAll (householdId nodeId : String) (heard : List (Env × Report)) :
    ((hearAll householdId nodeId heard).bind guest).isSome = true ↔
      ∃ said ∈ heard, said.2.kind = some .guestStatus := by
  induction heard using List.reverseRecOn with
  | nil => simp [hearAll]
  | append_singleton heard said ih =>
      rw [hearAll, run_concat, guest_hear]
      simp only [List.mem_append, List.mem_singleton, or_and_right, exists_or, exists_eq_left]
      rw [← ih, hearAll]
      cases said.2 with
      | guestStatus guest => exact iff_of_true rfl (Or.inr rfl)
      | silence | mention | lastWill | identity | status | health | lockLast | security
      | backupStatus | backupLast | lastAuth => simp [Report.kind]

end Node

/-- An entry whose coordinator started afresh and was handed messages. -/
def Runtime.fed (runtime : Runtime) (householdId : String) (deliveries : List Delivery) :
    Runtime :=
  { runtime with coordinator := run Coordinator.receive (.new householdId) deliveries }

/-- A control that is there reaches its node. -/
theorem GuestControl.use_of_available {runtime : Runtime} {nodeId : String}
    {control : GuestControl} {reply : Reply} (refresh : PollWorld)
    (available : GuestControl.available runtime nodeId = true)
    (asks : control.command.isRequest = true) :
    ∃ poller body, runtime.transport = .direct poller ∧
      (control.use runtime nodeId reply refresh).1.posted =
        (poller.client.post control.command.path body reply).sent ∧
      ((control.use runtime nodeId reply refresh).2 = none ↔
        ∃ answer, poller.client.request control.command.path reply = .ok answer) := by
  rw [GuestControl.available, Bool.and_eq_true, Bool.and_eq_true] at available
  obtain ⟨⟨-, manageable⟩, -⟩ := available
  cases transport : runtime.transport with
  | mqtt client =>
      have unconnected : runtime.asEntry.direct = none := by rw [Runtime.asEntry, transport]
      rw [Runtime.guestManageable, unconnected] at manageable
      cases manageable
  | direct poller =>
      rcases postGuest_cases poller control.command reply with ⟨refused, -⟩ | ⟨-, body, posted⟩
      · rw [asks] at refused
        cases refused
      · refine ⟨poller, body, rfl, ?_, ?_⟩
        · rw [posted_use transport, posted]
        · rw [use, Runtime.asyncGuestCommand_direct transport, DirectPoller.refreshed, posted]
          change _ ↔ ∃ answer, (poller.client.post control.command.path body reply).result =
            .ok answer
          cases (poller.client.post control.command.path body reply).result with
          | ok answer => exact iff_of_true rfl ⟨answer, rfl⟩
          | error raised => exact iff_of_false (by simp [Except.map]) (by simp)

/-- The guest controls of a node are there exactly on a direct entry, while the node is
online, from the first guest document on that was accepted for it.  One that is there is not
refused by the integration: using it posts its command, and fails only if the node does not
accept that. -/
theorem guest_controls_available (runtime : Runtime) (householdId nodeId : String)
    (deliveries : List Delivery) :
    (GuestControl.available (runtime.fed householdId deliveries) nodeId = true ↔
      (∃ poller, runtime.transport = .direct poller) ∧
        (∃ node, Coordinator.knownAfter householdId deliveries nodeId = some node ∧
          node.available = true) ∧
        ∃ said ∈ Node.heardOf householdId nodeId deliveries,
          said.2.kind = some .guestStatus) ∧
      ∀ (control : GuestControl) (reply : Reply) (refresh : PollWorld),
        GuestControl.available (runtime.fed householdId deliveries) nodeId = true →
        control.command.isRequest = true →
          ∃ poller body, runtime.transport = .direct poller ∧
            (control.use (runtime.fed householdId deliveries) nodeId reply refresh).1.posted =
              (poller.client.post control.command.path body reply).sent ∧
            ((control.use (runtime.fed householdId deliveries) nodeId reply refresh).2 = none ↔
              ∃ answer, poller.client.request control.command.path reply = .ok answer) := by
  refine ⟨?_, fun control reply refresh available asks =>
    GuestControl.use_of_available refresh available asks⟩
  have manageable : (runtime.fed householdId deliveries).guestManageable = true ↔
      ∃ poller, runtime.transport = .direct poller := by
    rw [Runtime.guestManageable, Runtime.asEntry, Runtime.fed]
    cases runtime.transport with
    | mqtt client => simp
    | direct poller => simp
  have online (record : Option Node) : record.any Node.available = true ↔
      ∃ node, record = some node ∧ node.available = true := by
    cases record with
    | none => simp
    | some node => simp
  rw [GuestControl.available, Bool.and_eq_true, Bool.and_eq_true, manageable, online, guestOf,
    and_comm (a := ∃ node, _), and_assoc, ← Node.isSome_guest_hearAll, ← Coordinator.knownAfter_eq]
  rfl

end HomeKeyHousehold
