import HomeKeyHousehold.DirectPoller
import HomeKeyHousehold.FirmwareVerifier

/-!
# Commands

A coordinator delivers lock commands over the transport of its entry: signed
publications over MQTT, or requests to the node's own API.  Guest tags are
managed over the API only.
-/

namespace HomeKeyHousehold

open Library

/-- A coordinator with the transports and the key provider of its entry. -/
structure Entry where
  coordinator : Coordinator
  /-- What the command key provider returns, when there is a provider. -/
  commandKeyProvider : Option (Option Bytes)
  mqtt : Option HomeKeyMqttClient
  direct : Option DirectPoller

/-- What the world contributes to one command. -/
structure CommandWorld where
  publishing : HomeKeyMqttClient.Circumstances
  reply : Reply
  refresh : PollWorld

/-- What a command returns to its caller. -/
inductive Answer where
  | published (command : AuthenticatedCommand)
  | posted (value : Json)

/-- What one command call leaves behind. -/
structure Commanded where
  entry : Entry
  published : List Publication
  posted : List Request
  result : Except Raised Answer

/-- What one call over the direct transport leaves behind. -/
structure DirectCommanded where
  coordinator : Coordinator
  poller : DirectPoller
  posted : List Request
  result : Except Raised Json

/-- A guest command, with the arguments its service passes.  A validity in days
is rounded to seconds before it is sent, which fails for an infinite one. -/
inductive GuestCommand where
  | setAccess (enabled : Option Bool) (defaultValidity : Option (Except Unit Int))
  | teach (label : Option String) (validDays : Option Json)
  | revoke (tagId : String)
  | cancel

namespace DirectPoller

/-- Poll after a delivered command; a failed refresh is swallowed. -/
def refreshed (coordinator : Coordinator) (poller : DirectPoller) (posted : Posted)
    (refresh : PollWorld) : DirectCommanded :=
  match posted.result with
  | .error raised => ⟨coordinator, poller, posted.sent, .error raised⟩
  | .ok value =>
      let polled := poller.asyncPollOnce coordinator refresh
      ⟨polled.coordinator, polled.poller, posted.sent, .ok value⟩

/-- `_async_send_direct_command`; the node id names no part of the request. -/
def asyncSendDirectCommand (coordinator : Coordinator) (poller : DirectPoller)
    (_nodeId action : String) (reply : Reply) (refresh : PollWorld) : DirectCommanded :=
  match Action.ofString? action with
  | none =>
      ⟨coordinator, poller, [],
        .error (.validation ⟨"unsupported action: " ++ reprString action⟩)⟩
  | some _ => poller.refreshed coordinator (poller.client.asyncLock action reply) refresh

/-- The request of a guest command. -/
def postGuest (poller : DirectPoller) (command : GuestCommand) (reply : Reply) : Posted :=
  match command with
  | .setAccess enabled none => poller.client.asyncSetGuestConfig enabled none reply
  | .setAccess enabled (some (.ok seconds)) =>
      poller.client.asyncSetGuestConfig enabled (some seconds) reply
  | .setAccess _ (some (.error _)) => ⟨[], .error .other⟩
  | .teach label validDays => poller.client.asyncGuestTeach label validDays reply
  | .revoke tagId => poller.client.asyncGuestRevoke tagId reply
  | .cancel => poller.client.asyncGuestCancel reply

/-- `async_set_guest_access`, `async_teach_guest_tag`, `async_revoke_guest_tag` and
`async_cancel_guest_write`; the node id names no part of the request. -/
def asyncGuestCommand (coordinator : Coordinator) (poller : DirectPoller) (_nodeId : String)
    (command : GuestCommand) (reply : Reply) (refresh : PollWorld) : DirectCommanded :=
  poller.refreshed coordinator (poller.postGuest command reply) refresh

end DirectPoller

namespace Entry

/-- `command_key`: an empty key counts as unavailable. -/
def commandKey (entry : Entry) : Option Bytes :=
  match entry.commandKeyProvider with
  | some (some key) => if key = [] then none else some key
  | _ => none

/-- Refuse without a command. -/
def refuse (entry : Entry) (message : String) : Commanded :=
  ⟨entry, [], [], .error (.validation ⟨message⟩)⟩

/-- `async_send_lock_command`. -/
def asyncSendLockCommand (hmac : HmacSha256) (entry : Entry) (nodeId action : String)
    (world : CommandWorld) : Commanded :=
  match entry.direct with
  | some poller =>
      let sent := poller.asyncSendDirectCommand entry.coordinator nodeId action world.reply
        world.refresh
      { entry := { entry with coordinator := sent.coordinator, direct := some sent.poller }
        published := []
        posted := sent.posted
        result := sent.result.map .posted }
  | none =>
      match entry.commandKey with
      | none =>
          entry.refuse
            "command credential unavailable; refusing to publish an unauthenticated command"
      | some key =>
          match entry.mqtt with
          | none => entry.refuse "MQTT client unavailable"
          | some client =>
              let publish :=
                if action = "lock" then client.asyncLock hmac else client.asyncUnlock hmac
              let sent := publish entry.coordinator.householdId nodeId key none world.publishing
              { entry := { entry with mqtt := some sent.client }
                published := sent.sent
                posted := []
                result := sent.result.map .published }

/-- A guest command, which only the direct transport carries. -/
def asyncGuestCommand (entry : Entry) (nodeId : String) (command : GuestCommand)
    (reply : Reply) (refresh : PollWorld) : Commanded :=
  match entry.direct with
  | none =>
      entry.refuse
        "Managing guest tags needs the direct (TLS) transport; it is not available over MQTT"
  | some poller =>
      let sent := poller.asyncGuestCommand entry.coordinator nodeId command reply refresh
      { entry := { entry with coordinator := sent.coordinator, direct := some sent.poller }
        published := []
        posted := sent.posted
        result := sent.result.map .posted }

end Entry

end HomeKeyHousehold
